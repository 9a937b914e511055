import TemplateBundler.Text.Pieces

/-!
# The script every artifact carries

`clientScript` interprets the template sources of an artifact in a browser. It ends in a line end.
-/

namespace TemplateBundler.Artifact

def clientScriptLines : List String := [
  "// tmplpack client runtime.",
  "//",
  "// Renderers call exports.render(source, locals, escape). Only variable",
  "// interpolation is evaluated on the client: \x7b\x7b a.b.c \x7d\x7d with an optional",
  "// `| safe` filter. Comments are dropped and block tags render as nothing.",
  "",
  "var ESCAPES = \x7b",
  "  \"&\": \"&amp;\",",
  "  \"<\": \"&lt;\",",
  "  \">\": \"&gt;\",",
  "  \"\\\"\": \"&quot;\",",
  "  \"'\": \"&#x27;\",",
  "  \"/\": \"&#x2F;\"",
  "\x7d;",
  "",
  "function escapeHtml(value) \x7b",
  "  return String(value).replace(/[&<>\"'\\/]/g, function(ch) \x7b",
  "    return ESCAPES[ch];",
  "  \x7d);",
  "\x7d",
  "",
  "function lookup(locals, path) \x7b",
  "  var value = locals;",
  "  var keys = path.split(\".\");",
  "  for (var i = 0; i < keys.length; ++i) \x7b",
  "    if (value === null || value === undefined) \x7b",
  "      return \"\";",
  "    \x7d",
  "    value = value[keys[i]];",
  "  \x7d",
  "  return value === null || value === undefined ? \"\" : value;",
  "\x7d",
  "",
  "exports.escape = escapeHtml;",
  "",
  "exports.render = function(source, locals, escape) \x7b",
  "  locals = locals || \x7b\x7d;",
  "  return source",
  "    .replace(/\\\x7b#[\\s\\S]*?#\\\x7d/g, \"\")",
  "    .replace(/\\\x7b%-?[\\s\\S]*?-?%\\\x7d/g, \"\")",
  "    .replace(/\\\x7b\\\x7b-?\\s*([\\w.]+)\\s*(\\|\\s*safe\\s*)?-?\\\x7d\\\x7d/g, function(match, path, safe) \x7b",
  "      var value = lookup(locals, path);",
  "      return escape && !safe ? escapeHtml(value) : String(value);",
  "    \x7d);",
  "\x7d;"]

def clientScript : String := Text.listed "\n" clientScriptLines ++ "\n"

end TemplateBundler.Artifact
