import TemplateBundler.Conventions
import TemplateBundler.Template.Language
import TemplateBundler.Text.Alphanumeric
import TemplateBundler.Text.Reader

/-!
# Compiled templates

Compiling a source gives a renderer, which renders on its own and also has code for an artifact.
Templates stand alone: a source in which a tag that needs other templates opens anywhere is
refused, before the language of templates is asked.

    compile filename source flags = .ok r → r.code = templateCode filename source flags
                                                                            (code_of_compile)
-/

namespace TemplateBundler

structure CompileFlags where
  autoescape : Bool
  debug : Bool
deriving DecidableEq, Repr, Inhabited

namespace CompileFlags

/-- Escaping is on and debugging off, unless the configuration says otherwise. -/
def standard : CompileFlags := ⟨true, false⟩

end CompileFlags

inductive Renderer where
  /-- Renders to nothing. -/
  | empty
  | template (filename source : String) (flags : CompileFlags) (rendering : Template.Rendering)
deriving Inhabited

inductive CompileError where
  | unsupported (filename tag : String)
  /-- The causes are those that the language gives. -/
  | malformed (filename : String) (causes : List String)
deriving DecidableEq, Repr

namespace Renderer

/-- A text on one line. -/
def oneLine (s : String) : String := s.map fun c => if c == '\n' then ' ' else c

end Renderer

namespace CompileError

def message : CompileError → String
  | unsupported filename tag =>
    filename ++ ": '\x7b% " ++ tag ++ " %\x7d' is not supported in standalone templates"
  | malformed filename causes =>
    filename ++ ": " ++ Renderer.oneLine (Text.listed ": " causes)

end CompileError

namespace Renderer

open Text (Reader)
open Text.Reader

/-! ## Compiling -/

def isWordChar (c : Char) : Bool := Text.isAlphanumeric c || c == '_'

/-- A tag that needs other templates, as it opens. -/
def unsupportedTag : Reader String := do
  text "\x7b%"
  let _ ← chars (· == '-')
  let _ ← chars Text.isBlank
  let tag ← (text "include" *> pure "include") <|> (text "extends" *> pure "extends")
    <|> (text "import" *> pure "import")
  notAt (char isWordChar)
  pure tag

/-- The first tag of that kind, wherever it opens. -/
def unsupported? : List Char → Option String
  | [] => none
  | c :: cs =>
    match unsupportedTag (c :: cs) with
    | some (tag, _) => some tag
    | none => unsupported? cs

def compile [Template.Language] (filename source : String) (flags : CompileFlags) :
    Except CompileError Renderer :=
  match unsupported? source.toList with
  | some tag => .error (.unsupported filename tag)
  | none =>
    match Template.Language.parse source with
    | .ok rendering => .ok (.template filename source flags rendering)
    | .error causes => .error (.malformed filename causes)

/-! ## Rendering -/

/-- The text in a context, or why there is none. -/
def render (r : Renderer) (context : List (String × Template.Value)) : Except String String :=
  match r with
  | empty => .ok ""
  | template filename _ flags rendering =>
    match rendering flags.autoescape context with
    | .ok text => .ok text
    | .error causes =>
      .error ("Failed to render " ++ filename ++ ": " ++ oneLine (Text.listed ": " causes))

/-! ## Code -/

def functionCode (body : String) : String := "function anonymous(locals) \x7b\n" ++ body ++ "\n\x7d"

/-- A comment line that names the file. -/
def sourceComment (filename : String) : String := "// source: " ++ oneLine filename ++ "\n"

def templateCode (filename source : String) (flags : CompileFlags) : String :=
  functionCode ((if flags.debug then sourceComment filename else "") ++ "return " ++
    Conventions.runtimeName ++ ".render(" ++ Text.json source ++ ", locals, " ++
    toString flags.autoescape ++ ");")

def code : Renderer → String
  | empty => functionCode "return \"\";"
  | template filename source flags _ => templateCode filename source flags

/-- How a diagnostic shows a renderer. -/
def described : Renderer → String
  | empty => "EmptyRenderer"
  | template filename source flags _ =>
    Text.inBraces "TeraRenderer" ("filename: " ++ Text.shown filename ++ ", source_len: " ++
      toString source.utf8ByteSize ++ ", autoescape: " ++ toString flags.autoescape)

/-! ## Lemmas -/

theorem code_of_compile [Template.Language] {filename source : String} {flags : CompileFlags}
    {r : Renderer} (h : compile filename source flags = .ok r) :
    r.code = templateCode filename source flags := by
  unfold compile at h
  split at h
  · cases h
  · split at h
    · injection h with h; subst h; rfl
    · cases h

end Renderer

end TemplateBundler
