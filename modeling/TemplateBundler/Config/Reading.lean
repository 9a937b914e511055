import TemplateBundler.Config.Basic
import TemplateBundler.Toml.Document
import TemplateBundler.Word

/-!
# Configurations as TOML

The fields of a configuration are looked at in the order of their names. The first one that is
unknown, or has a value of another type than it should, is the error; after that come the required
fields that are missing. The table of compile flags may hold anything besides the flags, and a date
or time in its place says nothing about them. A number that is too large is an error where its value
is looked at.
-/

namespace TemplateBundler.Config

inductive TextError where
  /-- The text is no TOML document. -/
  | notToml
  | invalidEscape
  | numberTooLarge
  | unknownField (name : String)
  | wrongType (found expected : String)
  | missingField (name : String)
deriving DecidableEq, Repr

def fieldNames : List String :=
  ["source", "public", "prefix", "global", "reload", "extension", "serve_on_write_failure",
    "compile"]

def ticked (s : String) : String := "\x60" ++ s ++ "\x60"

/-- What is wrong with a document, where there is one. -/
def TextError.reason? : TextError → Option String
  | notToml | numberTooLarge => none
  | invalidEscape => some "invalid value, expected unicode hexadecimal value"
  | unknownField name =>
    some ("unknown field " ++ ticked name ++ ", expected one of " ++
      Text.listed ", " (fieldNames.map ticked))
  | wrongType found expected => some ("invalid type: " ++ found ++ ", expected " ++ expected)
  | missingField name => some ("missing field " ++ ticked name)

/-! ## Values -/

/-- A message tells the width of an integer that has more than 64 bits. -/
def widthOf (n : Int) : String :=
  if Word.isSigned 64 n || Word.isUnsigned 64 n then ""
  else if Word.isSigned 128 n then " as i128"
  else " as u128"

/-- How a message names a value. -/
def kindOf : Toml.Value → String
  | .text s => "string " ++ Text.shown s
  | .integer n => "integer " ++ ticked (toString n) ++ widthOf n
  | .float x => "floating point " ++ ticked (Text.pointed x)
  | .boolean b => "boolean " ++ ticked (toString b)
  | .tooLarge => "number"
  | .array _ => "sequence"
  | .datetime | .table _ => "map"

/-- What is wrong with a value of another type than it should have. -/
def mismatch (expected : String) : Toml.Value → TextError
  | .tooLarge => .numberTooLarge
  | v => .wrongType (kindOf v) expected

def textOf (expected : String) : Toml.Value → Except TextError String
  | .text s => .ok s
  | v => .error (mismatch expected v)

def booleanOf : Toml.Value → Except TextError Bool
  | .boolean b => .ok b
  | v => .error (mismatch "a boolean" v)

def pathOf (v : Toml.Value) : Except TextError FilePath := (textOf "path string" v).map FilePath.mk

def sorted (entries : List (String × Toml.Value)) : List (String × Toml.Value) :=
  entries.mergeSort fun a b => decide (a.1 ≤ b.1)

def readFlag (flags : CompileFlags) (entry : String × Toml.Value) :
    Except TextError CompileFlags :=
  match entry.1 with
  | "autoescape" => (booleanOf entry.2).map fun b => { flags with autoescape := b }
  | "debug" => (booleanOf entry.2).map fun b => { flags with debug := b }
  | _ => if entry.2.isUsable then .ok flags else .error .numberTooLarge

/-- Flags by name, or as a list in the order of their names. -/
def flagsOf : Toml.Value → Except TextError CompileFlags
  | .table entries => (sorted entries).foldlM readFlag CompileFlags.standard
  | .array items => (["autoescape", "debug"].zip items).foldlM readFlag CompileFlags.standard
  | .datetime => .ok CompileFlags.standard
  | v => .error (mismatch "struct CompileFlags" v)

/-! ## Fields -/

/-- A configuration whose required fields may still be missing. -/
structure Draft where
  source : Option FilePath
  urlPrefix : Option String
  rest : Config
deriving Repr, Inhabited

def readField (d : Draft) (entry : String × Toml.Value) : Except TextError Draft :=
  let v := entry.2
  match entry.1 with
  | "source" => (pathOf v).map fun p => { d with source := some p }
  | "prefix" => (textOf "a string" v).map fun s => { d with urlPrefix := some s }
  | "public" => (pathOf v).map fun p => { d with rest.publicDirectory := some p }
  | "global" => (textOf "a string" v).map fun s => { d with rest.global := s }
  | "reload" => (booleanOf v).map fun b => { d with rest.reload := b }
  | "extension" => (textOf "a string" v).map fun s => { d with rest.extension := s }
  | "serve_on_write_failure" =>
    (booleanOf v).map fun b => { d with rest.serveOnWriteFailure := b }
  | "compile" => (flagsOf v).map fun flags => { d with rest.compile := flags }
  | name => .error (.unknownField name)

def Draft.finish (d : Draft) : Except TextError Config :=
  match d.source, d.urlPrefix with
  | none, _ => .error (.missingField "source")
  | some _, none => .error (.missingField "prefix")
  | some source, some urlPrefix => .ok { d.rest with source, urlPrefix }

def ofEntries (entries : List (String × Toml.Value)) : Except TextError Config := do
  let draft ← (sorted entries).foldlM readField ⟨none, none, ofSource ⟨""⟩ ""⟩
  draft.finish

def ofText (text : String) : Except TextError Config :=
  match Toml.parse text with
  | .ok entries => ofEntries entries
  | .error .malformed => .error .notToml
  | .error .noCharacter => .error .invalidEscape

end TemplateBundler.Config
