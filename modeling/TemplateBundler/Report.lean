import TemplateBundler.Error
import TemplateBundler.Text.Pieces

/-!
# Reports to a user

A report is a cause with the contexts it passed through. `Report.chain` is its messages on one
line; `Report.advice` is what a user sees: the message with details and a suggestion, which the
cause alone determines where it is an error of the library or of the configuration text.
-/

namespace TemplateBundler

/-- A message with what may help to understand and mend it. -/
structure Advice where
  /-- The error the message belongs to, if it is one of the library's. -/
  error : Option BundleError
  message : String
  details : Option String
  suggestion : Option String
deriving DecidableEq, Repr, Inhabited

namespace Advice

def ofMessage (message : String) : Advice := ⟨none, message, none, none⟩

def withDetails (a : Advice) (details : String) : Advice := { a with details := some details }

def withSuggestion (a : Advice) (suggestion : String) : Advice :=
  { a with suggestion := some suggestion }

def text (a : Advice) : String :=
  a.message ++
    (match a.details with
      | some details => "\nDetails: " ++ details
      | none => "") ++
    (match a.suggestion with
      | some suggestion => "\nSuggestion: " ++ suggestion
      | none => "")

/-- The advice for an error of the library. -/
def ofError (e : BundleError) : Advice :=
  let plain : Advice := ⟨some e, e.message, none, none⟩
  match e with
  | .sourceRead _ fault =>
    (plain.withDetails fault.message).withSuggestion
      "Check that the source directory exists and is readable"
  | .compile _ block _ =>
    (plain.withDetails "A template that fails to compile aborts the whole build").withSuggestion <|
      if block.isSome then
        "Fix the template syntax in the named block (blocks start at a `//-- <name>.tmpl` line)"
      else
        "Fix the template syntax: variables use \x7b\x7b var \x7d\x7d, control flow uses \x7b% %\x7d"
  | .notFound _ => plain.withSuggestion "Run 'tmplpack tree' to list the available key paths"
  | .storage _ reason =>
    (plain.withDetails reason).withSuggestion
      "Check permissions of the public directory, or enable serve_on_write_failure"
  | .invalidConfig _ _ =>
    plain.withSuggestion "Check tmplpack.toml or the command-line overrides"

end Advice

inductive Cause where
  | error (e : BundleError)
  | advice (a : Advice)
  /-- A configuration text that cannot be read, and why, where the text is a document at all. -/
  | configText (reason : Option String)
  | fault (f : Fault)
  | message (s : String)
deriving DecidableEq, Repr, Inhabited

def configTextMessage (reason : Option String) : String :=
  reason.getD "the text is not a TOML document"

def Cause.messages : Cause → List String
  | error e => e.messages
  | advice a => [a.text]
  | configText reason => [configTextMessage reason]
  | fault f => [f.message]
  | message s => [s]

structure Report where
  /-- The outermost context first. -/
  contexts : List String
  cause : Cause
deriving DecidableEq, Repr, Inhabited

namespace Report

def ofError (e : BundleError) : Report := ⟨[], .error e⟩

def ofMessage (s : String) : Report := ⟨[], .message s⟩

/-- A fault with one context around it. -/
def ofFault (context : String) (f : Fault) : Report := ⟨[context], .fault f⟩

/-- The report with one more context around it. -/
def within (r : Report) (context : String) : Report := { r with contexts := context :: r.contexts }

def messages (r : Report) : List String := r.contexts ++ r.cause.messages

/-- The outermost message. -/
def message (r : Report) : String := r.messages.head?.getD ""

/-- All messages on one line. -/
def chain (r : Report) : String := Text.listed ": " r.messages

/-- Lines that number the causes of the outermost message. -/
def causeLines (causes : List String) : String :=
  if causes.isEmpty then ""
  else
    "\n\nCaused by:" ++
      String.join (causes.zipIdx.map fun (cause, i) => "\n  " ++ toString (i + 1) ++ ": " ++ cause)

def advice (r : Report) : Advice :=
  match r.cause with
  | .advice a => a
  | .error e => .ofError e
  | .configText reason =>
    (Advice.ofMessage ("Failed to parse configuration: " ++ configTextMessage reason)).withSuggestion
      "Check the TOML syntax of tmplpack.toml. Verify quotes, brackets, and key names"
  | _ => .ofMessage (r.message ++ causeLines (r.messages.drop 1))

end Report

end TemplateBundler
