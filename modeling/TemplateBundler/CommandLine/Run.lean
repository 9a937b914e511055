import TemplateBundler.CommandLine.Invocation
import TemplateBundler.CommandLine.Listing
import TemplateBundler.Config.Loading
import TemplateBundler.Service
import TemplateBundler.Suggestion
import TemplateBundler.Template.Stock

/-!
# Running a command

A command loads the configuration, starts a service, and prints. One that fails prints nothing but
the advice on its report.
-/

namespace TemplateBundler.CommandLine

/-- What a command prints. -/
structure Printed where
  output : String
  /-- What goes to the error stream. -/
  notes : String
deriving DecidableEq, Repr, Inhabited

/-- The end of a run. -/
abbrev Run := Except Report Printed

namespace Run

def exitCode : Run → Nat
  | .ok _ => 0
  | .error _ => 1

/-- What a run prints in all. -/
def printed (colours : Bool) : Run → Printed
  | .ok p => p
  | .error r => ⟨"", r.advice.printed colours⟩

end Run

/-! ## Building -/

def buildNeedsPublic : String :=
  "`build` writes artifacts to disk: set `public` in tmplpack.toml or pass --public"

/-- The report of an error, with key paths of the tree that are like a missing one. -/
def reportNear (t : UnitTree) (e : BundleError) : Report :=
  match e with
  | .notFound k =>
    let advice (suggestion : String) : Report :=
      ⟨[], .advice ⟨some e, e.message, none, some suggestion⟩⟩
    match suggestions k (t.keyPaths.map KeyPath.text) with
    | [] => advice "Run 'tmplpack tree' to list the available key paths"
    | near => advice ("Did you mean: " ++ Text.listed ", " near)
  | e => .ofError e

/-- Serves key paths one after the other, also behind one that fails. -/
def serveAll (s : Service) (d : Disk) :
    List KeyPath → List (KeyPath × Except BundleError Served) × Service × Disk
  | [] => ([], s, d)
  | k :: ks =>
    let (served, s, d) := s.serve d k
    let (rest, s, d) := serveAll s d ks
    ((k, served) :: rest, s, d)

def buildRow (colours : Bool) (k : KeyPath) : Served → Option String
  | .inline _ _ => none
  | .stored path action =>
    let name := if k.isRoot then "<root>" else k.text
    some <| match action with
      | .rebuilt =>
        Style.green.paint colours action.text ++ " " ++ Style.bold.paint colours name ++ " -> " ++
          path.text ++ "\n"
      | .reused =>
        Style.dimmed.paint colours action.text ++ " " ++ name ++ " -> " ++ path.text ++ "\n"

def isStoredAnew : Served → Bool
  | .stored _ .rebuilt => true
  | _ => false

def buildText (colours : Bool) (results : List (KeyPath × Served)) : String :=
  String.join (results.filterMap fun (k, served) => buildRow colours k served) ++
    toString (results.countP fun r => isStoredAnew r.2) ++ " of " ++ toString results.length ++
    " artifacts rebuilt\n"

/-- All the values, or the first error. -/
def allServed : List (KeyPath × Except BundleError Served) →
    Except BundleError (List (KeyPath × Served)) :=
  List.mapM fun (k, served) => served.map fun s => (k, s)

def runBuild (colours : Bool) (c : Config) (keyPaths : List String) (force : Bool) (d : Disk) :
    Run × Disk :=
  if c.publicDirectory.isNone then (.error (.ofMessage buildNeedsPublic), d)
  else
    match Service.start { c with reload := force || c.reload } d with
    | (.error e, d) => (.error (.ofError e), d)
    | (.ok s, d) =>
      let ks := if keyPaths.isEmpty then [KeyPath.root] else keyPaths.map KeyPath.parse
      let (results, s, d) := serveAll s d ks
      match allServed results with
      | .ok results => (.ok ⟨buildText colours results, ""⟩, d)
      | .error e => (.error (reportNear s.tree e), d)

/-! ## Handling a request -/

/-- A text with the small ASCII letters made capital. -/
def capitals (s : String) : String := s.map Char.toUpper

def getPrinted (colours : Bool) (method url : String) : Outcome → Printed
  | .passThrough =>
    ⟨"", Style.yellow.paint colours "pass-through" ++ " " ++ url ++ " is not handled by tmplpack\n"⟩
  | .served (.stored path action) =>
    ⟨path.text ++ "\n", Style.dimmed.paint colours action.text ++ " " ++ path.text ++ "\n"⟩
  | .served (.inline artifact action) =>
    ⟨if method = "HEAD" then "" else artifact.body ++ "\n",
      Style.dimmed.paint colours action.text ++ " " ++ Conventions.contentType ++ " (" ++
        toString artifact.body.utf8ByteSize ++ ")\n"⟩

def runGet (colours : Bool) (c : Config) (url method : String) (d : Disk) : Run × Disk :=
  match Service.start c d with
  | (.error e, d) => (.error (.ofError e), d)
  | (.ok s, d) =>
    let method := capitals method
    match s.handle d method url with
    | (.error e, _, d) => (.error (.ofError e), d)
    | (.ok outcome, _, d) => (.ok (getPrinted colours method url outcome), d)

/-! ## Listing the tree -/

def runTree (colours : Bool) (c : Config) (showPaths : Bool) (d : Disk) : Run × Disk :=
  match Service.start c d with
  | (.error e, d) => (.error (.ofError e), d)
  | (.ok s, d) => (.ok ⟨Listing.text ⟨colours, showPaths, Time.text⟩ s.tree, ""⟩, d)

/-! ## All commands -/

def Command.run (colours : Bool) (c : Config) (d : Disk) : Command → Run × Disk
  | .build keyPaths force => runBuild colours c keyPaths force d
  | .get url method => runGet colours c url method d
  | .tree showPaths => runTree colours c showPaths d

/-- The directory that paths without a start are relative to. -/
def homeDirectory (d : Disk) : FilePath := ⟨"/" ++ Text.glue '/' d.workingDirectory⟩

/-- Whether a run prints in colours, where the place it prints to takes them. -/
def Invocation.colours (i : Invocation) (taken : Bool) : Bool := taken && !i.settings.noColor

/-- Runs a command. -/
def Invocation.run (i : Invocation) (colours : Bool) (d : Disk) : Run × Disk :=
  match Config.load d i.settings.config (homeDirectory d) i.settings.overrides with
  | .error r => (.error r, d)
  | .ok c => i.command.run colours c d

end TemplateBundler.CommandLine
