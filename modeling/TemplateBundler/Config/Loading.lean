import TemplateBundler.Config.Reading
import TemplateBundler.Disk.Files
import TemplateBundler.Report

/-!
# Finding and loading a configuration

A file that is named must be there; else the one in the working directory is taken if there is one;
else the overrides have to do. Paths in a file are relative to its directory, and overrides come on
top of them.
-/

namespace TemplateBundler.Config

/-- The configuration in a file. -/
def ofFile (d : Disk) (p : FilePath) : Except Report Config :=
  match d.readText p with
  | .error e => .error (.ofFault ("Failed to read config file: " ++ p.text) e)
  | .ok text =>
    match ofText text with
    | .ok c => .ok c
    | .error e =>
      .error ⟨["Failed to parse config file: " ++ p.text], .configText e.reason?⟩

/-- The configuration file to use, if any. -/
def locate (d : Disk) (explicit : Option FilePath) (directory : FilePath) :
    Except Report (Option FilePath) :=
  match explicit with
  | some p =>
    if d.isFile p then .ok (some p) else .error (.ofMessage ("Config file not found: " ++ p.text))
  | none =>
    let p := directory.join ⟨Conventions.configFile⟩
    .ok (if d.isFile p then some p else none)

def orReport {α : Type} : Except BundleError α → Except Report α
  | .ok a => .ok a
  | .error e => .error (.ofError e)

/-- The configuration from a file and from overrides, as they give it. -/
def assemble (d : Disk) (explicit : Option FilePath) (directory : FilePath) (o : Overrides) :
    Except Report Config := do
  match ← locate d explicit directory with
  | some p =>
    let c ← ofFile d p
    .ok ((c.relativeTo (p.parent?.getD directory)).withOverrides o)
  | none =>
    let c ← orReport (ofOverrides o)
    .ok (c.relativeTo directory)

/-- The configuration from a file and from overrides, in its normal form. -/
def load (d : Disk) (explicit : Option FilePath) (directory : FilePath) (o : Overrides) :
    Except Report Config := do
  let c ← assemble d explicit directory o
  orReport (normalize d c)

end TemplateBundler.Config
