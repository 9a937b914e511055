import TemplateBundler.Disk.Basic
import TemplateBundler.Text.Pieces

/-!
# From paths to places

A path is followed one name at a time from the top or from the working directory. A link is
replaced by its target; more than forty of them on the way are refused. A path that ends in a
separator goes on into what it names, as if a `.` followed.
-/

namespace TemplateBundler.Disk

/-- Where a path leads. -/
inductive Spot where
  | there (place : Place) (node : DiskNode)
  /-- The last name is missing from a directory that is there. -/
  | absent (directory : Place) (name : String)

/-- No path that the system takes is this long, in bytes. -/
def pathLimit : Nat := 4096

/-- The longest name of a file, in bytes. -/
def nameLimit : Nat := 255

/-- The most links that are followed for one path. -/
def linkLimit : Nat := 40

def isLongName (name : String) : Bool := name.utf8ByteSize > nameLimit

def isAbsolute (text : String) : Bool := text.toList.head? == some '/'

def endsInSeparator (text : String) : Bool := text.toList.getLast? == some '/'

/-- The names to follow for a path. -/
def steps (text : String) : List String :=
  Text.cutNonempty '/' text ++ if endsInSeparator text then ["."] else []

/-- Follows names from `here`, through `links` links at most; a link at the very end is followed
only where `follow` says so. -/
def walk (d : Disk) (follow : Bool) (links : Nat) (here : Place) :
    List String → Except Fault Spot
  | [] => .ok (.there here .directory)
  | name :: rest =>
    if name = "." then d.walk follow links here rest
    else if name = ".." then d.walk follow links here.dropLast rest
    else if isLongName name then .error .nameTooLong
    else
      match d.find? (here ++ [name]) with
      | none => if rest.isEmpty then .ok (.absent here name) else .error .missing
      | some .directory => d.walk follow links (here ++ [name]) rest
      | some (.file content modified) =>
        if rest.isEmpty then .ok (.there (here ++ [name]) (.file content modified))
        else .error .notDirectory
      | some (.link target) =>
        if rest.isEmpty && !follow then .ok (.there (here ++ [name]) (.link target))
        else
          match links with
          | 0 => .error .tooManyLinks
          | links + 1 =>
            if target.isEmpty then .error .missing
            else d.walk follow links (if isAbsolute target then [] else here) (steps target ++ rest)
termination_by names => (links, names.length)

/-- Refuses a text that cannot be a path at all. -/
def checkPath (text : String) : Except Fault Unit :=
  if text.toList.any (·.toNat == 0) then .error .nulInPath
  else if text.isEmpty then .error .missing
  else if text.utf8ByteSize ≥ pathLimit then .error .nameTooLong
  else .ok ()

/-- The place a path starts from. -/
def start (d : Disk) (text : String) : Place := if isAbsolute text then [] else d.workingDirectory

def locate (d : Disk) (follow : Bool) (p : FilePath) : Except Fault Spot := do
  checkPath p.text
  d.walk follow linkLimit (d.start p.text) (steps p.text)

/-- The place and node that a path leads to, links followed. -/
def status (d : Disk) (p : FilePath) : Except Fault (Place × DiskNode) := do
  match ← d.locate true p with
  | .there place node => .ok (place, node)
  | .absent _ _ => .error .missing

def isThere (d : Disk) (p : FilePath) : Bool := (d.status p).isOk

def isDirectory (d : Disk) (p : FilePath) : Bool :=
  match d.status p with
  | .ok (_, .directory) => true
  | _ => false

def isFile (d : Disk) (p : FilePath) : Bool :=
  match d.status p with
  | .ok (_, .file _ _) => true
  | _ => false

/-- A name to create or replace in a directory that is there. -/
structure Slot where
  directory : Place
  /-- `none` where the path ends in no name: at the top, in `.` or in `..`. -/
  name : Option String
  /-- Whether a separator follows the name. -/
  isOpen : Bool

/-- The slot that the last name of a path stands for. -/
def slot (d : Disk) (p : FilePath) : Except Fault Slot := do
  checkPath p.text
  let names := Text.cutNonempty '/' p.text
  match ← d.walk true linkLimit (d.start p.text) names.dropLast with
  | .there place .directory =>
    let name := names.getLast?.filter fun n => n ≠ "." && n ≠ ".."
    .ok ⟨place, name, endsInSeparator p.text⟩
  | .there _ _ => .error .notDirectory
  | .absent _ _ => .error .missing

end TemplateBundler.Disk
