import TemplateBundler.Association
import TemplateBundler.Disk.Fault
import TemplateBundler.FilePath
import TemplateBundler.Time

/-!
# A file system as a value

A disk maps places to nodes. A place is the list of names that leads to it from the top; it holds
no `.`, no `..` and passes through no link. The top itself is always a directory. The clock moves on
with each time that is taken from it. What becomes of a file that is written at a time is up to the
device below the disk: it stamps the file with a time of its own, and the writing may fail.

    (d.put p n).find? p = some n        for p not the top        (find?_put)
-/

namespace TemplateBundler

abbrev Place := List String

inductive Content where
  | text (s : String)
  /-- Bytes that are no text. -/
  | binary
deriving DecidableEq, Repr, Inhabited

inductive DiskNode where
  | directory
  | file (content : Content) (modified : Time)
  | link (target : String)
deriving DecidableEq, Repr, Inhabited

/-- What a disk is kept on. -/
class Device where
  /-- The time that a file gets which is written at the given time. -/
  stamp : Time → Time
  /-- What goes wrong with a file that is written at the given time, if anything does. -/
  writeFault? : Time → Option WriteFault

/-- A device on which nothing goes wrong, and whose time is that of the clock. -/
instance : Device := ⟨id, fun _ => none⟩

structure Disk where
  nodes : List (Place × DiskNode)
  workingDirectory : Place
  clock : Time
  [device : Device]
deriving Inhabited

namespace Disk

/-! ## Nodes -/

def find? (d : Disk) (p : Place) : Option DiskNode :=
  if p = [] then some .directory else d.nodes.lookup p

def put (d : Disk) (p : Place) (n : DiskNode) : Disk := { d with nodes := Association.assign p n d.nodes }

/-- Takes a place away with everything below it. -/
def erase (d : Disk) (p : Place) : Disk :=
  { d with nodes := d.nodes.filter fun node => !p.isPrefixOf node.1 }

/-- The names in a directory with their nodes, in name order. -/
def listing (d : Disk) (p : Place) : List (String × DiskNode) :=
  let inside := d.nodes.filterMap fun (q, n) =>
    match q.getLast? with
    | some name => if q.dropLast = p then some (name, n) else none
    | none => none
  inside.mergeSort fun a b => decide (a.1 ≤ b.1)

/-- Takes a time from the clock. -/
def tick (d : Disk) : Time × Disk := (d.clock, { d with clock := d.clock + 1 })

/-- The time of a file that is written now. -/
def stamp (d : Disk) : Time := d.device.stamp d.clock

/-! ## What may be relied on -/

/-- Every file that is written is written in full. -/
def Reliable (d : Disk) : Prop := ∀ now, d.device.writeFault? now = none

/-- A file that is written is stamped with the time at which it is written. -/
def Punctual (d : Disk) : Prop := ∀ now, d.device.stamp now = now

/-! ## Lemmas -/

theorem find?_put (d : Disk) (p : Place) (n : DiskNode) (h : p ≠ []) :
    (d.put p n).find? p = some n := by
  simp [find?, put, h, Association.lookup_assign]

theorem find?_put_of_ne (d : Disk) (p q : Place) (n : DiskNode) (h : q ≠ p) :
    (d.put p n).find? q = d.find? q := by
  simp [find?, put, h, Association.lookup_assign]

end Disk

end TemplateBundler
