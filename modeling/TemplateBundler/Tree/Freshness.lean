import TemplateBundler.Tree.Basic

/-!
# Freshness

The freshness of a unit is to be no less than the modification time of any template below it, so
that one comparison tells whether an artifact is current. A unit that stores none follows its
parent; marks pass through it without leaving anything.
-/

namespace TemplateBundler.UnitTree

/-! ## Algorithm -/

/-- The stored freshness of the unit or of the nearest ancestor that has one, else the epoch. -/
def freshness (t : UnitTree) (i : Nat) : Time := ((i :: t.ancestors i).findSome? t.own?).getD 0

def setOwn (t : UnitTree) (i : Nat) (time : Time) : UnitTree :=
  t.modify i (fun u => { u with freshness := some time }) fun _ => rfl

/-- Raises ancestors to a time, from the nearest one up to the first that is as fresh already. A
root that stores nothing has no one to follow, so it stores the time. -/
def raise (time : Time) (t : UnitTree) : List Nat → UnitTree
  | [] => t
  | a :: as =>
    match t.own? a with
    | some own => if time ≤ own then t else raise time (t.setOwn a time) as
    | none => raise time (if (t.parent? a).isNone then t.setOwn a time else t) as

/-- Records that a unit reflects a source modified at a time. -/
def mark (t : UnitTree) (i : Nat) (time : Time) : UnitTree :=
  raise time (t.setOwn i time) (t.ancestors i)

end TemplateBundler.UnitTree
