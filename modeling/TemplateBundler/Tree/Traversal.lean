import TemplateBundler.Tree.Basic

/-!
# Traversing the units below a unit

`descendants` lists a unit and all units below it, each before its own children and those in their
order. It keeps the units still to be visited on a stack.
-/

namespace TemplateBundler.UnitTree

/-- Visits at most `n` units from the stack `ids`, the top first. -/
def visit (t : UnitTree) : Nat → List Nat → List Nat
  | 0, _ => []
  | _ + 1, [] => []
  | n + 1, i :: ids => i :: t.visit n (t.children i ++ ids)

/-- A unit and the units below it. There are no more of them than units in the tree. -/
def descendants (t : UnitTree) (i : Nat) : List Nat := t.visit t.units.size [i]

/-- The number of units that are reached from the root. -/
def size (t : UnitTree) : Nat := (t.descendants rootId).length

/-- Whether there is nothing but the root. -/
def isEmpty (t : UnitTree) : Bool := (t.children rootId).isEmpty

/-- The key paths of the units below the root. -/
def keyPaths (t : UnitTree) : List KeyPath := ((t.descendants rootId).drop 1).map t.keyPath

end TemplateBundler.UnitTree
