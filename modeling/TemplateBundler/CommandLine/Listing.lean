import TemplateBundler.CommandLine.Style
import TemplateBundler.Tree.Freshness
import TemplateBundler.Tree.Traversal

/-!
# Listing a tree

One row for the root and one for each unit below it, in the order of the traversal. Four columns for
each level above a unit lead to its branch; they hold a bar where more siblings follow at that level.
What a time is written as depends on where the command runs; the epoch stands for no time.
-/

namespace TemplateBundler.CommandLine

namespace Listing

/-! ## Algorithm -/

structure Look where
  colours : Bool
  /-- Whether each row ends with the path of its unit. -/
  showPaths : Bool
  /-- A time in the zone where the command runs. -/
  localTime : Time → String

def timeText (localTime : Time → String) (time : Time) : String :=
  if time = Time.never then "-" else localTime time

/-- The items of a list, each with whether it is the last. -/
def withLast {α : Type} : List α → List (α × Bool)
  | [] => []
  | [a] => [(a, true)]
  | a :: b :: l => (a, false) :: withLast (b :: l)

def branch (isLast : Bool) : String := if isLast then "└── " else "├── "

/-- The columns that a unit adds before the units below it. -/
def trunk (isLast : Bool) : String := if isLast then "    " else "│   "

def kindText (colours : Bool) (o : Origin) : String :=
  match o with
  | .block _ _ => Style.cyan.paint colours o.kind
  | .directory _ => Style.yellow.paint colours o.kind
  | _ => o.kind

/-- What a row says of a unit, behind its branch. -/
def label (look : Look) (t : UnitTree) (i : Nat) : String :=
  match t.unit? i with
  | none => ""
  | some u =>
    Style.bold.paint look.colours u.name ++ "  " ++ kindText look.colours u.origin ++ "  " ++
      Style.dimmed.paint look.colours (timeText look.localTime (t.freshness i)) ++
      (if look.showPaths then "  " ++ u.origin.path.text else "")

/-- The rows of siblings and of the units below them, at most `n` levels down. -/
def rows (look : Look) (t : UnitTree) : Nat → String → List Nat → List String
  | 0, _, _ => []
  | n + 1, indent, ids =>
    (withLast ids).flatMap fun (i, isLast) =>
      (indent ++ branch isLast ++ label look t i) ::
        rows look t n (indent ++ trunk isLast) (t.children i)

def rootRow (look : Look) (t : UnitTree) : String :=
  Style.bold.paint look.colours "<root>" ++ "  " ++
    timeText look.localTime (t.freshness UnitTree.rootId)

/-- The lines of the listing. -/
def lines (look : Look) (t : UnitTree) : List String :=
  rootRow look t :: rows look t t.units.size "" (t.children UnitTree.rootId)

def text (look : Look) (t : UnitTree) : String := String.join ((lines look t).map (· ++ "\n"))

end Listing

end TemplateBundler.CommandLine
