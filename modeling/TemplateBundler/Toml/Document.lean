import TemplateBundler.Toml.Grammar

/-!
# TOML documents

`parse` takes the statements of a text in their order. A header sets the table it opens apart from
the rest of the document; the assignments behind it go there, and at the next header or at the end it
takes its place. The first statement that does not fit is the error: one with a key or value that
means nothing, or one that defines again what is defined already.
-/

namespace TemplateBundler.Toml

/-- How a table came to be, which decides what may still be added to it. -/
inductive Opening where
  /-- On the way to a table that a header opens. -/
  | passed
  /-- On the way of an assignment to a dotted key. -/
  | dotted
  | header
deriving DecidableEq

/-- A part of a document while it is put together. -/
inductive Node where
  | value (v : Value)
  | table (opening : Opening) (entries : List (String × Node))
  | tables (items : List (List (String × Node)))
deriving Inhabited

abbrev Entries := List (String × Node)

namespace Entries

/-! ## Algorithm -/

/-- Changes the node under a key, which may be missing before. -/
def update (es : Entries) (key : String) (f : Option Node → Option Node) : Option Entries :=
  match es with
  | [] => (f none).map fun n => [(key, n)]
  | (k, n) :: rest =>
    if k = key then (f (some n)).map fun n => (k, n) :: rest
    else (update rest key f).map fun rest => (k, n) :: rest

/-- Changes the last of several tables. -/
def updateLast (f : Entries → Option Entries) : List Entries → Option (List Entries)
  | [] => none
  | [es] => (f es).map fun es => [es]
  | es :: rest => (updateLast f rest).map fun rest => es :: rest

/-- Assigns to a dotted key. The table of its last part is the one the assignment stands in, or one
that dotted keys have made, which is what `isOpen` says of `es`. On the way there it goes through
tables that no header has opened, and through the last table of an array. -/
def assign (v : Value) (isOpen : Bool) : List String → Entries → Option Entries
  | [], _ => none
  | [key], es =>
    if isOpen then
      es.update key fun
        | none => some (.value v)
        | some _ => none
    else none
  | key :: path, es =>
    es.update key fun
      | none => (assign v true path []).map (.table .dotted)
      | some (.table .header _) => none
      | some (.table .passed es) => (assign v false path es).map (.table .passed)
      | some (.table .dotted es) => (assign v true path es).map (.table .dotted)
      | some (.tables items) => (updateLast (assign v false path) items).map .tables
      | some (.value _) => none

/-- Changes the table at a path. Tables on the way are made where they are missing, and of an array
of tables the last one is meant. -/
def within (f : Entries → Option Entries) : List String → Entries → Option Entries
  | [], es => f es
  | key :: path, es =>
    es.update key fun
      | none => (within f path []).map (.table .passed)
      | some (.table o es) => (within f path es).map (.table o)
      | some (.tables items) => (updateLast (within f path) items).map .tables
      | some (.value _) => none

/-- The table at a path, an empty one where there is none. -/
def tableAt : List String → Entries → Entries
  | [], es => es
  | key :: path, es =>
    match es.lookup key with
    | some (.table _ inner) => tableAt path inner
    | some (.tables items) => tableAt path (items.getLast?.getD [])
    | _ => []

/-- Makes sure that a header may open the table of a key: there is none, or it was only passed. -/
def checkTable (key : String) (es : Entries) : Option Entries :=
  es.update key fun
    | none => some (.table .passed [])
    | some (.table .passed es) => some (.table .passed es)
    | some _ => none

/-- Puts the table of a key in its place. -/
def putTable (key : String) (table es : Entries) : Option Entries :=
  es.update key fun _ => some (.table .header table)

/-- Adds a table to the array of a key. -/
def addTable (key : String) (table es : Entries) : Option Entries :=
  es.update key fun
    | none => some (.tables [table])
    | some (.tables items) => some (.tables (items ++ [table]))
    | some _ => none

end Entries

/-! ## Values -/

mutual

def Node.toValue : Node → Value
  | .value v => v
  | .table _ es => .table (entryValues es)
  | .tables items => .array (tableValues items)

def entryValues : List (String × Node) → List (String × Value)
  | [] => []
  | (k, n) :: es => (k, n.toValue) :: entryValues es

def tableValues : List (List (String × Node)) → List Value
  | [] => []
  | es :: items => .table (entryValues es) :: tableValues items

end

/-- The most parts that a dotted key has. -/
def keyLimit : Nat := 80

/-- The parts of a dotted key. -/
def keysOf (path : List (List Char)) : Except Error (List String) := do
  let keys ← path.mapM keyOf
  if keys.length ≤ keyLimit then .ok keys else .error .malformed

mutual

/-- The value that is written. -/
def Written.value : Written → Except Error Value
  | .scalar cs => scalarOf cs
  | .array items => (itemValues items).map .array
  | .table assignments => (inlineEntries [] assignments).map fun es => .table (entryValues es)

def itemValues : List Written → Except Error (List Value)
  | [] => .ok []
  | w :: items => do
    let v ← w.value
    let vs ← itemValues items
    .ok (v :: vs)

/-- The entries of an inline table after further assignments. -/
def inlineEntries (es : Entries) :
    List (List (List Char) × Written) → Except Error Entries
  | [] => .ok es
  | (path, w) :: assignments => do
    let keys ← keysOf path
    let v ← w.value
    let es ← orMalformed (es.assign v true keys)
    inlineEntries es assignments

end

/-! ## Documents -/

structure Header where
  isArray : Bool
  /-- The tables on the way. -/
  parents : List String
  name : String

/-- A document while it is read. -/
structure Draft where
  /-- The document without the table opened last. -/
  rest : Entries
  /-- The header of the table opened last; the document itself has none. -/
  header : Option Header
  current : Entries

namespace Draft

def empty : Draft := ⟨[], none, []⟩

/-- The document with the table opened last in its place. -/
def finish (d : Draft) : Except Error Entries :=
  match d.header with
  | none => .ok d.current
  | some h =>
    let put := if h.isArray then Entries.addTable else Entries.putTable
    orMalformed (d.rest.within (put h.name d.current) h.parents)

/-- Opens a table. One that was passed has entries already. -/
def openTable (es : Entries) (h : Header) : Except Error Draft :=
  if h.isArray then .ok ⟨es, some h, []⟩
  else do
    let rest ← orMalformed (es.within (Entries.checkTable h.name) h.parents)
    .ok ⟨rest, some h, rest.tableAt (h.parents ++ [h.name])⟩

def step (d : Draft) : Statement → Except Error Draft
  | .header isArray path => do
    let es ← d.finish
    let keys ← keysOf path
    let name ← orMalformed keys.getLast?
    openTable es ⟨isArray, keys.dropLast, name⟩
  | .assignment path w => do
    let keys ← keysOf path
    let v ← w.value
    let current ← orMalformed (d.current.assign v true keys)
    .ok { d with current }

end Draft

/-- The table that a text describes. -/
def parse (source : String) : Except Error (List (String × Value)) := do
  let statements ← orMalformed (statements? source.toList)
  let draft ← statements.foldlM Draft.step Draft.empty
  let es ← draft.finish
  .ok (entryValues es)

end TemplateBundler.Toml
