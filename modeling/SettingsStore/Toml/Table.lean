import SettingsStore.Entries
import SettingsStore.Toml.Scalar
import SettingsStore.Json.Tree

/-!
# Tables of TOML

A text is a list of statements. A header opens the table at a path, a double header adds a row to an
array of tables, and a pair puts a value into the table opened last. No statement may open a table or
name a value a second time; how a table came about decides what may still be done to it.
-/

namespace SettingsStore.Toml

/-- How a table came about: by a header of its own, on the way to the path of a header, on the way to
a dotted key, or as a value in braces. -/
inductive Standing where
  | header
  | passed
  | dotted
  | closed
deriving DecidableEq, Repr

/-- The rows of an array of tables are last first. -/
inductive Item where
  | scalar (value : Scalar)
  | list (items : List Item)
  | table (standing : Standing) (members : List (String × Item))
  | rows (rows : List (List (String × Item)))

abbrev Members := Entries Item

namespace Members

/-- Paths of headers go through all tables but values, dotted keys only through tables that have no
header. -/
def mayPass (made standing : Standing) : Bool :=
  match made, standing with
  | _, .closed => false
  | .dotted, .header => false
  | _, _ => true

/-- Changes the table at the end of a path, in the last row of each array of tables. Tables that are
missing on the way are made. -/
def alter (made : Standing) (f : Standing → Members → Option Members) :
    List String → Standing → Members → Option Members
  | [], standing, ms => f standing ms
  | key :: path, _, ms => do
    let child ← match ms.find? key with
      | none => (alter made f path made []).map (.table made)
      | some (.table standing inner) =>
        if mayPass made standing then (alter made f path standing inner).map (.table standing)
        else none
      | some (.rows (row :: rows)) =>
        (alter made f path .header row).map fun row => .rows (row :: rows)
      | some _ => none
    return ms.put key child

/-- Opens the table of a name. One that headers have only passed through can still be opened. -/
def openTable (name : String) (ms : Members) : Option Members :=
  match ms.find? name with
  | none => some (ms.put name (.table .header []))
  | some (.table .passed inner) => some (ms.put name (.table .header inner))
  | some _ => none

/-- Adds a row to the array of tables of a name. -/
def addRow (name : String) (ms : Members) : Option Members :=
  match ms.find? name with
  | none => some (ms.put name (.rows [[]]))
  | some (.rows rows) => some (ms.put name (.rows ([] :: rows)))
  | some _ => none

end Members

/-- A dotted key: the names before the last dot, and the last name. -/
structure Path where
  parents : List String
  name : String
deriving DecidableEq, Repr

def Path.toList (p : Path) : List String := p.parents ++ [p.name]

/-- Puts a value at a path. A dotted key ends in a table made by dotted keys, any other one does
not. -/
def Members.define (p : Path) (x : Item) (standing : Standing) (ms : Members) : Option Members :=
  ms.alter .dotted (fun standing ms =>
    if (standing = .dotted ↔ p.parents = []) then none
    else if (ms.find? p.name).isSome then none
    else some (ms.put p.name x)) p.parents standing

/-- A table written in braces. -/
def Item.ofPairs (pairs : List (Path × Item)) : Option Item :=
  (pairs.foldlM (fun ms (p, x) => Members.define p x .closed ms) []).map (.table .closed)

inductive Statement where
  | header (path : Path)
  | row (path : Path)
  | pair (path : Path) (value : Item)

/-- A text read so far: its tables, and the path of the one that was opened last. -/
structure State where
  root : Members
  here : List String

namespace State

def start : State := ⟨[], []⟩

def step (s : State) : Statement → Option State
  | .header p => (s.root.alter .passed (fun _ => Members.openTable p.name) p.parents .header).map
      (⟨·, p.toList⟩)
  | .row p => (s.root.alter .passed (fun _ => Members.addRow p.name) p.parents .header).map
      (⟨·, p.toList⟩)
  | .pair p x => (s.root.alter .passed (Members.define p x) s.here .header).map (⟨·, s.here⟩)

end State

def Members.ofStatements (statements : List Statement) : Option Members :=
  (statements.foldlM State.step .start).map State.root

/-! ## As syntax trees -/

/-- The name under which a date has its one member. -/
def dateKey : String := "date"

def Scalar.toTree : Scalar → Json.Tree
  | .str s => .str (.ok s)
  | .int n => .num (.ok (.int n))
  | .float => .num (.ok (.double (.zero false)))
  | .bool b => .literal (.bool b)
  | .date text => .object [(.ok dateKey, .str (.ok text))] none

mutual
/-- The tree of an item. A date is an object that has no member anyone asks for. -/
def Item.toTree : Item → Json.Tree
  | .scalar v => v.toTree
  | .list items => .list (treesOfItems items) none
  | .table _ members => .object (treesOfMembers members) none
  | .rows rows => .list (treesOfRows rows).reverse none

def treesOfItems : List Item → List Json.Tree
  | [] => []
  | x :: xs => x.toTree :: treesOfItems xs

def treesOfMembers : List (String × Item) → List (Json.Key × Json.Tree)
  | [] => []
  | (k, x) :: ms => (.ok k, x.toTree) :: treesOfMembers ms

def treesOfRows : List (List (String × Item)) → List Json.Tree
  | [] => []
  | row :: rows => .object (treesOfMembers row) none :: treesOfRows rows
end

end SettingsStore.Toml
