import SettingsStore.Document.Leaf
import SettingsStore.Json.Tree

/-!
# Reading documents

A document is read from the syntax tree of a text, or from a value made into such a tree. A section
can be written as an object or as a list of its values in order. What is left out has its default,
and members with other names are skipped. The first fault in the order of the text is reported.
-/

namespace SettingsStore

open Json

namespace Json

mutual
/-- The tree of a value: a text that is in order. -/
def toTree : Json → Tree
  | .null => .literal .null
  | .bool b => .literal (.bool b)
  | .num n => .num (.ok n)
  | .str s => .str (.ok s)
  | .arr items => .list (treesOfItems items) none
  | .obj members => .object (treesOfMembers members) none

def treesOfItems : List Json → List Tree
  | [] => []
  | x :: xs => x.toTree :: treesOfItems xs

def treesOfMembers : List (String × Json) → List (Key × Tree)
  | [] => []
  | (k, v) :: ms => (.ok k, v.toTree) :: treesOfMembers ms
end

namespace Tree

/-- The fault of a tree that is not what was expected. -/
def mismatch (expected : Expected) : Tree → Fault
  | .literal .null => .wrongType .null expected
  | .literal (.bool b) => .wrongType (.bool b) expected
  | .num (.ok n) => .wrongType (.num n) expected
  | .num (.error fault) => .broken fault
  | .str (.ok s) => .wrongType (.str s) expected
  | .str (.error fault) => .broken fault
  | .list _ _ => .wrongType .list expected
  | .object _ _ => .wrongType .object expected
  | .broken cause => .broken cause.reading

/-- Passes over a value that nobody wants. -/
def skip : Tree → Except Fault Unit
  | .list _ (some stop) | .object _ (some stop) => .error (.broken stop.skipping)
  | .broken cause => .error (.broken cause.skipping)
  | _ => .ok ()

end Tree

/-- The end of a list or object whose parts have all been read. -/
def checkStop : Option Stop → Except Fault Unit
  | none => .ok ()
  | some stop => .error (.broken stop.reading)

def readKey : Key → Except Fault String
  | .ok key => .ok key
  | .error fault => .error (.broken fault)

end Json

namespace LeafType

def readString : Tree → Except Fault String
  | .str (.ok s) => .ok s
  | t => .error (t.mismatch .string)

def readBool : Tree → Except Fault Bool
  | .literal (.bool b) => .ok b
  | t => .error (t.mismatch .boolean)

def readWord32 : Tree → Except Fault UInt32
  | .num (.ok (.int n)) =>
    if 0 ≤ n ∧ n < Word.count 32 then .ok (.ofNat n.toNat) else .error (.outOfRange n .word32)
  | t => .error (t.mismatch .word32)

def readInt64 : Tree → Except Fault Int64
  | .num (.ok (.int n)) =>
    if Word.isSigned64 n then .ok (.ofInt n) else .error (.outOfRange n .int64)
  | t => .error (t.mismatch .int64)

def readStrings : Tree → Except Fault (List String)
  | .list items stop => do
    let strings ← items.mapM readString
    checkStop stop
    return strings
  | t => .error (t.mismatch .list)

def readOptString : Tree → Except Fault (Option String)
  | .literal .null => .ok none
  | t => some <$> readString t

/-- Reads a value of the type. -/
def read : (t : LeafType) → Tree → Except Fault t.Value
  | .str => readString
  | .optStr => readOptString
  | .bool => readBool
  | .word32 => readWord32
  | .int64 => readInt64
  | .strList => readStrings

end LeafType

/-- What a reader makes of items beyond the last field of a record written as a list. -/
inductive Surplus where
  /-- Something stands where the list should end. -/
  | trailing
  /-- The list has too many items. -/
  | counted
  | ignored
deriving DecidableEq, Repr

def Surplus.check (surplus : Surplus) (count : Nat) : Except Fault Unit :=
  match surplus with
  | .trailing => .error (.broken .trailingCharacters)
  | .counted => .error (.tooManyItems count)
  | .ignored => .ok ()

/-- How a record is read into a document: its fields in order, with their names. -/
structure Record (φ : Type) where
  name : String
  fields : List (String × φ)
  read : φ → Tree → Document → Except Fault Document

namespace Record

variable {φ : Type} [DecidableEq φ]

def readMembers (r : Record φ) (seen : List φ) :
    List (Key × Tree) → Document → Except Fault Document
  | [], d => .ok d
  | (key, t) :: rest, d => do
    let key ← readKey key
    match r.fields.lookup key with
    | none =>
      t.skip
      r.readMembers seen rest d
    | some f =>
      if f ∈ seen then .error (.repeatedKey key)
      else r.readMembers (f :: seen) rest (← r.read f t d)

/-- Reads items into fields by position. -/
def readItems (r : Record φ) (surplus : Surplus) (count : Nat) (stop : Option Stop) :
    List (String × φ) → List Tree → Document → Except Fault Document
  | f :: fs, t :: ts, d => do r.readItems surplus count stop fs ts (← r.read f.2 t d)
  | [], _ :: _, d => do
    surplus.check count
    return d
  | fs, [], d => match stop with
    | none => .ok d
    | some stop => .error (.broken (if fs.isEmpty then stop.closing else stop.reading))

def readTree (r : Record φ) (surplus : Surplus) (t : Tree) (d : Document) :
    Except Fault Document :=
  match t with
  | .object members stop => do
    let d ← r.readMembers [] members d
    checkStop stop
    return d
  | .list items stop => r.readItems surplus items.length stop r.fields items d
  | t => .error (t.mismatch (.record r.name))

end Record

/-- The record of a section. -/
def Section.record (s : Section) : Record Leaf where
  name := s.typeName
  fields := (Leaf.ofSection s).map fun l => (l.name, l)
  read := fun l t d => do return d.set l (← l.type.read t)

namespace Document

/-- The record of a whole document. -/
def record (surplus : Surplus) : Record Section where
  name := "Config"
  fields := Section.all.map fun s => (s.key, s)
  read := fun s => s.record.readTree surplus

def ofTree (surplus : Surplus) (t : Tree) : Except Fault Document :=
  (record surplus).readTree surplus t default

/-- Reads a value. -/
def ofJson (j : Json) : Except Fault Document := ofTree .counted j.toTree

/-- Reads a text, which must hold one value. -/
def ofSource (s : Source) : Except Fault Document := do
  let d ← ofTree .trailing s.root
  if s.trailing then throw (.broken .trailingCharacters)
  return d

end Document

end SettingsStore
