import SettingsStore.Disk.Database
import SettingsStore.Disk.Node
import SettingsStore.Disk.Path

/-!
# Disks

A disk is a tree of files with a working directory, and the databases that were opened on it. A path
is walked from name to name, and a failed walk says whether something is missing or in the way. A
file is written in place, or replaced as a whole.
-/

namespace SettingsStore

structure Disk where
  root : Node
  /-- The path from which relative paths start. -/
  home : String
  databases : List Database

/-- Why a path leads to nothing. -/
inductive PathFault where
  | missing
  /-- The path cannot exist, or something of another kind is there. -/
  | unusable
deriving DecidableEq, Repr

namespace Disk

/-- The longest name, in bytes. -/
def maxName : Nat := 255

/-- Paths have fewer bytes than this. -/
def maxPath : Nat := 4096

/-- A disk with nothing but its working directory. -/
def ofHome (home : String) : Disk := ⟨.ofLocation (Path.names home), home, []⟩

def locationOfHome (d : Disk) : Location := Path.names d.home

/-! ## Walking -/

/-- Walks on from a location. Only a directory can be walked through, the last name may be free. -/
def walk (root : Node) (here : Location) : List String → Except PathFault Location
  | [] => .ok here
  | name :: rest => match root.find? here with
    | some (.directory _) =>
      if name = "" ∨ name = "." then walk root here rest
      else if name = ".." then walk root here.dropLast rest
      else if maxName < name.utf8ByteSize then .error .unusable
      else walk root (here ++ [name]) rest
    | some _ => .error .unusable
    | none => .error .missing

/-- Where a path leads, whether or not something is there. -/
def locate (path : String) (d : Disk) : Except PathFault Location :=
  if path.contains '\x00' ∨ maxPath ≤ path.utf8ByteSize then .error .unusable
  else if path.isEmpty then .error .missing
  else walk d.root (if Path.isAbsolute path then [] else d.locationOfHome) (Path.pieces path)

/-- What a path leads to. -/
def find (path : String) (d : Disk) : Except PathFault Node := do
  match d.root.find? (← d.locate path) with
  | some n => return n
  | none => throw .missing

/-! ## Files -/

/-- How the file of a database begins. -/
def databaseMagic : Bytes := "SQLite format 3\x00".toUTF8

def read (path : String) (d : Disk) : Except PathFault Bytes := do
  match ← d.find path with
  | .file content => return content
  | .database _ => return databaseMagic
  | .directory _ => throw .unusable

/-- The location of a file that can be written. -/
def writable (path : String) (d : Disk) : Except PathFault Location := do
  let loc ← d.locate path
  if (d.root.find? loc).any Node.isDirectory then throw .unusable
  return loc

/-- Puts a new file in the place of another one. Whoever has the old one open keeps it. -/
def replace (path : String) (content : Bytes) (d : Disk) : Except PathFault Disk := do
  return { d with root := d.root.put (← d.writable path) (.file content) }

/-- Writes into a file. A database loses its tables to it. -/
def write (path : String) (content : Bytes) (d : Disk) : Except PathFault Disk := do
  let loc ← d.writable path
  let databases := match d.root.find? loc with
    | some (.database handle) => d.databases.set handle .empty
    | _ => d.databases
  return { d with root := d.root.put loc (.file content), databases }

def remove (path : String) (d : Disk) : Except PathFault Disk := do
  match ← d.find path with
  | .directory _ => throw .unusable
  | _ => return { d with root := d.root.erase (← d.locate path) }

def makeDirectory (path : String) (d : Disk) : Except PathFault Disk := do
  let loc ← d.locate path
  if (d.root.find? loc).isSome then throw .unusable
  return { d with root := d.root.put loc (.directory []) }

/-- The names in a directory, in ascending order. -/
def list (path : String) (d : Disk) : Except PathFault (List String) := do
  match ← d.find path with
  | .directory entries => return (entries.map (·.1)).mergeSort
  | _ => throw .unusable

/-! ## Databases -/

def database (handle : Nat) (d : Disk) : Database := d.databases.getD handle .empty

def setDatabase (handle : Nat) (db : Database) (d : Disk) : Disk :=
  { d with databases := d.databases.set handle db }

/-- A database that is in no directory. -/
def newDatabase (d : Disk) : Nat × Disk :=
  (d.databases.length, { d with databases := d.databases ++ [.empty] })

/-- The location that a database's path spells, with upward steps taken in the text. -/
def spelled (here : Location) : List String → Location
  | [] => here
  | name :: rest =>
    if name = "" ∨ name = "." then spelled here rest
    else if name = ".." then spelled here.dropLast rest
    else spelled (here ++ [name]) rest

/-- Whether a database can be at a location: its directory exists. -/
def hasRoom (d : Disk) (loc : Location) : Bool :=
  loc ≠ [] && loc.all (·.utf8ByteSize ≤ maxName)
    && (d.root.find? loc.dropLast).any Node.isDirectory

/-- Puts a new database without tables at a location. -/
def createDatabase (loc : Location) (d : Disk) : Nat × Disk :=
  let (handle, d) := d.newDatabase
  (handle, { d with root := d.root.put loc (.database handle) })

/-- Opens the database file at a path, which is made if there is none. A file without content is a
database without tables. -/
def openFile (path : String) (d : Disk) : Option (Nat × Disk) :=
  let loc := spelled (if Path.isAbsolute path then [] else d.locationOfHome) (Path.pieces path)
  match d.root.find? loc with
  | some (.database handle) => some (handle, d)
  | some (.directory _) => none
  | some (.file content) => if content.isEmpty then some (d.createDatabase loc) else none
  | none => if d.hasRoom loc then some (d.createDatabase loc) else none

/-- A number from two hexadecimal digits. -/
def hexByte? (a b : Char) : Option Nat := do
  let digit (c : Char) : Option Nat :=
    if c.isDigit then some (c.toNat - 48)
    else if 'a' ≤ c.toLower ∧ c.toLower ≤ 'f' then some (c.toLower.toNat - 87)
    else none
  return (← digit a) * 16 + (← digit b)

/-- The path in the text of a file's address, without what follows a question mark or a hash. -/
def addressed : List Char → List UInt8
  | [] => []
  | '?' :: _ | '#' :: _ => []
  | '%' :: a :: b :: cs => match hexByte? a b with
    | some 0 => []
    | some n => n.toUInt8 :: addressed cs
    | none => '%'.toString.toUTF8.data.toList ++ addressed (a :: b :: cs)
  | c :: cs => c.toString.toUTF8.data.toList ++ addressed cs
termination_by cs => cs.length

/-- The path of an address, whose host can only be this one. -/
def ofAddress? (text : List Char) : Option String :=
  let path := match text with
    | '/' :: '/' :: rest =>
      let host := String.ofList (rest.takeWhile (· ≠ '/'))
      if host = "" ∨ host = "localhost" then some (rest.dropWhile (· ≠ '/')) else none
    | _ => some text
  path.bind fun path => Text.ofByteList? (addressed path)

/-- The name of a database that exists only while it is open. -/
def memoryName : String := ":memory:"

/-- Opens the database that a name stands for: a private one, a file, or the address of a file. -/
def openNamed (name : String) (d : Disk) : Option (Nat × Disk) :=
  if name.contains '\x00' then none
  else
    let path := match name.toList with
      | 'f' :: 'i' :: 'l' :: 'e' :: ':' :: rest => ofAddress? rest
      | _ => some name
    match path with
    | none => none
    | some path =>
      if path = memoryName ∨ path = "" then some d.newDatabase else d.openFile path

end Disk

end SettingsStore
