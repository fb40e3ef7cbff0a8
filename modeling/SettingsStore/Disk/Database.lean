import SettingsStore.Entries
import SettingsStore.Error

/-!
# Databases

A database keeps every document that was ever stored in it as a revision, of which at most one is
active, and a table of files. A table that is missing or locked by someone else makes every access
to it fail, and a failed access changes nothing.
-/

namespace SettingsStore

structure Revision where
  id : String
  value : String
  active : Bool
deriving DecidableEq, Repr

structure Database where
  revisions : Option (List Revision)
  files : Option (Entries Bytes)
  /-- Someone else has the database for themselves. -/
  locked : Bool := false

namespace Database

/-- A new file: no tables yet. -/
def empty : Database := ⟨none, none, false⟩

/-- A table that can be used. -/
def access {α : Type} (db : Database) (table : Option α) : Except PersistenceError α :=
  if db.locked then .error .database
  else match table with
    | some t => .ok t
    | none => .error .database

def rows (db : Database) : Except PersistenceError (List Revision) := db.access db.revisions

def entries (db : Database) : Except PersistenceError (Entries Bytes) := db.access db.files

/-- Makes the tables that are missing. -/
def prepare (db : Database) : Except PersistenceError Database :=
  if db.locked then .error .database
  else .ok { db with
    revisions := some (db.revisions.getD [])
    files := some (db.files.getD []) }

/-! ## Revisions -/

def activeOf (revisions : List Revision) : Option Revision := revisions.find? (·.active)

/-- Makes a new revision the active one. -/
def advance (id value : String) (revisions : List Revision) : List Revision :=
  revisions.map (fun r => { r with active := false }) ++ [⟨id, value, true⟩]

def active? (db : Database) : Except PersistenceError (Option Revision) :=
  return activeOf (← db.rows)

/-- Stores a value as the active revision. Nothing happens if the active one has this value, and no
two revisions have one id. -/
def commit (id value : String) (db : Database) : Except PersistenceError Database := do
  let revisions ← db.rows
  if (activeOf revisions).any (·.value = value) then return db
  if revisions.any (·.id = id) then throw .database
  return { db with revisions := some (advance id value revisions) }

/-! ## Files -/

def getFile (name : String) (db : Database) : Except PersistenceError Bytes := do
  match (← db.entries).find? name with
  | some bytes => return bytes
  | none => throw (.fileNotFound name)

def hasFile (name : String) (db : Database) : Except PersistenceError Bool :=
  return ((← db.entries).find? name).isSome

def putFile (name : String) (bytes : Bytes) (db : Database) : Except PersistenceError Database :=
  return { db with files := some ((← db.entries).put name bytes) }

def eraseFile (name : String) (db : Database) : Except PersistenceError Database :=
  return { db with files := some ((← db.entries).erase name) }

/-! ## Changes by others -/

/-- Replaces the value of the active revision, and says how many revisions changed. -/
def editActive (value : String) (db : Database) : Except PersistenceError (Nat × Database) := do
  let revisions ← db.rows
  return (revisions.countP (·.active), { db with
    revisions := some (revisions.map fun r => if r.active then { r with value := value } else r) })

/-- Leaves no revision active, and says how many revisions changed. -/
def deactivate (db : Database) : Except PersistenceError (Nat × Database) := do
  let revisions ← db.rows
  return (revisions.countP (·.active), { db with
    revisions := some (revisions.map fun r => { r with active := false }) })

def dropRevisions (db : Database) : Except PersistenceError Database := do
  let _ ← db.rows
  return { db with revisions := none }

def dropFiles (db : Database) : Except PersistenceError Database := do
  let _ ← db.entries
  return { db with files := none }

end Database

end SettingsStore
