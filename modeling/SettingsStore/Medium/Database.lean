import SettingsStore.Disk.Database
import SettingsStore.Medium.Basic

/-!
# Documents in databases

The active revision of a database is the document. What is longer than the limit is not written.
-/

namespace SettingsStore

/-- Where a database is. -/
inductive Target where
  | memory
  | named (path : String)
deriving DecidableEq, Repr

structure DatabaseMedium where
  target : Target
  /-- The largest number of bytes in a value or a file. -/
  limit : Nat
  database : Database

namespace DatabaseMedium

def defaultLimit : Nat := 4 * 1024 * 1024

def describe (m : DatabaseMedium) : String :=
  match m.target with
  | .memory => "sqlite::memory:"
  | .named path => "sqlite://" ++ path

/-- A document whose data is in the database that keeps it. -/
def initial (m : DatabaseMedium) : Document :=
  match m.target with
  | .memory => .default
  | .named path => { Document.default with
      sql.driverName := "sqlite"
      sql.dataSource := some path }

def checkLength (length : Nat) (m : DatabaseMedium) : Except PersistenceError Unit :=
  if m.limit < length then .error (.tooLarge m.limit length) else .ok ()

def load (m : DatabaseMedium) : Except PersistenceError (Option Bytes) :=
  m.database.active?.map fun r => r.map (·.value.toUTF8)

def persist (id : String) (d : Document) (m : DatabaseMedium) :
    Except PersistenceError Bytes × DatabaseMedium :=
  let text := d.toJsonText
  match m.checkLength text.utf8ByteSize with
  | .error e => (.error e, m)
  | .ok _ => match m.database.commit id text with
    | .error e => (.error e, m)
    | .ok database => (.ok text.toUTF8, { m with database })

instance : Medium DatabaseMedium where
  describe := describe
  codec _ := .json
  initial := initial
  load := load
  persist := persist
  getFile name m := m.database.getFile name
  hasFile name m := m.database.hasFile name
  putFile name bytes m := Medium.outcome m ({ m with database := · })
    (do m.checkLength bytes.size; m.database.putFile name bytes)
  eraseFile name m := Medium.outcome m ({ m with database := · }) (m.database.eraseFile name)

end DatabaseMedium

end SettingsStore
