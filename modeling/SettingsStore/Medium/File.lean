import SettingsStore.Disk.Basic
import SettingsStore.Medium.Basic

/-!
# Documents in files

The document is the whole content of one file, and other files are found from its directory. Every
write replaces the file at once, so a reader sees the old content or the new.
-/

namespace SettingsStore

/-- A file of a disk, at an absolute path. -/
structure FileMedium where
  path : String
  disk : Disk

namespace FileMedium

/-- A file at a path, which may be relative to the working directory. -/
def ofPath (path : String) (disk : Disk) : FileMedium := ⟨Path.join disk.home path, disk⟩

/-- Where another file is. -/
def beside (m : FileMedium) (name : String) : String := Path.join (Path.parent m.path) name

def codec (m : FileMedium) : Codec := .ofPath m.path

def load (m : FileMedium) : Except PersistenceError (Option Bytes) :=
  match m.disk.read m.path with
  | .ok bytes => .ok (some bytes)
  | .error .missing => .ok none
  | .error .unusable => .error .io

/-- Replaces a file. -/
def replace (path : String) (bytes : Bytes) (m : FileMedium) : Except PersistenceError FileMedium :=
  match m.disk.replace path bytes with
  | .ok disk => .ok { m with disk }
  | .error _ => .error .io

def persist (d : Document) (m : FileMedium) : Except PersistenceError Bytes × FileMedium :=
  let bytes := m.codec.encode d
  match m.replace m.path bytes with
  | .ok m => (.ok bytes, m)
  | .error e => (.error e, m)

def getFile (name : String) (m : FileMedium) : Except PersistenceError Bytes :=
  match m.disk.read (m.beside name) with
  | .ok bytes => .ok bytes
  | .error .missing => .error (.fileNotFound name)
  | .error .unusable => .error .io

def hasFile (name : String) (m : FileMedium) : Except PersistenceError Bool :=
  match m.disk.find (m.beside name) with
  | .ok _ => .ok true
  | .error .missing => .ok false
  | .error .unusable => .error .io

def eraseFile (name : String) (m : FileMedium) : Except PersistenceError FileMedium :=
  match m.disk.remove (m.beside name) with
  | .ok disk => .ok { m with disk }
  | .error .missing => .ok m
  | .error .unusable => .error .io

instance : Medium FileMedium where
  describe m := "file:" ++ m.path
  codec := codec
  initial _ := .default
  load := load
  persist _ := persist
  getFile := getFile
  hasFile := hasFile
  putFile name bytes m := Medium.outcome m id (m.replace (m.beside name) bytes)
  eraseFile name m := Medium.outcome m id (m.eraseFile name)

end FileMedium

end SettingsStore
