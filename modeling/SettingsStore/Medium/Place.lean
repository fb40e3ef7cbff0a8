import SettingsStore.Medium.Database
import SettingsStore.Medium.File
import SettingsStore.Medium.Memory

/-!
# Places

A place is a medium of any kind together with the disk that all media share. Memory is the place's
own; files are on the disk, and databases stay what they are when their file is removed.
-/

namespace SettingsStore

inductive Backend where
  | memory (memory : Memory)
  | slot (slot : Slot)
  | file (path : String)
  | database (target : Target) (limit : Nat) (handle : Nat)

structure Place where
  backend : Backend
  disk : Disk

/-- Whether the system begins to watch a directory of a disk. It can refuse to, for instance because
too many are watched already. -/
def Notifier := String → Disk → Bool

namespace Notifier

/-- A system that watches whatever there is. -/
def unlimited : Notifier := fun dir disk => (disk.find dir).isOk

/-- Whether a system refuses to watch only what is not there. -/
def IsUnlimited (n : Notifier) : Prop := ∀ dir disk, unlimited dir disk = true → n dir disk = true

end Notifier

namespace Place

/-- What can be done on a medium of any kind, and how its state becomes the place's. -/
structure View where
  σ : Type
  [medium : Medium σ]
  state : σ
  put : σ → Place

def view (p : Place) : View :=
  match p.backend with
  | .memory m => { σ := Memory, state := m, put := fun m => { p with backend := .memory m } }
  | .slot s => { σ := Slot, state := s, put := fun s => { p with backend := .slot s } }
  | .file path =>
    { σ := FileMedium, state := ⟨path, p.disk⟩, put := fun m => { p with disk := m.disk } }
  | .database target limit handle =>
    { σ := DatabaseMedium
      state := ⟨target, limit, p.disk.database handle⟩
      put := fun m => { p with disk := p.disk.setDatabase handle m.database } }

instance (v : View) : Medium v.σ := v.medium

def View.write {α : Type} (v : View) (r : α × v.σ) : α × Place := (r.1, v.put r.2)

instance : Medium Place where
  describe p := Medium.describe p.view.state
  codec p := Medium.codec p.view.state
  initial p := Medium.initial p.view.state
  load p := Medium.load p.view.state
  persist id d p := p.view.write (Medium.persist id d p.view.state)
  getFile name p := Medium.getFile name p.view.state
  hasFile name p := Medium.hasFile name p.view.state
  putFile name bytes p := p.view.write (Medium.putFile name bytes p.view.state)
  eraseFile name p := p.view.write (Medium.eraseFile name p.view.state)

/-- The directory in which changes of the document from outside show, if they show anywhere. -/
def watchedDirectory? (p : Place) : Option String :=
  match p.backend with
  | .file path => some (Path.parent path)
  | _ => none

/-- Whether the directory to watch, if there is one, is watched. -/
def isWatchable (notifier : Notifier) (p : Place) : Bool :=
  p.watchedDirectory?.all (notifier · p.disk)

/-- Opens a database, whose missing tables are made. -/
def openDatabase (target : Target) (limit : Nat) (disk : Disk) : Except PersistenceError Place :=
  let opened := match target with
    | .memory => some disk.newDatabase
    | .named path => disk.openNamed path
  match opened with
  | none => .error .database
  | some (handle, disk) => do
    let database ← (disk.database handle).prepare
    return ⟨.database target limit handle, disk.setDatabase handle database⟩

def openFile (path : String) (disk : Disk) : Place :=
  ⟨.file (FileMedium.ofPath path disk).path, disk⟩

end Place

end SettingsStore
