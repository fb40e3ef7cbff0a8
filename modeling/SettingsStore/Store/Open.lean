import SettingsStore.Medium.Place
import SettingsStore.Store.Basic
import SettingsStore.Store.Dsn

/-!
# Opening stores

A data source name names a place on a disk, and a store is opened there. It is loaded first. If its
place is to be watched, watching begins after that, and can fail although the load has written.
-/

namespace SettingsStore

/-- The place that a name stands for. -/
def Dsn.place (limit : Nat) (disk : Disk) : Dsn → Except PersistenceError Place
  | .memory => .ok ⟨.memory .empty, disk⟩
  | .file path => .ok (Place.openFile path disk)
  | .database target => Place.openDatabase target limit disk

/-- The failure that opening ends with, if any, and the disk after it. -/
structure Opened (κ : Type) where
  result : Except StoreError (Store Place κ)
  disk : Disk

namespace Store

variable {κ : Type}

/-- Opens a store at a place. A place that cannot change from outside needs no watching. -/
def openPlace (notifier : Notifier) (options : Options) (salt : String) (fresh : Fresh)
    (place : Place) : Opened κ :=
  let (loaded, s) := openMedium options salt fresh place
  let watched : Except StoreError Unit :=
    if options.watch && !s.medium.isWatchable notifier then .error .unwatchable else .ok ()
  ⟨loaded.bind fun _ => watched.map fun _ => s, s.medium.disk⟩

/-- Whether a store follows the changes of its place. -/
def isWatching (s : Store Place κ) : Bool :=
  s.options.watch && !s.closed && s.medium.watchedDirectory?.isSome

/-- Opens the store that a data source name stands for. -/
def openNamed (notifier : Notifier) (options : Options) (salt : String) (fresh : Fresh)
    (name : String) (disk : Disk) : Opened κ :=
  match Dsn.parse name with
  | .error e => ⟨.error e, disk⟩
  | .ok dsn => match dsn.place options.maxWriteLength disk with
    | .error cause => ⟨.error (.persistence cause), disk⟩
    | .ok place => openPlace notifier options salt fresh place

end Store

end SettingsStore
