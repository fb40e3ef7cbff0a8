import SettingsStore.Proofs.Disk.Parent
import SettingsStore.Proofs.Medium.Faithful

/-!
# Places that are alike

Memory has a document or none, a database in memory has a list of revisions of which one may be
active, and a file has bytes. To a store all of them are the same: what it loads is the document that
was stored last, and it can store another one. A file has to be at a path that leads to a place for
it, and in a database each document needs an id of its own and must not be too long. So a place is
stocked with a document, or with none, for a list of ids that are yet to be used.
-/

namespace SettingsStore

/-- What was loaded has no more bytes than a ceiling allows, if there is one. -/
def IsBelow (ceiling : Option Nat) (loaded : Except PersistenceError (Option Bytes)) : Prop :=
  match ceiling, loaded with
  | some limit, .ok (some b) => b.size ≤ limit
  | _, _ => True

instance : (ceiling : Option Nat) → (loaded : Except PersistenceError (Option Bytes)) →
    Decidable (IsBelow ceiling loaded)
  | some limit, .ok (some b) => inferInstanceAs (Decidable (b.size ≤ limit))
  | none, _ | some _, .error _ | some _, .ok none => inferInstanceAs (Decidable True)

/-! ## Databases -/

namespace Database

variable {id : String} {ids : List String} {value : Option String} {db : Database}

/-- The value is that of the active revision, and no revision has an id that is yet to be used. -/
structure Stocked (ids : List String) (value : Option String) (db : Database) : Prop where
  unlocked : db.locked = false
  exists_revisions : ∃ revisions, db.revisions = some revisions ∧
    (activeOf revisions).map (·.value) = value ∧ (revisions.map (·.id) ++ ids).Nodup

theorem Stocked.exists_rows (h : db.Stocked ids value) :
    ∃ revisions, db.rows = .ok revisions ∧ db.revisions = some revisions ∧
      (activeOf revisions).map (·.value) = value ∧ (revisions.map (·.id) ++ ids).Nodup := by
  obtain ⟨revisions, hrevisions, hrest⟩ := h.exists_revisions
  refine ⟨revisions, ?_, hrevisions, hrest⟩
  simp only [rows, access, h.unlocked, hrevisions, Bool.false_eq_true, if_false]

theorem Stocked.tail (h : db.Stocked (id :: ids) value) : db.Stocked ids value := by
  obtain ⟨revisions, hrevisions, hvalue, hnodup⟩ := h.exists_revisions
  exact ⟨h.unlocked, revisions, hrevisions, hvalue,
    hnodup.sublist (List.Sublist.append_left (List.sublist_cons_self id ids) _)⟩

theorem Stocked.commit (h : db.Stocked (id :: ids) value) (text : String) :
    ∃ db', db.commit id text = .ok db' ∧ db'.Stocked ids (some text) := by
  obtain ⟨revisions, hrows, hrevisions, hactive, hnodup⟩ := h.exists_rows
  simp only [Database.commit, hrows, bind, Except.bind, pure, Except.pure]
  by_cases hsame : (activeOf revisions).any (·.value = text) = true
  · rw [if_pos hsame]
    obtain ⟨r, hr, htext⟩ := (Option.any_eq_true _ _).mp hsame
    have hvalue : value = some text := by
      rw [← hactive, hr, Option.map_some, of_decide_eq_true htext]
    exact ⟨db, rfl, hvalue ▸ h.tail⟩
  · rw [if_neg hsame]
    have hnew : ¬revisions.any (·.id = id) = true := by
      intro hany
      obtain ⟨r, hr, hid⟩ := List.any_eq_true.mp hany
      have hdisjoint := (List.nodup_append.mp hnodup).2.2
      exact hdisjoint _ (List.mem_map_of_mem hr) _ List.mem_cons_self (of_decide_eq_true hid)
    rw [if_neg hnew]
    refine ⟨_, rfl, h.unlocked, advance id text revisions, rfl, ?_, ?_⟩
    · rw [activeOf_advance]
      rfl
    · -- The next id becomes that of the last revision.
      have hids : (advance id text revisions).map (·.id) = revisions.map (·.id) ++ [id] := by
        simp [advance]
      rwa [hids, List.append_assoc]

end Database

namespace DatabaseMedium

variable {id : String} {ids : List String} {value : Option String} {m : DatabaseMedium}

theorem load_of_stocked (h : m.database.Stocked ids value) :
    m.load = .ok (value.map String.toUTF8) := by
  obtain ⟨revisions, hrows, _, rfl, _⟩ := h.exists_rows
  simp only [load, Database.active?, hrows, bind, Except.bind, pure, Except.pure, Except.map,
    Option.map_map]
  rfl

theorem persist_of_stocked (h : m.database.Stocked (id :: ids) value) {d : Document}
    (hd : (Codec.json.encode d).size ≤ m.limit) :
    ∃ database, m.persist id d = (.ok (Codec.json.encode d), { m with database }) ∧
      database.Stocked ids (some d.toJsonText) := by
  obtain ⟨database, hcommit, hstocked⟩ := h.commit d.toJsonText
  have hlength : m.checkLength d.toJsonText.utf8ByteSize = .ok () := if_neg (Nat.not_lt.mpr hd)
  refine ⟨database, ?_, hstocked⟩
  simp only [persist, hlength, hcommit]
  rfl

end DatabaseMedium

/-! ## Files -/

namespace FileMedium

variable {saved : Option Document} {m : FileMedium}

/-- The file has the document's bytes or is not there, and it can be replaced. -/
structure Stocked (saved : Option Document) (m : FileMedium) : Prop where
  codec : m.codec = .json
  absolute : Path.isAbsolute m.path = true
  exists_location : ∃ loc, m.disk.locate m.path = .ok loc ∧ ¬m.disk.root.HasDirectory loc
  load : m.load = .ok (saved.map Codec.json.encode)

theorem Stocked.persist (h : m.Stocked saved) (d : Document) :
    ∃ disk, m.persist d = (.ok (Codec.json.encode d), { m with disk }) ∧
      ({ m with disk } : FileMedium).Stocked (some d) := by
  obtain ⟨loc, hlocate, hnot⟩ := h.exists_location
  have hreplace := Disk.replace_of_locate hlocate hnot (Codec.json.encode d)
  have hpersist : m.persist d = (.ok (Codec.json.encode d), { m with
      disk := { m.disk with root := m.disk.root.put loc (.file (Codec.json.encode d)) } }) := by
    rw [FileMedium.persist, h.codec]
    simp only [replace, hreplace]
  refine ⟨_, hpersist, h.codec, h.absolute, ⟨loc, Disk.locate_put hlocate hnot _, ?_⟩,
    m.faithful (show Medium.persist "" d m = _ from hpersist)⟩
  rw [Node.HasDirectory, Disk.find?_put_of_locate hlocate hnot]
  exact Bool.false_ne_true

end FileMedium

/-! ## Places -/

namespace Place

variable {ceiling : Option Nat} {id : String} {ids : List String} {saved : Option Document}
  {p : Place}

/-- The place has the document, and others that are not above the ceiling can be stored there under
the ids. -/
inductive Stocked : Option Nat → List String → Option Document → Place → Prop
  | memory {ceiling : Option Nat} {ids : List String} {saved : Option Document}
      {files : Entries Bytes} {disk : Disk} :
      Stocked ceiling ids saved ⟨.memory ⟨saved, files⟩, disk⟩
  | file {ceiling : Option Nat} {ids : List String} {saved : Option Document} {path : String}
      {disk : Disk} (h : FileMedium.Stocked saved ⟨path, disk⟩) :
      Stocked ceiling ids saved ⟨.file path, disk⟩
  | database {limit : Nat} {ids : List String} {saved : Option Document} {handle : Nat}
      {disk : Disk} (hrange : handle < disk.databases.length)
      (h : (disk.database handle).Stocked ids (saved.map Document.toJsonText)) :
      Stocked (some limit) ids saved ⟨.database .memory limit handle, disk⟩

namespace Stocked

theorem codec (h : Stocked ceiling ids saved p) : Medium.codec p = .json := by
  cases h with
  | memory => rfl
  | file h => exact h.codec
  | database => rfl

theorem initial (h : Stocked ceiling ids saved p) : Medium.initial p = .default := by
  cases h <;> rfl

theorem load (h : Stocked ceiling ids saved p) :
    Medium.load p = .ok (saved.map Codec.json.encode) := by
  cases h with
  | memory => rfl
  | file h => exact h.load
  | @database limit _ _ handle disk _ h =>
      have hload := DatabaseMedium.load_of_stocked (m := ⟨.memory, limit, disk.database handle⟩) h
      rw [Option.map_map] at hload
      exact hload

theorem isWatchable {notifier : Notifier} (hn : notifier.IsUnlimited)
    (h : Stocked ceiling ids saved p) : p.isWatchable notifier = true := by
  cases h with
  | memory => rfl
  | file h =>
      obtain ⟨_, hlocate, _⟩ := h.exists_location
      exact hn _ _ (Disk.isOk_find_parent h.absolute hlocate)
  | database => rfl

theorem tail (h : Stocked ceiling (id :: ids) saved p) : Stocked ceiling ids saved p := by
  cases h with
  | memory => exact .memory
  | file h => exact .file h
  | database hrange h => exact .database hrange h.tail

theorem persist (h : Stocked ceiling (id :: ids) saved p) {d : Document}
    (hd : IsBelow ceiling (.ok (some (Codec.json.encode d)))) :
    ∃ p', Medium.persist id d p = (.ok (Codec.json.encode d), p') ∧
      Stocked ceiling ids (some d) p' := by
  cases h with
  | memory => exact ⟨_, rfl, .memory⟩
  | @file _ _ _ path disk h =>
      obtain ⟨after, hpersist, hstocked⟩ := h.persist d
      have hfst := congrArg Prod.fst hpersist
      have hsnd := congrArg (·.2.disk) hpersist
      refine ⟨⟨.file path, after⟩, ?_, .file hstocked⟩
      exact Prod.ext hfst (congrArg (Place.mk _) hsnd)
  | @database limit _ _ handle disk hrange h =>
      obtain ⟨database, hpersist, hstocked⟩ := DatabaseMedium.persist_of_stocked
        (m := ⟨.memory, limit, disk.database handle⟩) h hd
      have hfst := congrArg Prod.fst hpersist
      have hsnd := congrArg (disk.setDatabase handle ·.2.database) hpersist
      refine ⟨⟨.database .memory limit handle, disk.setDatabase handle database⟩,
        Prod.ext hfst (congrArg (Place.mk _) hsnd), .database ?_ ?_⟩
      · rwa [Disk.setDatabase, List.length_set]
      · rwa [Disk.database_setDatabase hrange]

end Stocked

theorem exists_openDatabase_stocked (limit : Nat) (disk : Disk) (hids : ids.Nodup) :
    ∃ p, openDatabase .memory limit disk = .ok p ∧ p.Stocked (some limit) ids none := by
  refine ⟨⟨.database .memory limit disk.newDatabase.1,
    disk.newDatabase.2.setDatabase disk.newDatabase.1 ⟨some [], some [], false⟩⟩, ?_,
    .database ?_ ?_⟩
  · simp only [openDatabase, disk.database_newDatabase]
    rfl
  · rw [Disk.setDatabase, List.length_set]
    exact disk.newDatabase_lt
  · rw [Disk.database_setDatabase disk.newDatabase_lt]
    exact ⟨rfl, [], rfl, rfl, hids⟩

/-- A file that could be made has no document yet. -/
theorem stocked_openFile {path : String} {disk : Disk} {loc : Location}
    (hcodec : (FileMedium.ofPath path disk).codec = .json)
    (habsolute : Path.isAbsolute (FileMedium.ofPath path disk).path = true)
    (hlocate : disk.locate (FileMedium.ofPath path disk).path = .ok loc)
    (hvacant : disk.root.find? loc = none) : (openFile path disk).Stocked ceiling ids none := by
  refine .file ⟨hcodec, habsolute, ⟨loc, hlocate, ?_⟩, ?_⟩
  · rw [Node.HasDirectory, hvacant]
    exact Bool.false_ne_true
  · have hread : disk.read (FileMedium.ofPath path disk).path = .error .missing := by
      simp only [Disk.read, Disk.find, hlocate, hvacant, bind, Except.bind]
      rfl
    change FileMedium.load (FileMedium.ofPath path disk) = _
    unfold FileMedium.load
    rw [show (FileMedium.ofPath path disk).disk.read _ = _ from hread]
    rfl

end Place

end SettingsStore
