import SettingsStore.Medium.Place
import SettingsStore.Proofs.Disk.Replace

/-!
# What media promise

A medium is lawful if what is stored on it is the document in the format of the medium, which never
changes. It is faithful if what was stored can be loaded afterwards. All media are lawful, and only
a slot that is told to fail is not faithful.
-/

namespace SettingsStore

/-- What a store relies on, whatever becomes of its medium. -/
class LawfulMedium (σ : Type) [Medium σ] : Prop where
  bytes_of_persist (id : String) {d : Document} {m : σ} {bytes : Bytes}
    (h : (Medium.persist id d m).1 = .ok bytes) : bytes = (Medium.codec m).encode d
  codec_persist (id : String) (d : Document) (m : σ) :
    Medium.codec (Medium.persist id d m).2 = Medium.codec m
  codec_putFile (name : String) (bytes : Bytes) (m : σ) :
    Medium.codec (Medium.putFile name bytes m).2 = Medium.codec m
  codec_eraseFile (name : String) (m : σ) :
    Medium.codec (Medium.eraseFile name m).2 = Medium.codec m

/-- What is stored on a medium can be loaded. -/
def Medium.Faithful {σ : Type} [Medium σ] (m : σ) : Prop :=
  ∀ {id : String} {d : Document} {bytes : Bytes} {m' : σ},
    Medium.persist id d m = (.ok bytes, m') → Medium.load m' = .ok (some bytes)

/-- The document that is stored on a medium. -/
def Medium.Holds {σ : Type} [Medium σ] (medium : σ) (d : Document) : Prop :=
  ∃ b, Medium.load medium = .ok (some b) ∧ (Medium.codec medium).decode b = .ok d

theorem Medium.Holds.unique {σ : Type} [Medium σ] {medium : σ} {d e : Document}
    (hd : Medium.Holds medium d) (he : Medium.Holds medium e) : d = e := by
  obtain ⟨b, hload, hdecode⟩ := hd
  obtain ⟨b', hload', hdecode'⟩ := he
  rw [hload] at hload'
  cases hload'
  rw [hdecode] at hdecode'
  cases hdecode'
  rfl

/-! ## Memory and slots -/

instance : LawfulMedium Memory where
  bytes_of_persist _ _ _ _ h := (Except.ok.inj h).symm
  codec_persist _ _ _ := rfl
  codec_putFile _ _ _ := rfl
  codec_eraseFile _ _ := rfl

theorem Memory.faithful (m : Memory) : Medium.Faithful m := by
  intro id d bytes m' h
  cases h
  rfl

theorem Slot.persist_eq (id : String) (d : Document) (m : Slot) :
    Medium.persist id d m = if m.failsToPersist then (.error .io, m)
      else (.ok (m.codec.encode d),
        { m with bytes := some (m.codec.encode d), writes := m.writes + 1 }) := rfl

instance : LawfulMedium Slot where
  bytes_of_persist id {d m bytes} h := by
    rw [Slot.persist_eq] at h
    split at h
    · cases h
    · exact (Except.ok.inj h).symm
  codec_persist id d m := by
    rw [Slot.persist_eq]
    split <;> rfl
  codec_putFile _ _ _ := rfl
  codec_eraseFile _ _ := rfl

theorem Slot.faithful {m : Slot} (hload : m.failsToLoad = false) : Medium.Faithful m := by
  intro id d bytes m' h
  rw [persist_eq] at h
  split at h
  · cases h
  · cases h
    change (if m.failsToLoad then _ else _) = _
    rw [hload]
    rfl

/-! ## Files -/

namespace FileMedium

theorem path_persist (d : Document) (m : FileMedium) : (m.persist d).2.path = m.path := by
  unfold persist replace
  dsimp only
  cases m.disk.replace m.path (m.codec.encode d) <;> rfl

theorem path_replace {m m' : FileMedium} {path : String} {bytes : Bytes}
    (h : m.replace path bytes = .ok m') : m'.path = m.path := by
  unfold replace at h
  split at h
  · cases h
    rfl
  · cases h

theorem path_eraseFile {m m' : FileMedium} {name : String} (h : m.eraseFile name = .ok m') :
    m'.path = m.path := by
  unfold eraseFile at h
  split at h
  · cases h
    rfl
  · cases h
    rfl
  · cases h

theorem path_outcome {m : FileMedium} {r : Except PersistenceError FileMedium}
    (h : ∀ m', r = .ok m' → m'.path = m.path) : (Medium.outcome m id r).2.path = m.path := by
  cases r with
  | error cause => rfl
  | ok m' => exact h m' rfl

theorem path_putFile (name : String) (bytes : Bytes) (m : FileMedium) :
    (Medium.putFile name bytes m).2.path = m.path :=
  path_outcome fun _ => path_replace

theorem path_medium_eraseFile (name : String) (m : FileMedium) :
    (Medium.eraseFile name m).2.path = m.path :=
  path_outcome fun _ => path_eraseFile

theorem load_of_read {m : FileMedium} {bytes : Bytes} (h : m.disk.read m.path = .ok bytes) :
    m.load = .ok (some bytes) := by
  rw [load, h]

theorem load_of_missing {m : FileMedium} (h : m.disk.read m.path = .error .missing) :
    m.load = .ok none := by
  rw [load, h]

theorem persist_of_replace {d : Document} {m : FileMedium} {disk : Disk}
    (h : m.disk.replace m.path (m.codec.encode d) = .ok disk) :
    m.persist d = (.ok (m.codec.encode d), { m with disk }) := by
  simp only [persist, replace, h]

theorem bytes_of_persist {d : Document} {m : FileMedium} {bytes : Bytes}
    (h : (m.persist d).1 = .ok bytes) : bytes = m.codec.encode d := by
  unfold persist at h
  dsimp only at h
  split at h
  · exact (Except.ok.inj h).symm
  · cases h

instance : LawfulMedium FileMedium where
  bytes_of_persist _ := bytes_of_persist
  codec_persist _ d m := congrArg Codec.ofPath (m.path_persist d)
  codec_putFile name bytes m := congrArg Codec.ofPath (m.path_putFile name bytes)
  codec_eraseFile name m := congrArg Codec.ofPath (m.path_medium_eraseFile name)

theorem faithful (m : FileMedium) : Medium.Faithful m := by
  intro id d bytes m' h
  change persist d m = _ at h
  unfold persist replace at h
  dsimp only at h
  cases hdisk : m.disk.replace m.path (m.codec.encode d) with
  | error fault =>
      rw [hdisk] at h
      cases h
  | ok disk =>
      rw [hdisk] at h
      cases h
      change load _ = _
      unfold load
      rw [Disk.read_replace hdisk]

end FileMedium

/-! ## Databases -/

namespace Database

theorem activeOf_advance (id value : String) (revisions : List Revision) :
    activeOf (advance id value revisions) = some ⟨id, value, true⟩ := by
  have hnone : (revisions.map fun r => { r with active := false }).find? (·.active) = none := by
    rw [List.find?_eq_none]
    intro r hr
    obtain ⟨_, _, rfl⟩ := List.mem_map.mp hr
    exact Bool.false_ne_true
  rw [activeOf, advance, List.find?_append, hnone]
  rfl

theorem active?_of_commit {id value : String} {db db' : Database}
    (h : db.commit id value = .ok db') : ∃ r, db'.active? = .ok (some r) ∧ r.value = value := by
  unfold commit at h
  cases hrows : db.rows with
  | error cause =>
      rw [hrows] at h
      cases h
  | ok revisions =>
      rw [hrows] at h
      simp only [bind, Except.bind, pure, Except.pure] at h
      split at h
      · next hsame =>
          cases h
          obtain ⟨r, hr, hvalue⟩ := (Option.any_eq_true _ _).mp hsame
          refine ⟨r, ?_, by simpa using hvalue⟩
          simp only [active?, hrows, bind, Except.bind, pure, Except.pure, hr]
      · split at h
        · cases h
        · cases h
          refine ⟨⟨id, value, true⟩, ?_, rfl⟩
          have hrows' :
              ({ db with revisions := some (advance id value revisions) } : Database).rows =
              .ok (advance id value revisions) := by
            unfold rows access at hrows ⊢
            split at hrows
            · cases hrows
            · next hlocked => rw [if_neg hlocked]
          simp only [active?, hrows', bind, Except.bind, pure, Except.pure, activeOf_advance]

end Database

namespace DatabaseMedium

theorem persist_cases (id : String) (d : Document) (m : DatabaseMedium) :
    (∃ cause, m.persist id d = (.error cause, m)) ∨
    ∃ database, m.database.commit id d.toJsonText = .ok database ∧
      m.persist id d = (.ok (Codec.json.encode d), { m with database }) := by
  unfold persist
  dsimp only
  split
  · exact Or.inl ⟨_, rfl⟩
  · split
    · exact Or.inl ⟨_, rfl⟩
    · next hcommit => exact Or.inr ⟨_, hcommit, rfl⟩

theorem persist_empty (id : String) (d : Document) (target : Target) (limit : Nat) :
    ∃ cause, (persist id d ⟨target, limit, .empty⟩).1 = .error cause := by
  rcases persist_cases id d ⟨target, limit, .empty⟩ with ⟨cause, h⟩ | ⟨_, hcommit, _⟩
  · exact ⟨cause, by rw [h]⟩
  · cases hcommit

instance : LawfulMedium DatabaseMedium where
  bytes_of_persist id {d m bytes} h := by
    change (m.persist id d).1 = _ at h
    rcases persist_cases id d m with ⟨cause, hm⟩ | ⟨_, _, hm⟩
    · rw [hm] at h
      cases h
    · rw [hm] at h
      exact (Except.ok.inj h).symm
  codec_persist _ _ _ := rfl
  codec_putFile _ _ _ := rfl
  codec_eraseFile _ _ := rfl

theorem faithful (m : DatabaseMedium) : Medium.Faithful m := by
  intro id d bytes m' h
  change m.persist id d = _ at h
  rcases persist_cases id d m with ⟨cause, hm⟩ | ⟨database, hcommit, hm⟩
  · rw [hm] at h
    cases h
  · rw [hm] at h
    cases h
    obtain ⟨r, hr, hvalue⟩ := Database.active?_of_commit hcommit
    change load _ = _
    unfold load
    rw [hr]
    simp only [Except.map, Option.map, hvalue]
    rfl

end DatabaseMedium

/-! ## Places -/

theorem Disk.database_setDatabase {handle : Nat} {d : Disk} (h : handle < d.databases.length)
    (db : Database) : (d.setDatabase handle db).database handle = db := by
  simp [setDatabase, database, h]

/-- A number that stands for no database is as good as that of a database without tables. -/
theorem Disk.database_of_le {handle : Nat} {d : Disk} (h : d.databases.length ≤ handle) :
    d.database handle = .empty := by
  simp [database, h]

theorem Disk.setDatabase_of_le {handle : Nat} {d : Disk} (h : d.databases.length ≤ handle)
    (db : Database) : d.setDatabase handle db = d := by
  rw [setDatabase, List.set_eq_of_length_le h]

theorem Disk.database_newDatabase (d : Disk) :
    d.newDatabase.2.database d.newDatabase.1 = .empty := by
  simp [newDatabase, database]

theorem Disk.newDatabase_lt (d : Disk) : d.newDatabase.1 < d.newDatabase.2.databases.length := by
  simp [newDatabase]

namespace Place

instance : LawfulMedium Place where
  bytes_of_persist id {d p bytes} h := by
    obtain ⟨backend, disk⟩ := p
    cases backend with
    | memory m => exact LawfulMedium.bytes_of_persist id (m := m) h
    | slot m => exact LawfulMedium.bytes_of_persist id (m := m) h
    | file path => exact FileMedium.bytes_of_persist (m := ⟨path, disk⟩) h
    | database target limit handle =>
        exact LawfulMedium.bytes_of_persist id
          (m := (⟨target, limit, disk.database handle⟩ : DatabaseMedium)) h
  codec_persist id d p := by
    obtain ⟨backend, disk⟩ := p
    cases backend with
    | slot m => exact LawfulMedium.codec_persist id d m
    | memory | file | database => rfl
  codec_putFile name bytes p := by
    obtain ⟨backend, disk⟩ := p
    cases backend with
    | slot m => exact LawfulMedium.codec_putFile name bytes m
    | memory | file | database => rfl
  codec_eraseFile name p := by
    obtain ⟨backend, disk⟩ := p
    cases backend with
    | slot m => exact LawfulMedium.codec_eraseFile name m
    | memory | file | database => rfl

theorem persist_of_replace {path : String} {d : Document} {disk disk' : Disk}
    (h : disk.replace path ((Codec.ofPath path).encode d) = .ok disk') (id : String) :
    Medium.persist id d (⟨.file path, disk⟩ : Place) =
      (.ok ((Codec.ofPath path).encode d), ⟨.file path, disk'⟩) := by
  have hfile := FileMedium.persist_of_replace (m := ⟨path, disk⟩) h
  change ((FileMedium.persist d ⟨path, disk⟩).1,
    (⟨.file path, (FileMedium.persist d ⟨path, disk⟩).2.disk⟩ : Place)) = _
  rw [hfile]
  rfl

theorem faithful {p : Place}
    (hslot : ∀ slot, p.backend = .slot slot → slot.failsToLoad = false) : Medium.Faithful p := by
  intro id d bytes p' h
  obtain ⟨backend, disk⟩ := p
  cases backend with
  | memory m =>
      cases h
      rfl
  | slot m =>
      change ((Medium.persist id d m).1, (⟨.slot (Medium.persist id d m).2, disk⟩ : Place)) = _ at h
      obtain ⟨hbytes, rfl⟩ := Prod.mk.inj h
      exact Slot.faithful (hslot m rfl) (Prod.ext hbytes rfl)
  | file path =>
      let m : FileMedium := ⟨path, disk⟩
      change ((m.persist d).1, (⟨.file path, (m.persist d).2.disk⟩ : Place)) = _ at h
      obtain ⟨hbytes, rfl⟩ := Prod.mk.inj h
      have hm : m.persist d = (.ok bytes, ⟨path, (m.persist d).2.disk⟩) :=
        Prod.ext hbytes (congrArg (FileMedium.mk · _) (m.path_persist d))
      exact m.faithful (show Medium.persist id d m = _ from hm)
  | database target limit handle =>
      let m : DatabaseMedium := ⟨target, limit, disk.database handle⟩
      change ((m.persist id d).1, (⟨.database target limit handle,
        disk.setDatabase handle (m.persist id d).2.database⟩ : Place)) = _ at h
      obtain ⟨hbytes, rfl⟩ := Prod.mk.inj h
      have hrange : handle < disk.databases.length := by
        refine Nat.lt_of_not_le fun hout => ?_
        obtain ⟨cause, hcause⟩ := DatabaseMedium.persist_empty id d target limit
        rw [← Disk.database_of_le hout] at hcause
        rw [show (m.persist id d).1 = _ from hcause] at hbytes
        cases hbytes
      have hm : m.persist id d =
          (.ok bytes, { m with database := (m.persist id d).2.database }) := by
        rcases m.persist_cases id d with ⟨cause, hm⟩ | ⟨_, _, hm⟩
        · rw [hm] at hbytes
          cases hbytes
        · rw [hm] at hbytes
          rw [hm, ← hbytes]
      have hdatabase := Disk.database_setDatabase hrange (m.persist id d).2.database
      change Medium.load (⟨target, limit, (disk.setDatabase handle
        (m.persist id d).2.database).database handle⟩ : DatabaseMedium) = _
      rw [hdatabase]
      exact m.faithful hm

end Place

end SettingsStore
