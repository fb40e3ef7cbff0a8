import SettingsStore.Proofs.Medium.Atomic

/-!
# What media retain

A medium retains the bytes of the document that was stored on it last, or what it had before any was
stored. They can be out of reach for a while: a slot that is told to fail and a database that
someone else has for themselves give nothing, but have lost nothing. All media are retentive.
-/

namespace SettingsStore

/-- Media that keep what is on them until a document is stored, whether or not they can be loaded
in the meantime. -/
class RetentiveMedium (σ : Type) [Medium σ] where
  stored : σ → Option Bytes
  eq_stored {m : σ} {bytes : Option Bytes} (h : Medium.load m = .ok bytes) : bytes = stored m
  stored_persist {id : String} {d : Document} {m m' : σ} {bytes : Bytes}
    (h : Medium.persist id d m = (.ok bytes, m')) : stored m' = some bytes
  stored_persist_error {id : String} {d : Document} {m m' : σ} {cause : PersistenceError}
    (h : Medium.persist id d m = (.error cause, m')) : stored m' = stored m

/-! ## Memory and slots -/

instance : RetentiveMedium Memory where
  stored m := m.saved.map Codec.json.encode
  eq_stored h := (Except.ok.inj h).symm
  stored_persist h := by
    cases h
    rfl
  stored_persist_error h := nomatch h

instance : RetentiveMedium Slot where
  stored := Slot.bytes
  eq_stored {m bytes} h := by
    change (if m.failsToLoad then _ else _) = _ at h
    split at h
    · cases h
    · exact (Except.ok.inj h).symm
  stored_persist {id d m m' bytes} h := by
    rw [Slot.persist_eq] at h
    split at h
    · cases h
    · cases h
      rfl
  stored_persist_error h := congrArg Slot.bytes ((ReliableMedium.atomic _).persist h)

/-! ## Files and databases -/

namespace FileMedium

def stored (m : FileMedium) : Option Bytes := (m.disk.read m.path).toOption

theorem eq_stored_of_load {m : FileMedium} {bytes : Option Bytes} (h : m.load = .ok bytes) :
    bytes = m.stored := by
  unfold load at h
  unfold stored
  split at h
  · next hread =>
      cases h
      rw [hread]
      rfl
  · next hread =>
      cases h
      rw [hread]
      rfl
  · cases h

instance : RetentiveMedium FileMedium where
  stored := stored
  eq_stored := eq_stored_of_load
  stored_persist h := (eq_stored_of_load (FileMedium.faithful _ h)).symm
  stored_persist_error h := congrArg stored (FileMedium.persist_error h)

end FileMedium

namespace DatabaseMedium

def stored (m : DatabaseMedium) : Option Bytes :=
  (m.database.revisions.bind Database.activeOf).map (·.value.toUTF8)

theorem eq_stored_of_load {m : DatabaseMedium} {bytes : Option Bytes} (h : m.load = .ok bytes) :
    bytes = m.stored := by
  unfold load Database.active? Database.rows Database.access at h
  unfold stored
  split at h
  · cases h
  · cases hrevisions : m.database.revisions with
    | none =>
        rw [hrevisions] at h
        cases h
    | some revisions =>
        rw [hrevisions] at h
        exact (Except.ok.inj h).symm

instance : RetentiveMedium DatabaseMedium where
  stored := stored
  eq_stored := eq_stored_of_load
  stored_persist h := (eq_stored_of_load (DatabaseMedium.faithful _ h)).symm
  stored_persist_error h := congrArg stored (DatabaseMedium.persist_error h)

end DatabaseMedium

/-! ## Places -/

namespace Place

def stored (p : Place) : Option Bytes :=
  match p.backend with
  | .memory m => RetentiveMedium.stored m
  | .slot m => RetentiveMedium.stored m
  | .file path => FileMedium.stored ⟨path, p.disk⟩
  | .database target limit handle => DatabaseMedium.stored ⟨target, limit, p.disk.database handle⟩

theorem eq_stored_of_load {p : Place} {bytes : Option Bytes} (h : Medium.load p = .ok bytes) :
    bytes = p.stored := by
  obtain ⟨backend, disk⟩ := p
  cases backend with
  | memory m => exact RetentiveMedium.eq_stored (m := m) h
  | slot m => exact RetentiveMedium.eq_stored (m := m) h
  | file path => exact FileMedium.eq_stored_of_load h
  | database target limit handle => exact DatabaseMedium.eq_stored_of_load h

theorem stored_of_persist {id : String} {d : Document} {p p' : Place} {bytes : Bytes}
    (h : Medium.persist id d p = (.ok bytes, p')) : p'.stored = some bytes := by
  by_cases hslot : ∃ m, p.backend = .slot m
  · -- A slot that cannot be loaded has its new bytes all the same.
    obtain ⟨backend, disk⟩ := p
    obtain ⟨m, rfl⟩ := hslot
    change ((Medium.persist id d m).1, (⟨.slot (Medium.persist id d m).2, disk⟩ : Place)) = _ at h
    obtain ⟨hbytes, rfl⟩ := Prod.mk.inj h
    exact RetentiveMedium.stored_persist (m := m) (Prod.ext hbytes rfl)
  · have hfaithful : Medium.Faithful p :=
      Place.faithful fun m hm => absurd ⟨m, hm⟩ hslot
    exact (eq_stored_of_load (hfaithful h)).symm

instance : RetentiveMedium Place where
  stored := stored
  eq_stored := eq_stored_of_load
  stored_persist := stored_of_persist
  stored_persist_error h := congrArg stored ((ReliableMedium.atomic _).persist h)

end Place

end SettingsStore
