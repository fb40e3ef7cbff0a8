import SettingsStore.Proofs.Medium.Faithful

/-!
# Failed writes

A write that fails leaves its medium as it was. What is too long for a database is not begun, a
table that is missing or locked is not touched, and a file is replaced as a whole or not at all.
Every medium that can be loaded is faithful, too: only a slot that cannot be loaded is not.
-/

namespace SettingsStore

/-- What fails on a medium leaves it as it was. -/
structure Medium.Atomic {σ : Type} [Medium σ] (m : σ) : Prop where
  persist {id : String} {d : Document} {cause : PersistenceError} {m' : σ}
    (h : Medium.persist id d m = (.error cause, m')) : m' = m
  putFile {name : String} {bytes : Bytes} {cause : PersistenceError} {m' : σ}
    (h : Medium.putFile name bytes m = (.error cause, m')) : m' = m
  eraseFile {name : String} {cause : PersistenceError} {m' : σ}
    (h : Medium.eraseFile name m = (.error cause, m')) : m' = m

/-- Media on which nothing is done by half, and which can be loaded after a write if they could be
loaded before. -/
class ReliableMedium (σ : Type) [Medium σ] : Prop extends LawfulMedium σ where
  atomic (m : σ) : Medium.Atomic m
  faithful {m : σ} {bytes : Option Bytes} (h : Medium.load m = .ok bytes) : Medium.Faithful m

theorem Medium.outcome_error {σ τ ε : Type} {s s' : σ} {f : τ → σ} {r : Except ε τ} {e : ε}
    (h : Medium.outcome s f r = (.error e, s')) : s' = s := by
  cases r with
  | ok t => cases h
  | error e =>
      cases h
      rfl

/-! ## Memory and slots -/

instance : ReliableMedium Memory where
  atomic _ := ⟨(nomatch ·), (nomatch ·), (nomatch ·)⟩
  faithful _ := Memory.faithful _

instance : ReliableMedium Slot where
  atomic m := by
    refine ⟨fun {id d cause m'} h => ?_, (nomatch ·), (nomatch ·)⟩
    rw [Slot.persist_eq] at h
    split at h
    · cases h
      rfl
    · cases h
  faithful {m bytes} h := by
    apply Slot.faithful
    rw [← Bool.not_eq_true]
    intro hfails
    rw [show Medium.load m = if m.failsToLoad then .error .io else .ok m.bytes from rfl,
      if_pos hfails] at h
    cases h

/-! ## Files and databases -/

theorem FileMedium.persist_error {d : Document} {m m' : FileMedium} {cause : PersistenceError}
    (h : m.persist d = (.error cause, m')) : m' = m := by
  unfold persist at h
  dsimp only at h
  split at h
  · cases h
  · cases h
    rfl

instance : ReliableMedium FileMedium where
  atomic _ := ⟨FileMedium.persist_error, Medium.outcome_error, Medium.outcome_error⟩
  faithful _ := FileMedium.faithful _

theorem DatabaseMedium.persist_error {id : String} {d : Document} {m m' : DatabaseMedium}
    {cause : PersistenceError} (h : m.persist id d = (.error cause, m')) : m' = m := by
  rcases m.persist_cases id d with ⟨_, hm⟩ | ⟨_, _, hm⟩
  · rw [hm] at h
    cases h
    rfl
  · rw [hm] at h
    cases h

instance : ReliableMedium DatabaseMedium where
  atomic _ := ⟨DatabaseMedium.persist_error, Medium.outcome_error, Medium.outcome_error⟩
  faithful _ := DatabaseMedium.faithful _

/-! ## Places -/

theorem Disk.setDatabase_database (handle : Nat) (d : Disk) :
    d.setDatabase handle (d.database handle) = d := by
  have hset : d.databases.set handle (d.databases.getD handle .empty) = d.databases := by
    by_cases h : handle < d.databases.length
    · rw [List.getD_eq_getElem?_getD, List.getElem?_eq_getElem h, Option.getD_some,
        List.set_getElem_self]
    · exact List.set_eq_of_length_le (Nat.le_of_not_lt h)
  rw [setDatabase, database, hset]

namespace Place

theorem put_state (p : Place) : p.view.put p.view.state = p := by
  obtain ⟨backend, disk⟩ := p
  cases backend with
  | memory | slot | file => rfl
  | database target limit handle =>
      exact congrArg (Place.mk _) (disk.setDatabase_database handle)

theorem atomic_state (p : Place) : Medium.Atomic p.view.state := by
  obtain ⟨backend, disk⟩ := p
  cases backend with
  | memory m => exact ReliableMedium.atomic m
  | slot m => exact ReliableMedium.atomic m
  | file path => exact ReliableMedium.atomic (⟨path, disk⟩ : FileMedium)
  | database target limit handle =>
      exact ReliableMedium.atomic (⟨target, limit, disk.database handle⟩ : DatabaseMedium)

theorem write_error {p p' : Place} {α : Type} {r : Except PersistenceError α × p.view.σ}
    {cause : PersistenceError} (hr : ∀ m, r = (.error cause, m) → m = p.view.state)
    (h : p.view.write r = (.error cause, p')) : p' = p := by
  obtain ⟨result, m⟩ := r
  rw [View.write, Prod.mk.injEq] at h
  obtain ⟨rfl, rfl⟩ := h
  rw [hr m rfl, put_state]

instance : ReliableMedium Place where
  atomic p :=
    ⟨write_error fun _ => p.atomic_state.persist, write_error fun _ => p.atomic_state.putFile,
      write_error fun _ => p.atomic_state.eraseFile⟩
  faithful {p bytes} h := by
    refine Place.faithful fun slot hslot => ?_
    obtain ⟨backend, disk⟩ := p
    cases hslot
    rw [← Bool.not_eq_true]
    intro hfails
    rw [show Medium.load (⟨.slot slot, disk⟩ : Place) =
      if slot.failsToLoad then .error .io else .ok slot.bytes from rfl, if_pos hfails] at h
    cases h

end Place

end SettingsStore
