import SettingsStore.Proofs.Medium.Retentive
import SettingsStore.Proofs.Store.Coherence

/-!
# Stores that nobody interferes with

A store remembers the bytes that it read or wrote last, and `sync` loads if the medium has others.
Every load and every write, whether it succeeds or fails, leaves what is remembered and what is
stored the same, but for empty bytes, which are no document. So unless somebody else stores a
document, `sync` finds nothing to do: no write of a store makes it load again, whatever its medium,
its format and its options are.
-/

namespace SettingsStore

namespace Store

variable {σ κ : Type} {s s' : Store σ κ} {fresh : Fresh}

theorem content_content (bytes : Option Bytes) : content (content bytes) = content bytes := by
  cases bytes with
  | none => rfl
  | some b => simp [content, Option.filter_filter]

variable [Medium σ]

theorem written_cases {needsSave : Bool} {d : Document} {written : Option Bytes} {medium : σ}
    (h : (if needsSave then s.writeBack fresh.revision d else (.ok none, s.medium)) =
      (.ok written, medium)) :
    (written = none ∧ medium = s.medium) ∨
    ∃ b, written = some b ∧ Medium.persist fresh.revision d s.medium = (.ok b, medium) := by
  by_cases hsave : needsSave = true
  · rw [if_pos hsave] at h
    by_cases hread : s.options.readOnly = true
    · rw [writeBack, if_pos hread] at h
      cases h
      exact Or.inl ⟨rfl, rfl⟩
    · exact Or.inr (writeBack_eq_ok (eq_false_of_ne_true hread) h)
  · rw [if_neg hsave] at h
    cases h
    exact Or.inl ⟨rfl, rfl⟩

/-- If what is remembered and what is read have the same content, there is nothing to load: it is
either no document, or what is remembered. -/
theorem sync_eq_self {bytes : Option Bytes} (hopen : s.closed = false)
    (hload : Medium.load s.medium = .ok bytes) (h : content s.synced = content bytes)
    (fresh : Fresh) : s.sync fresh = (.ok false, s) := by
  rw [sync_of_load hopen hload]
  refine if_pos ?_
  cases bytes with
  | none => rfl
  | some b =>
      cases hb : b.isEmpty with
      | true => simp [hb]
      | false =>
          have hsome : content (some b) = some b := content_eq_some.mpr ⟨rfl, hb⟩
          rw [(content_eq_some.mp (h.trans hsome)).1, Bool.or_eq_true]
          exact Or.inr (beq_self_eq_true b.data)

variable [RetentiveMedium σ]

/-- What is remembered and what is stored have the same content. -/
def UpToDate (s : Store σ κ) : Prop :=
  content s.synced = content (RetentiveMedium.stored s.medium)

/-- Whether an action leaves it to the store what document is stored. Others may make the medium
fail for a while. -/
def Respects (s : Store σ κ) (a : Action σ κ) : Prop :=
  match a with
  | .putFile _ _ | .eraseFile _ | .edit _ =>
    RetentiveMedium.stored (s.act a).medium = RetentiveMedium.stored s.medium
  | _ => True

/-- Whether nobody but the store stores a document in a run. -/
def Undisturbed (s : Store σ κ) : List (Action σ κ) → Prop
  | [] => True
  | a :: actions => s.Respects a ∧ (s.act a).Undisturbed actions

theorem stored_of_attempt {m m' : σ} (h : Attempt m m') :
    RetentiveMedium.stored m' = RetentiveMedium.stored m := by
  rcases h with rfl | ⟨id, d, cause, h⟩
  · rfl
  · exact RetentiveMedium.stored_persist_error h

theorem UpToDate.withMedium (h : s.UpToDate) {medium : σ}
    (hmedium : RetentiveMedium.stored medium = RetentiveMedium.stored s.medium) :
    ({ s with medium } : Store σ κ).UpToDate :=
  h.trans (congrArg content hmedium.symm)

/-! ## What one action preserves -/

theorem UpToDate.set (h : s.UpToDate) (fresh : Fresh) (candidate : Document) :
    (s.set fresh candidate).2.UpToDate := by
  rcases s.set_cases fresh candidate with ⟨cause, medium, hattempt, hset⟩ |
    ⟨e, b, medium, _, _, _, hpersist, hset⟩
  · rw [hset]
    exact h.withMedium (stored_of_attempt hattempt)
  · rw [hset]
    exact congrArg content (RetentiveMedium.stored_persist hpersist).symm

/-- What a load adopts is what it read, or what it then wrote. -/
theorem upToDate_of_loadBytes {bytes : Option Bytes} {loaded : Loaded}
    (hbytes : Medium.load s.medium = .ok bytes)
    (h : s.loadBytes fresh bytes = (.ok loaded, s')) : s'.UpToDate := by
  rcases s.loadBytes_cases fresh bytes with ⟨cause, medium, _, hload⟩ |
    ⟨d, needsSave, e, written, medium, _, _, hw, hload⟩
  · rw [hload] at h
    cases h
  · rw [hload] at h
    cases h
    rcases written_cases hw with ⟨rfl, rfl⟩ | ⟨b, rfl, hpersist⟩
    · refine (content_content bytes).trans (congrArg content ?_)
      exact RetentiveMedium.eq_stored hbytes
    · exact congrArg content (RetentiveMedium.stored_persist hpersist).symm

theorem UpToDate.loadBytes (h : s.UpToDate) (fresh : Fresh) {bytes : Option Bytes}
    (hbytes : Medium.load s.medium = .ok bytes) : (s.loadBytes fresh bytes).2.UpToDate := by
  rcases s.loadBytes_cases fresh bytes with ⟨cause, medium, hattempt, hload⟩ |
    ⟨_, _, _, _, _, _, _, _, hload⟩
  · rw [hload]
    exact h.withMedium (stored_of_attempt hattempt)
  · rw [hload]
    exact upToDate_of_loadBytes hbytes hload

theorem UpToDate.act_load (h : s.UpToDate) {a : Action σ κ}
    (ha : a = .reload fresh ∨ a = .sync fresh) : (s.act a).UpToDate := by
  rcases s.act_load_cases ha with hact | ⟨bytes, _, hbytes, hact⟩
  · rw [hact]
    exact h
  · rw [hact]
    exact h.loadBytes fresh hbytes

theorem UpToDate.act (h : s.UpToDate) {a : Action σ κ} (ha : s.Respects a) :
    (s.act a).UpToDate := by
  have hspared (hsynced : (s.act a).synced = s.synced)
      (hstored : RetentiveMedium.stored (s.act a).medium = RetentiveMedium.stored s.medium) :
      (s.act a).UpToDate :=
    (congrArg content hsynced).trans (h.trans (congrArg content hstored.symm))
  cases a with
  | set fresh candidate => exact h.set fresh candidate
  | reload fresh => exact h.act_load (Or.inl rfl)
  | sync fresh => exact h.act_load (Or.inr rfl)
  | putFile name bytes => exact hspared (synced_change _ s) ha
  | eraseFile name => exact hspared (synced_change _ s) ha
  | edit medium =>
      refine hspared ?_ ha
      rw [Store.act]
      split
      · rfl
      · rfl
  | listen callback => exact h
  | unlisten id => exact h
  | deliver =>
      rw [Store.act]
      split
      · exact h
      · exact h
  | close =>
      rw [Store.act, Store.close]
      split
      · exact h
      · exact h

/-! ## Runs -/

theorem UpToDate.run (h : s.UpToDate) {actions : List (Action σ κ)}
    (hrun : s.Undisturbed actions) : (s.run actions).UpToDate := by
  induction actions generalizing s with
  | nil => exact h
  | cons a actions ih => exact ih (h.act hrun.1) hrun.2

theorem UpToDate.of_openMedium {options : Options} {salt : String} {medium : σ} {loaded : Loaded}
    (h : openMedium options salt fresh medium = (.ok loaded, s)) : s.UpToDate := by
  obtain ⟨bytes, hbytes, hload⟩ := exists_load_of_openMedium h
  exact upToDate_of_loadBytes (s := ofMedium options salt medium) hbytes hload

/-- A store that is up to date does not load to be in sync. -/
theorem UpToDate.sync_eq (h : s.UpToDate) (fresh : Fresh) :
    s.sync fresh =
      (if s.closed then .error .closed
        else ((Medium.load s.medium).mapError .persistence).map fun _ => false, s) := by
  by_cases hclosed : s.closed = true
  · rw [sync, if_pos hclosed, if_pos hclosed]
  · rw [if_neg hclosed]
    cases hload : Medium.load s.medium with
    | error cause =>
        rw [sync, if_neg hclosed, hload]
        rfl
    | ok bytes =>
        refine sync_eq_self (eq_false_of_ne_true hclosed) hload ?_ fresh
        rw [RetentiveMedium.eq_stored hload]
        exact h

/-- Nothing that a store does by itself makes `sync` load: it fails or finds nothing to do, and
leaves everything as it is. -/
theorem sync_of_run {options : Options} {salt : String} {medium : σ} {loaded : Loaded}
    (h : openMedium options salt fresh medium = (.ok loaded, s)) {actions : List (Action σ κ)}
    (hrun : s.Undisturbed actions) (fresh' : Fresh) :
    (s.run actions).sync fresh' =
      (if (s.run actions).closed then .error .closed
        else ((Medium.load (s.run actions).medium).mapError .persistence).map fun _ => false,
      s.run actions) :=
  ((UpToDate.of_openMedium h).run hrun).sync_eq fresh'

/-- After a set and one that fails there is nothing to load. -/
theorem sync_in_memory :
    let s := (inMemory []).2
    let actions : List (Action Memory Unit) :=
      [.set ⟨"", ""⟩ { files := { directory := "uploads" } },
        .set ⟨"", ""⟩ { password := { minimumLength := 1 } }]
    s.Undisturbed actions ∧ (s.run actions).active.files.directory = "uploads/" ∧
      (s.run actions).sync ⟨"", ""⟩ = (.ok false, s.run actions) := by
  intro s actions
  obtain ⟨loaded, hopen⟩ : ∃ loaded, inMemory [] = (.ok loaded, s) :=
    exists_eq_ok (by decide +kernel)
  have hrun : s.Undisturbed actions := ⟨trivial, trivial, trivial⟩
  have hclosed : (s.run actions).closed = false := by decide +kernel
  have hsync := sync_of_run hopen hrun ⟨"", ""⟩
  rw [hclosed, if_neg Bool.false_ne_true] at hsync
  exact ⟨hrun, by decide +kernel, hsync⟩

end Store

end SettingsStore
