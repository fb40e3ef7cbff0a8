import SettingsStore.Proofs.Store.Contents
import SettingsStore.Proofs.Store.Failure

/-!
# What is in use, what is kept, and what is on the medium

In every state of a store, the document in use is the kept one with the values of the environment
laid over it, repaired, and a leaf is overridden exactly if its variable is present. If the store
may write and nobody else writes its document, then the medium has what the store keeps: what is
loaded is either on the medium already or written back, and what fails leaves the medium as it was.
-/

namespace SettingsStore

/-- What the environment makes of a document, whether or not it may be put to use. -/
theorem Options.overrideWith_eq_overlay {o : Options} (h : o.Fits) (d : Document) :
    (if o.allowOverrides then d.overrideWith o.environment o.lead else .ok d) =
      .ok (o.overlay d) := by
  cases ha : o.allowOverrides with
  | false => rw [if_neg Bool.false_ne_true, overlay_of_not ha]
  | true => rw [if_pos rfl, Document.overrideWith_of_forall (h ha), overlay_of_allowed ha]

theorem Options.mem_overridden_iff_find? {o : Options} {l : Leaf} :
    l ∈ o.overridden ↔
      o.allowOverrides = true ∧ (o.environment.find? (l.variableName o.lead)).isSome = true := by
  unfold overridden Environment.overridden
  cases o.allowOverrides with
  | false => simp
  | true => simp [Leaf.mem_all]

namespace Store

variable {σ κ : Type} {s : Store σ κ}

theorem synced_change (f : σ → Except PersistenceError Unit × σ) (s : Store σ κ) :
    (s.change f).2.synced = s.synced := by
  unfold change
  split
  · rfl
  · split
    · rfl
    · rfl

variable [Medium σ]

/-- Whether an action leaves the document on the medium to the store. Files are others' business,
but one of them can be the document. -/
def Spares (s : Store σ κ) (a : Action σ κ) : Prop :=
  match a with
  | .putFile _ _ | .eraseFile _ | .edit _ => Medium.load (s.act a).medium = Medium.load s.medium
  | _ => True

/-- Whether only the store writes its document in a run. -/
def Alone (s : Store σ κ) : List (Action σ κ) → Prop
  | [] => True
  | a :: actions => s.Spares a ∧ (s.act a).Alone actions

section

variable [ReliableMedium σ]

theorem Untouched.set (h : s.Untouched) (fresh : Fresh) (candidate : Document) :
    (s.set fresh candidate).2.Untouched := by
  cases hset : s.set fresh candidate with
  | mk result s' =>
      cases result with
      | error cause => exact set_error (ReliableMedium.atomic s.medium) hset ▸ h
      | ok d => exact untouched_of_set (ReliableMedium.faithful h) hset

theorem Untouched.loadBytes (h : s.Untouched) (hwrite : s.options.readOnly = false) (fresh : Fresh)
    {bytes : Option Bytes} (hbytes : Medium.load s.medium = .ok bytes) :
    (s.loadBytes fresh bytes).2.Untouched := by
  cases hload : s.loadBytes fresh bytes with
  | mk result s' =>
      cases result with
      | error cause => exact loadBytes_error (ReliableMedium.atomic s.medium) hload ▸ h
      | ok loaded => exact untouched_of_loadBytes (ReliableMedium.faithful h) hwrite hbytes hload

theorem Untouched.act_load (h : s.Untouched) (hwrite : s.options.readOnly = false) {fresh : Fresh}
    {a : Action σ κ} (ha : a = .reload fresh ∨ a = .sync fresh) : (s.act a).Untouched := by
  rcases s.act_load_cases ha with hact | ⟨bytes, _, hbytes, hact⟩
  · rw [hact]
    exact h
  · rw [hact]
    exact h.loadBytes hwrite fresh hbytes

/-- A store whose document nobody else writes always knows what is on its medium. -/
theorem Untouched.act (h : s.Untouched) (hwrite : s.options.readOnly = false) {a : Action σ κ}
    (ha : s.Spares a) : (s.act a).Untouched := by
  cases a with
  | set fresh candidate => exact h.set fresh candidate
  | reload fresh => exact h.act_load hwrite (Or.inl rfl)
  | sync fresh => exact h.act_load hwrite (Or.inr rfl)
  | putFile name bytes =>
      have hsynced : (s.act (.putFile name bytes)).synced = s.synced := synced_change _ s
      exact ha.trans (hsynced ▸ h)
  | eraseFile name =>
      have hsynced : (s.act (.eraseFile name)).synced = s.synced := synced_change _ s
      exact ha.trans (hsynced ▸ h)
  | edit medium =>
      have hsynced : (s.act (.edit medium)).synced = s.synced := by
        rw [Store.act]
        split
        · rfl
        · rfl
      exact ha.trans (hsynced ▸ h)
  | listen callback => exact h
  | unlisten id => exact h
  | deliver =>
      rw [Store.act]
      split
      · exact h
      · exact h
  | close =>
      rw [Store.act, Store.close]
      split
      · exact h
      · exact h

theorem Untouched.run (h : s.Untouched) (hwrite : s.options.readOnly = false)
    {actions : List (Action σ κ)} (halone : s.Alone actions) : (s.run actions).Untouched := by
  induction actions generalizing s with
  | nil => exact h
  | cons a actions ih =>
      exact ih (h.act hwrite halone.1) ((s.options_act a).symm ▸ hwrite) halone.2

theorem Untouched.of_openMedium {options : Options} {salt : String} {fresh : Fresh} {medium : σ}
    {loaded : Loaded} (hwrite : options.readOnly = false)
    (h : openMedium options salt fresh medium = (.ok loaded, s)) : s.Untouched := by
  obtain ⟨bytes, hbytes, _⟩ := exists_load_of_openMedium h
  exact untouched_of_openMedium (ReliableMedium.faithful hbytes) hwrite h

end

theorem options_run (s : Store σ κ) (actions : List (Action σ κ)) :
    (s.run actions).options = s.options := by
  induction actions generalizing s with
  | nil => rfl
  | cons a actions ih => exact (ih (s.act a)).trans (s.options_act a)

/-- What is in use is made from what is kept, and this is on the medium if nobody else writes it. -/
theorem coherent_of_run {options : Options} {salt : String} {fresh : Fresh} {medium : σ}
    {loaded : Loaded} (h : openMedium options salt fresh medium = (.ok loaded, s))
    (actions : List (Action σ κ)) :
    (∃ d, (if options.allowOverrides
        then (s.run actions).persisted.overrideWith options.environment options.lead
        else .ok (s.run actions).persisted) = .ok d ∧
      (s.run actions).active = d.repaired) ∧
    (∀ l : Leaf, l ∈ (s.run actions).overridden ↔ options.allowOverrides = true ∧
      (options.environment.find? (l.variableName options.lead)).isSome = true) ∧
    (∀ [ReliableMedium σ], options.readOnly = false → s.Alone actions →
      Medium.Holds (s.run actions).medium (s.run actions).persisted) := by
  have hs : s.Reachable := .opened h
  have hrun := (hs.run actions).coherent
  have hoptions : (s.run actions).options = options :=
    (s.options_run actions).trans (options_of_openMedium h)
  have hfits := (Options.effective_eq_ok_iff.mp hrun.effective).1
  have hactive := hrun.active_eq
  have hoverridden := hrun.overridden_eq
  rw [hoptions] at hfits hactive hoverridden
  refine ⟨⟨_, Options.overrideWith_eq_overlay hfits _, hactive⟩, fun l => ?_,
    fun hwrite halone => ?_⟩
  · rw [hoverridden, Options.mem_overridden_iff_find?]
  · have huntouched : s.Untouched := Untouched.of_openMedium hwrite h
    have hwrite' : s.options.readOnly = false := options_of_openMedium h ▸ hwrite
    exact (hs.run actions).holds (hoptions ▸ hwrite) (huntouched.run hwrite' halone)

/-- After a set and one that fails, the medium has the document of the first. -/
theorem coherent_in_memory :
    let s := (inMemory []).2
    let actions : List (Action Memory Unit) :=
      [.set ⟨"", ""⟩ { files := { directory := "uploads" } },
        .set ⟨"", ""⟩ { password := { minimumLength := 1 } }, .close]
    s.Alone actions ∧ (s.run actions).active.files.directory = "uploads/" ∧
      Medium.Holds (s.run actions).medium (s.run actions).persisted := by
  intro s actions
  obtain ⟨loaded, hopen⟩ : ∃ loaded, inMemory [] = (.ok loaded, s) :=
    exists_eq_ok (by decide +kernel)
  have halone : s.Alone actions := ⟨trivial, trivial, trivial, trivial⟩
  obtain ⟨_, _, hholds⟩ := coherent_of_run hopen actions
  exact ⟨halone, by decide +kernel, hholds rfl halone⟩

end Store

end SettingsStore
