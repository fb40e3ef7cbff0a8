import SettingsStore.Proofs.Document.Masking
import SettingsStore.Proofs.Store.Run

/-!
# What a set makes of a candidate

A set completes and repairs its candidate and then puts back what is kept of the leaves that are
overridden. What is put back does not show in the document in use, and what the candidate leaves
alone there stays alone.
-/

namespace SettingsStore

namespace Store

variable {σ κ : Type}

theorem Coherent.isComplete_active {s : Store σ κ} (h : s.Coherent) : s.active.IsComplete :=
  h.active_eq ▸ (Options.isComplete_overlay h.complete s.options).repaired

theorem Coherent.isNormal_active {s : Store σ κ} (h : s.Coherent) : s.active.IsNormal :=
  h.active_eq ▸ Document.isNormal_repaired _

/-- The document that a set makes of a candidate before it puts back what is overridden. -/
def prepared (s : Store σ κ) (salt : String) (candidate : Document) : Document :=
  (((candidate.unmask s.active).inherit s.persisted).fill salt).repaired

theorem Coherent.toPersist_eq {s : Store σ κ} (h : s.Coherent) (salt : String)
    (candidate : Document) :
    s.toPersist salt candidate =
      (s.prepared salt candidate).restore s.persisted s.overridden := by
  unfold toPersist
  by_cases hallow : s.options.allowOverrides = true
  · rw [if_pos hallow]
    rfl
  · have hnone : s.overridden = [] := by
      rw [h.overridden_eq, Options.overridden, if_neg hallow]
    rw [if_neg hallow, hnone, Document.restore_nil]
    rfl

/-- What is put back is overridden anyway. -/
theorem Coherent.overlay_toPersist {s : Store σ κ} (h : s.Coherent) (salt : String)
    (candidate : Document) : s.options.overlay (s.toPersist salt candidate) =
      s.options.overlay (s.prepared salt candidate) := by
  have hfits := (Options.effective_eq_ok_iff.mp h.effective).1
  apply Document.ext_get
  intro l
  rw [Options.get_overlay, Options.get_overlay]
  cases hv : s.options.value? l with
  | some v => rw [Option.getD_some, Option.getD_some]
  | none =>
      have hl : l ∉ s.overridden := by
        rw [h.overridden_eq, Options.mem_overridden_iff hfits, hv]
        exact Bool.false_ne_true
      rw [h.toPersist_eq, Document.get_restore_of_notMem hl]

/-- What a candidate leaves alone stays alone, if it comes with what it is derived from. -/
theorem Coherent.agreesOn_prepared {s : Store σ κ} (h : s.Coherent) {p : Leaf → Prop}
    (hp : Document.SelfContained p) {candidate : Document}
    (hc : Document.AgreesOn p candidate s.active) (salt : String) :
    Document.AgreesOn p (s.prepared salt candidate) s.active := by
  have hall := ((hc.unmask.inherit s.persisted).fill salt).repaired hp
  rwa [h.isComplete_active.inherit_eq, h.isComplete_active.fill_eq,
    h.isNormal_active.repaired_eq] at hall

/-- The document in use is a candidate that needs no work, also with its secrets masked. -/
theorem Coherent.prepared_active {s : Store σ κ} (h : s.Coherent) (salt : String) :
    s.prepared salt s.active = s.active := by
  have hagree := h.agreesOn_prepared (p := fun _ => True) ⟨id, id⟩
    (Document.AgreesOn.refl _ s.active) salt
  exact Document.ext_get fun l => hagree l trivial

theorem Coherent.prepared_masked {s : Store σ κ} (h : s.Coherent) (salt : String) :
    s.prepared salt s.active.masked = s.active := by
  have hprepared := h.prepared_active salt
  rw [prepared, Document.unmask_self] at hprepared
  rw [prepared, Document.unmask_masked, hprepared]

end Store

end SettingsStore
