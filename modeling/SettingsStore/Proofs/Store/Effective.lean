import SettingsStore.Proofs.Document.Agreement
import SettingsStore.Store.Basic

/-!
# The document in use

The document in use for a kept one is the kept one with the values of the environment laid over it,
repaired. Which leaves the environment gives a value to, and which value, does not depend on the
document. So laying the values over a document in use and repairing it again changes nothing.
-/

namespace SettingsStore

namespace Options

variable {o : Options} {d : Document} {e : Effective} {l : Leaf}

def value? (o : Options) (l : Leaf) : Option l.type.Value :=
  if o.allowOverrides then o.environment.value? o.lead l else none

def overridden (o : Options) : List Leaf :=
  if o.allowOverrides then o.environment.overridden o.lead else []

/-- Every variable that counts fits its leaf. -/
def Fits (o : Options) : Prop :=
  o.allowOverrides = true → ∀ l, o.environment.violation? o.lead l = none

/-- A document with the values that override its leaves. -/
def overlay (o : Options) (d : Document) : Document :=
  .ofLeaves fun l => (o.value? l).getD (d.get l)

@[simp] theorem get_overlay (o : Options) (d : Document) (l : Leaf) :
    (o.overlay d).get l = (o.value? l).getD (d.get l) := by
  simp [overlay]

theorem mem_overridden_iff (h : o.Fits) : l ∈ o.overridden ↔ (o.value? l).isSome := by
  unfold overridden value?
  cases ha : o.allowOverrides with
  | false => simp
  | true => simpa using Environment.mem_overridden_iff (h ha l)

theorem value?_of_notMem (h : o.Fits) (hl : l ∉ o.overridden) : o.value? l = none := by
  rwa [mem_overridden_iff h, Option.not_isSome_iff_eq_none] at hl

theorem overlay_of_not (h : o.allowOverrides = false) (d : Document) : o.overlay d = d :=
  Document.ext_get fun l => by simp [value?, h]

theorem overlay_of_allowed (h : o.allowOverrides = true) (d : Document) :
    o.overlay d = d.overlaid o.environment o.lead := by
  simp only [overlay, value?, h, if_true, Document.overlaid]

/-- A document that may be put to use. -/
def check (o : Options) (d : Document) : Except (List Violation) Document :=
  if o.skipValidation then .ok d
  else match d.violations with
    | [] => .ok d
    | violations => .error violations

theorem check_eq_ok_iff {d' : Document} :
    o.check d = .ok d' ↔ d' = d ∧ (o.skipValidation = false → d.violations = []) := by
  unfold check
  cases o.skipValidation with
  | true => simpa using eq_comm
  | false => cases d.violations <;> simp [eq_comm]

theorem effective_eq (o : Options) (d : Document) :
    o.effective d =
      (if o.allowOverrides then d.applyOverrides o.environment o.lead else .ok (d, [])).bind
        fun (d, overridden) => (o.check d.repaired).map (⟨·, overridden⟩) := by
  unfold effective check
  cases o.allowOverrides with
  | false =>
      simp only [bind, Except.bind, pure, Except.pure, Bool.false_eq_true, if_false]
      generalize d.repaired.violations = violations
      cases o.skipValidation <;> cases violations <;> rfl
  | true =>
      rw [if_pos rfl, if_pos rfl]
      cases d.applyOverrides o.environment o.lead with
      | error violations => rfl
      | ok laid =>
          simp only [bind, Except.bind, pure, Except.pure]
          generalize laid.1.repaired.violations = violations
          cases o.skipValidation <;> cases violations <;> rfl

theorem effective_eq_ok_iff :
    o.effective d = .ok e ↔ o.Fits ∧ e = ⟨(o.overlay d).repaired, o.overridden⟩ ∧
      (o.skipValidation = false → (o.overlay d).repaired.violations = []) := by
  have hcheck : (o.check (o.overlay d).repaired).map (⟨·, o.overridden⟩) = .ok e ↔
      e = ⟨(o.overlay d).repaired, o.overridden⟩ ∧
        (o.skipValidation = false → (o.overlay d).repaired.violations = []) := by
    cases hc : o.check (o.overlay d).repaired with
    | error violations =>
        simp only [Except.map, reduceCtorEq, false_iff, not_and]
        intro _ hv
        have := check_eq_ok_iff.mpr ⟨rfl, hv⟩
        rw [hc] at this
        cases this
    | ok d' =>
        obtain ⟨rfl, hv⟩ := check_eq_ok_iff.mp hc
        simp only [Except.map, Except.ok.injEq]
        exact ⟨fun h => ⟨h.symm, hv⟩, fun h => h.1.symm⟩
  rw [effective_eq]
  cases ha : o.allowOverrides with
  | false =>
      have hfits : o.Fits := fun h => by simp [ha] at h
      have hnone : o.overridden = [] := by simp [overridden, ha]
      rw [overlay_of_not ha, hnone] at hcheck ⊢
      exact hcheck.trans (by simp [hfits])
  | true =>
      by_cases hfits : o.Fits
      · rw [if_pos rfl, Document.applyOverrides_of_forall (hfits ha), ← overlay_of_allowed ha]
        have hsome : o.overridden = o.environment.overridden o.lead := by simp [overridden, ha]
        rw [hsome] at hcheck ⊢
        exact hcheck.trans (by simp [hfits])
      · have hv : ¬∀ l, o.environment.violation? o.lead l = none := fun h => hfits fun _ => h
        simp [Document.applyOverrides_of_not hv, Except.bind, hfits]

/-- The values of the environment are in a document in use already. -/
theorem repaired_overlay_repaired (o : Options) (d : Document) :
    (o.overlay (o.overlay d).repaired).repaired = (o.overlay d).repaired := by
  apply Document.repaired_eq_of_between
  intro l
  cases h : o.value? l with
  | none => exact Or.inr (by rw [get_overlay, h]; rfl)
  | some v => exact Or.inl (by rw [get_overlay, get_overlay, h]; rfl)

theorem agreesOn_overlay {p : Leaf → Prop} {d d' : Document} (h : Document.AgreesOn p d d') :
    Document.AgreesOn p (o.overlay d) (o.overlay d') := by
  intro l hl
  rw [get_overlay, get_overlay, h l hl]

theorem isSome_getD_value? {f : l.type.Value → Option String}
    (hf : ∀ raw v, l.ofVariable raw = .ok v → (f v).isSome) {x : l.type.Value}
    (hx : (f x).isSome) : (f ((o.value? l).getD x)).isSome := by
  cases hv : o.value? l with
  | none => exact hx
  | some v =>
      unfold value? at hv
      split at hv
      · obtain ⟨raw, _, hraw⟩ := Environment.value?_eq_some hv
        exact hf raw v hraw
      · cases hv

theorem isComplete_overlay {d : Document} (h : d.IsComplete) (o : Options) :
    (o.overlay d).IsComplete where
  dataSource := by
    rw [show (o.overlay d).sql.dataSource = _ from o.get_overlay d .dataSource]
    exact isSome_getD_value? (l := .dataSource) (f := id) (fun _ _ hv => by cases hv; rfl)
      h.dataSource
  publicLinkSalt := by
    rw [show (o.overlay d).files.publicLinkSalt = _ from o.get_overlay d .publicLinkSalt]
    exact isSome_getD_value? (l := .publicLinkSalt) (f := id) (fun _ _ hv => by cases hv; rfl)
      h.publicLinkSalt
  defaultServerLocale := by
    rw [show (o.overlay d).localization.defaultServerLocale = _ from
      o.get_overlay d .defaultServerLocale]
    exact isSome_getD_value? (l := .defaultServerLocale) (f := id) (fun _ _ hv => by cases hv; rfl)
      h.defaultServerLocale
  defaultClientLocale := by
    rw [show (o.overlay d).localization.defaultClientLocale = _ from
      o.get_overlay d .defaultClientLocale]
    exact isSome_getD_value? (l := .defaultClientLocale) (f := id) (fun _ _ hv => by cases hv; rfl)
      h.defaultClientLocale

end Options

end SettingsStore
