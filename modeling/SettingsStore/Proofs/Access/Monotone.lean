import SettingsStore.Proofs.Access.Gate
import SettingsStore.Proofs.Access.Overlay

/-!
# More permissions

Whoever holds more permissions of a catalog may access more settings. So it is shown more of a
document, and what was shown before stands in the same place. A patch takes the same way through the
document: a value is passed over whoever the caller is, and the kind of a value is checked whoever
the caller is, so permissions only turn a refusal into a change. The document that is reached after
each value of an accepted patch is the same.
-/

namespace SettingsStore

open Json

namespace Filter

variable {c : Catalog} {few more : Caller}

section

variable (h : ∀ p ∈ c.permissions, few p = true → more p = true)

include h

/-! ## What may be accessed -/

theorem holds_mono {id : String} (hid : holds ⟨c, few⟩ id = true) : holds ⟨c, more⟩ id = true := by
  obtain ⟨p, hp, hcaller⟩ := (Option.any_eq_true _ _).mp hid
  exact (Option.any_eq_true _ _).mpr ⟨p, hp, h p (Catalog.mem_of_find? hp) hcaller⟩

theorem isAllowed_mono {field : Field} {access : Access} {restricted : Bool}
    (hallowed : isAllowed ⟨c, few⟩ field access restricted = true) :
    isAllowed ⟨c, more⟩ field access restricted = true := by
  obtain ⟨hfree, hgiven⟩ := isAllowed_eq_true_iff.mp hallowed
  refine isAllowed_eq_true_iff.mpr ⟨hfree, hgiven.imp ?_ (holds_mono h)⟩
  rintro ⟨scope, hscope, hholds⟩
  exact ⟨scope, hscope, holds_mono h hholds⟩

/-! ## What is shown -/

theorem get?_project_mono {d : Document} {path : List String} {value : Json}
    (hvalue : (project ⟨c, few⟩ d).get? path = some value) (hplain : value.isObject = false) :
    (project ⟨c, more⟩ d).get? path = some value := by
  rw [project_eq_ofSettings] at hvalue
  obtain ⟨l, hl, rfl, rfl⟩ := Leaf.exists_of_get?_ofSettings (nodup_readable _ d)
    (fun _ => LeafType.isObject_toJson _) hvalue hplain
  exact (find?_project _ d l).trans (if_pos (isAllowed_mono h (mem_readable.mp hl)))

/-! ## What is changed -/

/-- A value that is accepted from one caller does the same for one who holds more. -/
theorem applyLeaf_mono {restricted : Bool} {doc doc' value : Json} {path : String}
    (happly : applyLeaf ⟨c, few⟩ restricted doc path value = .ok doc') :
    applyLeaf ⟨c, more⟩ restricted doc path value = .ok doc' := by
  unfold applyLeaf at happly ⊢
  cases hl : Leaf.ofPath? path with
  | none =>
      rw [hl] at happly
      cases happly
  | some l =>
      rw [hl] at happly
      dsimp only at happly ⊢
      by_cases hallowed : isAllowed ⟨c, few⟩ l.field .write restricted = true
      · rw [hallowed] at happly
        rw [isAllowed_mono h hallowed]
        exact happly
      -- What was accepted without a permission was passed over.
      rw [Bool.not_eq_true] at hallowed
      rw [hallowed] at happly
      split at happly
      · next hmask => rwa [if_pos hmask]
      next hplain =>
      split at happly
      · next hsame => rwa [if_neg hplain, if_pos hsame]
      split at happly
      · cases happly
      · cases happly

theorem foldlM_applyLeaf_mono {restricted : Bool} {leaves : List (String × Json)}
    {doc doc' : Json}
    (happly : leaves.foldlM (fun doc (path, value) =>
      applyLeaf ⟨c, few⟩ restricted doc path value) doc = .ok doc') :
    leaves.foldlM (fun doc (path, value) =>
      applyLeaf ⟨c, more⟩ restricted doc path value) doc = .ok doc' := by
  induction leaves generalizing doc with
  | nil =>
      cases happly
      rfl
  | cons leaf leaves ih =>
      obtain ⟨path, value⟩ := leaf
      rw [List.foldlM_cons] at happly ⊢
      obtain ⟨doc₁, hleaf, happly⟩ := bind_eq_ok_iff.mp happly
      exact bind_eq_ok_iff.mpr ⟨doc₁, applyLeaf_mono h hleaf, ih happly⟩

theorem applyPatch_mono {base d : Document} {patch : Json}
    (happly : applyPatch ⟨c, few⟩ base patch = .ok d) :
    applyPatch ⟨c, more⟩ base patch = .ok d := by
  obtain ⟨members, leaves, doc, rfl, hleaves, hdoc, hd⟩ := applyPatch_cases happly
  simp only [applyPatch, hleaves, foldlM_applyLeaf_mono h hdoc, hd, bind, Except.bind]
  rfl

end

/-- One who holds more permissions is shown all that was shown before, where it was shown, and has
every patch accepted that was accepted before, with the same result. -/
theorem access_mono (h : ∀ p ∈ c.permissions, few p = true → more p = true) :
    (∀ d path value, (project ⟨c, few⟩ d).get? path = some value → value.isObject = false →
      (project ⟨c, more⟩ d).get? path = some value) ∧
    ∀ base patch d, applyPatch ⟨c, few⟩ base patch = .ok d →
      applyPatch ⟨c, more⟩ base patch = .ok d := by
  refine ⟨fun d path value hvalue hplain => ?_, fun base patch d happly => ?_⟩
  · exact get?_project_mono h hvalue hplain
  · exact applyPatch_mono h happly

/-- What one who may change the site is shown of it and changes, one who holds everything is shown
and changes too. -/
theorem access_mono_of_site :
    let c : Catalog := .ofList [⟨manageSystem, "system_scope"⟩,
      ⟨"sysconsole_read_site", "system_scope"⟩, ⟨"sysconsole_write_site", "system_scope"⟩]
    let few : Caller := fun p => p.id ≠ manageSystem
    let more : Caller := fun _ => true
    let base : Document := { email := { feedbackName := "Ops" } }
    let patch : Json := .obj [(Leaf.feedbackName.path, .str "Site")]
    (∀ p ∈ c.permissions, few p = true → more p = true) ∧
      Leaf.feedbackName.field.find? (project ⟨c, more⟩ base) = some (.str "Ops") ∧
      ∃ d, applyPatch ⟨c, few⟩ base patch = .ok d ∧ applyPatch ⟨c, more⟩ base patch = .ok d := by
  intro c few more base patch
  have h : ∀ p ∈ c.permissions, few p = true → more p = true := fun _ _ _ => rfl
  have hread : ∀ restricted, isAllowed ⟨c, few⟩ Leaf.feedbackName.field .read restricted = true :=
    by decide +kernel
  have hwrite : isAllowed ⟨c, few⟩ Leaf.feedbackName.field .write false = true := by
    decide +kernel
  have hshown : Leaf.feedbackName.field.find? (project ⟨c, few⟩ base) = some (.str "Ops") := by
    rw [find?_project, if_pos (hread _)]
    rfl
  have hadmits : Admits ⟨c, few⟩ false "" [(Leaf.feedbackName.path, .str "Site")] :=
    (admits_cons_iff rfl).mpr ⟨⟨.feedbackName, rfl, hwrite, rfl, rfl⟩, admits_nil⟩
  obtain ⟨d, hd⟩ : ∃ d, applyPatch ⟨c, few⟩ base patch = .ok d := exists_applyPatch hadmits
  obtain ⟨hsees, hpatches⟩ := access_mono h
  exact ⟨h, hsees base _ _ hshown rfl, d, hd, hpatches base patch d hd⟩

end Filter

end SettingsStore
