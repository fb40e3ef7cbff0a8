import SettingsStore.Access.Filter
import SettingsStore.Proofs.Document.Selection

/-!
# What a patch changes

A patch is written value by value into the document given as a value, and each value that is written
was allowed to its caller. The values at the paths of other leaves stay, so the document that is
read in the end differs from the one before only in leaves that the caller may write.
-/

namespace SettingsStore

theorem Leaf.field_find?_write {l m : Leaf} (h : l ≠ m) (value doc : Json) :
    l.field.find? (m.field.write value doc) = l.field.find? doc := by
  have hne : m.field.segments ≠ l.field.segments := fun heq => h (Leaf.eq_of_segments heq).symm
  have hlength : m.field.segments.length = l.field.segments.length := by
    rw [m.segments_field, l.segments_field]
    rfl
  refine Json.get?_put_of_not_prefix ?_ ?_ doc value
  · exact fun hp => hne (hp.eq_of_length hlength)
  · exact fun hp => hne (hp.eq_of_length hlength.symm).symm

theorem Leaf.path_eq_of_ofPath? {path : String} {l : Leaf} (h : ofPath? path = some l) :
    l.path = path := by
  have hfound := List.find?_some h
  rwa [decide_eq_true_eq] at hfound

namespace Filter

variable {f : Filter} {restricted : Bool} {doc doc' : Json}

/-- A value is for a leaf. It is passed over as a mask or as nothing new, or written, and then it is
of the kind of the leaf and the caller may write that. -/
theorem applyLeaf_cases {path : String} {value : Json}
    (h : f.applyLeaf restricted doc path value = .ok doc') :
    ∃ l : Leaf, l.path = path ∧
      (((l.isSecret && value.isMask) = true ∧ doc' = doc) ∨
        ((l.isSecret && value.isMask) = false ∧ (l.field.find? doc).any (·.same value) = true ∧
          doc' = doc) ∨
        ((l.isSecret && value.isMask) = false ∧ l.type.kind.accepts value = true ∧
          f.isAllowed l.field .write restricted = true ∧ doc' = l.field.write value doc)) := by
  unfold applyLeaf at h
  cases hl : Leaf.ofPath? path with
  | none =>
      rw [hl] at h
      cases h
  | some l =>
      rw [hl] at h
      refine ⟨l, Leaf.path_eq_of_ofPath? hl, ?_⟩
      dsimp only at h
      split at h
      · next hmask =>
          cases h
          exact Or.inl ⟨hmask, rfl⟩
      next hplain =>
      split at h
      · next hsame =>
          cases h
          exact Or.inr (Or.inl ⟨Bool.eq_false_iff.mpr hplain, hsame, rfl⟩)
      split at h
      · cases h
      next haccepted =>
      split at h
      · cases h
      next hallowed =>
      cases h
      exact Or.inr (Or.inr ⟨Bool.eq_false_iff.mpr hplain, by simpa using haccepted,
        by simpa using hallowed, rfl⟩)

theorem find?_of_applyLeaf {path : String} {value : Json} {l : Leaf}
    (hl : f.isAllowed l.field .write restricted = false)
    (h : f.applyLeaf restricted doc path value = .ok doc') :
    l.field.find? doc' = l.field.find? doc := by
  obtain ⟨m, _, ⟨_, rfl⟩ | ⟨_, _, rfl⟩ | ⟨_, _, hm, rfl⟩⟩ := applyLeaf_cases h
  · rfl
  · rfl
  · refine Leaf.field_find?_write ?_ value doc
    rintro rfl
    rw [hl] at hm
    cases hm

theorem find?_of_foldlM {leaves : List (String × Json)} {l : Leaf}
    (hl : f.isAllowed l.field .write restricted = false)
    (h : leaves.foldlM (fun doc (path, value) => f.applyLeaf restricted doc path value) doc =
      .ok doc') : l.field.find? doc' = l.field.find? doc := by
  induction leaves generalizing doc with
  | nil =>
      cases h
      rfl
  | cons leaf leaves ih =>
      obtain ⟨path, value⟩ := leaf
      rw [List.foldlM_cons] at h
      obtain ⟨doc₁, hleaf, h⟩ := bind_eq_ok_iff.mp h
      rw [ih h, find?_of_applyLeaf hl hleaf]

/-- A patch is an object. Its values are collected, then they are written one after the other, and
in the end there is a document again. -/
theorem applyPatch_cases {base d : Document} {patch : Json} (h : f.applyPatch base patch = .ok d) :
    ∃ members leaves doc, patch = .obj members ∧ collectMembers "" members = .ok leaves ∧
      leaves.foldlM (fun doc (path, value) => f.applyLeaf base.restrictsSystemAdmin doc path value)
        base.toJson = .ok doc ∧ Document.ofJson doc = .ok d := by
  cases patch with
  | obj members =>
      rw [applyPatch] at h
      obtain ⟨leaves, hleaves, h⟩ := bind_eq_ok_iff.mp h
      obtain ⟨doc, hdoc, h⟩ := bind_eq_ok_iff.mp h
      refine ⟨members, leaves, doc, rfl, hleaves, hdoc, ?_⟩
      cases hd : Document.ofJson doc with
      | error fault =>
          rw [hd] at h
          cases h
      | ok d' =>
          rw [hd] at h
          cases h
          rfl
  | null | bool | num | str | arr => cases h

/-- A leaf that the caller may not write is as it was. -/
theorem get_of_applyPatch {base d : Document} {patch : Json} {l : Leaf}
    (h : f.applyPatch base patch = .ok d)
    (hl : f.isAllowed l.field .write base.restrictsSystemAdmin = false) :
    d.get l = base.get l := by
  obtain ⟨_, _, doc, _, _, hdoc, hd⟩ := applyPatch_cases h
  have hvalue : l.field.find? doc = some (l.type.toJson (base.get l)) := by
    rw [find?_of_foldlM hl hdoc, Document.find?_toJson]
  have hread := Document.read_of_ofJson hd hvalue
  rw [LeafType.read_toJson] at hread
  exact (Except.ok.inj hread).symm

/-- One who may write nothing changes nothing. -/
theorem eq_of_applyPatch {base d : Document} {patch : Json} (h : f.applyPatch base patch = .ok d)
    (hnone : ∀ l : Leaf, f.isAllowed l.field .write base.restrictsSystemAdmin = false) :
    d = base :=
  Document.ext_get fun l => get_of_applyPatch h (hnone l)

end Filter

end SettingsStore
