import SettingsStore.Proofs.Access.Change
import SettingsStore.Proofs.Access.Projection
import SettingsStore.Proofs.Document.Masking

/-!
# Patches that repeat what was shown

A caller that sends back what it was shown of a document asks for nothing. A setting in the open is
what the document has already, and a secret text is either passed over as a mask or has nothing to
hide. A secret list is taken at its word, though: the list of masks that was shown of the replicas
is a new value, and it replaces the replicas if the caller may write them and is refused otherwise.
-/

namespace SettingsStore

open Json

namespace Filter

variable {f : Filter} {restricted : Bool} {base d : Document}

/-- What is shown of a setting is not a change of it, unless it is a secret list. -/
theorem change_masked {l : Leaf} (hl : l ≠ .dataSourceReplicas) (hget : d.get l = base.get l) :
    f.change restricted d l (base.masked.get l) = .ok d := by
  refine if_pos ?_
  rw [hget, Document.get_masked]
  by_cases hsecret : l.isSecret = true
  · rw [if_pos hsecret, hsecret, Bool.true_and, LeafType.isMask_toJson,
      decide_eq_true (Leaf.type_ne_strList hl hsecret), Bool.true_and]
    cases hmask : l.type.isMask (l.type.masked (base.get l)) with
    | true => exact Or.inl rfl
    | false => exact Or.inr (LeafType.masked_eq_of_not_isMask hmask).symm
  · rw [if_neg hsecret]
    exact Or.inr rfl

theorem foldlM_change_masked {ls : List Leaf} (hls : Leaf.dataSourceReplicas ∉ ls)
    (hget : ∀ l ∈ ls, d.get l = base.get l) :
    ls.foldlM (fun d l => f.change restricted d l (base.masked.get l)) d = .ok d := by
  refine foldlM_change_eq_self fun l hl => change_masked ?_ (hget l hl)
  rintro rfl
  exact hls hl

theorem change_replicas (f : Filter) (restricted : Bool) (base : Document) :
    f.change restricted base .dataSourceReplicas (base.masked.get .dataSourceReplicas) =
      if ∀ s ∈ base.sql.dataSourceReplicas, s = mask then .ok base
      else if f.isAllowed Leaf.dataSourceReplicas.field .write restricted then
        .ok { base with
          sql.dataSourceReplicas := base.sql.dataSourceReplicas.map fun _ => mask }
      else .error (.permissionDenied Leaf.dataSourceReplicas.path) := by
  have hget : base.masked.get .dataSourceReplicas =
      base.sql.dataSourceReplicas.map fun _ => mask := by
    rw [Document.get_masked]
    rfl
  have hsame : base.get .dataSourceReplicas =
      (base.sql.dataSourceReplicas.map fun _ => mask) ↔
      ∀ s ∈ base.sql.dataSourceReplicas, s = mask := by
    change base.sql.dataSourceReplicas = base.sql.dataSourceReplicas.map (fun _ => mask) ↔ _
    rw [List.map_const', List.eq_replicate_iff, and_iff_right rfl]
  have hmasked : (Leaf.dataSourceReplicas.type.toJson
      (base.sql.dataSourceReplicas.map fun _ => mask)).isMask = false := rfl
  unfold change
  rw [hget, hmasked, Bool.and_false]
  simp only [Bool.false_eq_true, false_or, hsame]
  rfl

/-- Of all that was shown only the replicas can be changed by sending it back. -/
theorem foldlM_change_replicas {ls : List Leaf} (hnodup : ls.Nodup)
    (hls : Leaf.dataSourceReplicas ∈ ls) :
    ls.foldlM (fun d l => f.change restricted d l (base.masked.get l)) base =
      f.change restricted base .dataSourceReplicas (base.masked.get .dataSourceReplicas) := by
  obtain ⟨before, after, rfl⟩ := List.append_of_mem hls
  -- What comes before the replicas changes nothing, and what comes after them sees the same values.
  have hrest := (List.nodup_cons.mp (List.nodup_middle.mp hnodup)).1
  rw [List.mem_append, not_or] at hrest
  rw [List.foldlM_append, foldlM_change_masked hrest.1 fun _ _ => rfl]
  change List.foldlM _ base _ = _
  rw [List.foldlM_cons]
  cases hchange : f.change restricted base .dataSourceReplicas
      (base.masked.get .dataSourceReplicas) with
  | error cause => rfl
  | ok d =>
      refine foldlM_change_masked hrest.2 fun l hl => get_of_change ?_ hchange
      rintro rfl
      exact hrest.2 hl

theorem project_eq_masked (f : Filter) (base : Document) :
    f.project base =
      ofSettings (f.readable base) fun l => l.type.toJson (base.masked.get l) := by
  rw [project_eq_ofSettings]
  exact Leaf.ofSettings_congr fun l _ => congrArg l.type.toJson (base.get_masked l).symm

theorem set_replicas_ne (h : ¬∀ s ∈ base.sql.dataSourceReplicas, s = mask) :
    { base with sql.dataSourceReplicas := base.sql.dataSourceReplicas.map fun _ => mask } ≠
      base := by
  intro heq
  have hreplicas := congrArg (·.sql.dataSourceReplicas) heq
  rw [List.map_const', eq_comm, List.eq_replicate_iff] at hreplicas
  exact h hreplicas.2

theorem applyPatch_project (f : Filter) (base : Document) :
    f.applyPatch base (f.project base) =
      if f.isAllowed Leaf.dataSourceReplicas.field .read base.restrictsSystemAdmin = false ∨
          ∀ s ∈ base.sql.dataSourceReplicas, s = mask then .ok base
      else if f.isAllowed Leaf.dataSourceReplicas.field .write base.restrictsSystemAdmin then
        .ok { base with
          sql.dataSourceReplicas := base.sql.dataSourceReplicas.map fun _ => mask }
      else .error (.permissionDenied Leaf.dataSourceReplicas.path) := by
  obtain ⟨order, hnodup, hmem, happly⟩ :=
    f.exists_applyPatch_ofSettings base (f.nodup_readable base) base.masked.get
  rw [project_eq_masked, happly]
  cases hread : f.isAllowed Leaf.dataSourceReplicas.field .read base.restrictsSystemAdmin with
  | false =>
      have hhidden : Leaf.dataSourceReplicas ∉ order := by
        rw [hmem, mem_readable, hread]
        exact Bool.false_ne_true
      rw [foldlM_change_masked hhidden fun _ _ => rfl, if_pos (Or.inl rfl)]
  | true =>
      have hshown : Leaf.dataSourceReplicas ∈ order := by rw [hmem, mem_readable, hread]
      rw [foldlM_change_replicas hnodup hshown, change_replicas]
      simp only [Bool.true_eq_false, false_or]

/-- A document stays as it is when a caller sends back what it was shown of it, exactly if the
caller is not shown the replicas or they are masks themselves. Else they become masks if the caller
may write them, and the patch is refused if not. -/
theorem applyPatch_project_iff (f : Filter) (base : Document) :
    (f.applyPatch base (f.project base) = .ok base ↔
      f.isAllowed Leaf.dataSourceReplicas.field .read base.restrictsSystemAdmin = false ∨
        ∀ s ∈ base.sql.dataSourceReplicas, s = mask) ∧
    f.applyPatch base (f.project base) =
      if f.isAllowed Leaf.dataSourceReplicas.field .read base.restrictsSystemAdmin = false ∨
          ∀ s ∈ base.sql.dataSourceReplicas, s = mask then .ok base
      else if f.isAllowed Leaf.dataSourceReplicas.field .write base.restrictsSystemAdmin then
        .ok { base with
          sql.dataSourceReplicas := base.sql.dataSourceReplicas.map fun _ => mask }
      else .error (.permissionDenied Leaf.dataSourceReplicas.path) := by
  have heq := f.applyPatch_project base
  refine ⟨?_, heq⟩
  rw [heq]
  split_ifs with hsame hwrite
  · exact iff_of_true rfl hsame
  · refine iff_of_false (fun h => ?_) hsame
    exact set_replicas_ne (fun hall => hsame (Or.inr hall)) (Except.ok.inj h)
  · exact iff_of_false not_false hsame

end Filter

end SettingsStore
