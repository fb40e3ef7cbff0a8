import SettingsStore.Json.Path

/-!
# Diverging paths

Two paths diverge if neither is a prefix of the other. Writing at a path then leaves alone what lies
at the other, also where the objects on the way had to be made.
-/

namespace SettingsStore.Json

namespace Members

variable {key : String} {value : Json} {ms : List (String × Json)}

theorem mem_of_find? (h : find? key ms = some value) : (key, value) ∈ ms := by
  induction ms with
  | nil => cases h
  | cons m ms ih =>
      obtain ⟨k, v⟩ := m
      rw [find?] at h
      split at h
      · next hk =>
          cases h
          exact hk ▸ List.mem_cons_self
      · exact List.mem_cons_of_mem _ (ih h)

theorem find?_foldl_of_notMem (acc : Members) (h : key ∉ ms.map Prod.fst) :
    find? key (ms.foldl (fun acc m => acc.insert m.1 m.2) acc) = find? key acc := by
  induction ms generalizing acc with
  | nil => rfl
  | cons m ms ih =>
      rw [List.map_cons, List.mem_cons, not_or] at h
      rw [List.foldl_cons, ih _ h.2, find?_insert_of_ne h.1]

theorem find?_ofList (hnodup : (ms.map Prod.fst).Nodup) (h : (key, value) ∈ ms) :
    find? key (ofList ms) = some value := by
  have hfold : ∀ acc : Members,
      find? key (ms.foldl (fun acc m => acc.insert m.1 m.2) acc) = some value := by
    induction ms with
    | nil => cases h
    | cons m ms ih =>
        intro acc
        rw [List.map_cons, List.nodup_cons] at hnodup
        rw [List.foldl_cons]
        rcases List.mem_cons.mp h with rfl | h
        · rw [find?_foldl_of_notMem _ hnodup.1, find?_insert_self]
        · exact ih hnodup.2 h _
  exact hfold []

end Members

theorem get?_cons (k : String) (ks : List String) (j : Json) :
    get? (k :: ks) j = (Members.find? k j.members).bind (get? ks) := by
  cases j <;> rfl

theorem eq_of_get?_of_not_isObject {path : List String} {j v : Json} (h : j.isObject = false)
    (hv : j.get? path = some v) : path = [] ∧ v = j := by
  cases path with
  | nil => exact ⟨rfl, (Option.some.inj hv).symm⟩
  | cons k ks =>
      cases j with
      | obj members => cases h
      | null | bool | num | str | arr => cases hv

theorem get?_put_of_not_prefix {p q : List String} (hpq : ¬p <+: q) (hqp : ¬q <+: p)
    (j value : Json) : get? q (put p j value) = get? q j := by
  induction p generalizing q j with
  | nil => exact absurd List.nil_prefix hpq
  | cons k ks ih =>
      cases q with
      | nil => exact absurd List.nil_prefix hqp
      | cons l ls =>
          rw [put, get?_cons, get?_cons, members_obj]
          by_cases h : l = k
          · subst h
            rw [List.cons_prefix_cons, not_and] at hpq hqp
            rw [Members.find?_insert_self, Option.bind_some, ih (hpq rfl) (hqp rfl)]
            cases Members.find? l j.members with
            | some v => rfl
            | none =>
                cases ls with
                | nil => exact absurd List.nil_prefix (hqp rfl)
                | cons l' ls => rfl
          · rw [Members.find?_insert_of_ne h]

end SettingsStore.Json
