import Mathlib.Data.List.Perm.Basic
import SettingsStore.Json.Basic

/-!
# Members that are sorted

Inserting members of different keys one by one only changes their order, and which of two comes
first does not matter. So what is made of sorted members can be said of the members themselves, and
to give one of them a new value is to sort them with that value in its place.
-/

namespace SettingsStore.Json.Members

variable {α : Type} {key other : String} {value : Json} {ms : List (String × Json)}

theorem insert_perm (h : key ∉ ms.map Prod.fst) :
    (insert key value ms).Perm ((key, value) :: ms) := by
  induction ms with
  | nil => exact .refl _
  | cons m ms ih =>
      obtain ⟨k, v⟩ := m
      rw [List.map_cons, List.mem_cons, not_or] at h
      rw [insert, if_neg (Ne.symm h.1)]
      split
      · exact .refl _
      · exact ((ih h.2).cons (k, v)).trans (.swap _ _ _)

theorem foldl_insert_perm {acc : Members} (h : ((acc ++ ms).map Prod.fst).Nodup) :
    (ms.foldl (fun acc m => insert m.1 m.2 acc) acc).Perm (acc ++ ms) := by
  induction ms generalizing acc with
  | nil => simp
  | cons m ms ih =>
      have hmoved : (m :: acc ++ ms).Perm (acc ++ m :: ms) := List.perm_middle.symm
      have hnodup : ((m :: acc ++ ms).map Prod.fst).Nodup := (hmoved.map _).nodup_iff.mpr h
      have hnew : m.1 ∉ acc.map Prod.fst := by
        rw [List.cons_append, List.map_cons, List.nodup_cons, List.map_append] at hnodup
        exact fun hm => hnodup.1 (List.mem_append_left _ hm)
      have hinsert : (insert m.1 m.2 acc ++ ms).Perm (m :: acc ++ ms) :=
        (insert_perm hnew).append_right ms
      rw [List.foldl_cons]
      exact (ih ((hinsert.map _).nodup_iff.mpr hnodup)).trans (hinsert.trans hmoved)

/-- Sorting members of different keys only changes their order. -/
theorem ofList_perm (h : (ms.map Prod.fst).Nodup) : (ofList ms).Perm ms :=
  foldl_insert_perm (show (([] ++ ms).map Prod.fst).Nodup from h)

/-- Members that are made of other things are sorted by sorting those. -/
theorem exists_ofList_map (name : α → String) (content : α → Json) {xs : List α}
    (h : (xs.map name).Nodup) :
    ∃ ys : List α, ys.Perm xs ∧ ofList (xs.map fun x => (name x, content x)) =
      ys.map fun x => (name x, content x) := by
  have hperm : (ofList (xs.map fun x => (name x, content x))).Perm
      (xs.map fun x => (name x, content x)) := by
    apply ofList_perm
    rwa [List.map_map]
  obtain ⟨ys, heq, hys⟩ :=
    (congrFun₂ (List.eq_map_comp_perm fun x => (name x, content x)) _ _).mpr hperm
  exact ⟨ys, hys, heq⟩

/-! ## Members that are written again -/

@[simp] theorem insert_insert_self (key : String) (value old : Json) (ms : Members) :
    insert key value (insert key old ms) = insert key value ms := by
  induction ms with
  | nil => simp [insert]
  | cons m ms ih =>
      obtain ⟨k, v⟩ := m
      by_cases hk : k = key
      · simp [insert, hk]
      · by_cases hlt : key < k
        · simp [insert, hk, hlt]
        · simp [insert, hk, hlt, ih]

theorem insert_comm (h : key ≠ other) (value value' : Json) (ms : Members) :
    insert key value (insert other value' ms) = insert other value' (insert key value ms) := by
  induction ms with
  | nil => grind [insert]
  | cons m ms ih => grind [insert]

theorem insert_foldl_of_notMem (h : key ∉ ms.map Prod.fst) (value : Json) (acc : Members) :
    insert key value (ms.foldl (fun acc m => acc.insert m.1 m.2) acc) =
      ms.foldl (fun acc m => acc.insert m.1 m.2) (insert key value acc) := by
  induction ms generalizing acc with
  | nil => rfl
  | cons m ms ih =>
      rw [List.map_cons, List.mem_cons, not_or] at h
      rw [List.foldl_cons, List.foldl_cons, ih h.2, insert_comm h.1]

theorem insert_ofList_map [DecidableEq α] (name : α → String) (content : α → Json) {xs : List α}
    (hnodup : (xs.map name).Nodup) {x : α} (hx : x ∈ xs) (value : Json) :
    insert (name x) value (ofList (xs.map fun y => (name y, content y))) =
      ofList (xs.map fun y => (name y, if y = x then value else content y)) := by
  obtain ⟨earlier, later, rfl⟩ := List.append_of_mem hx
  rw [List.map_append, List.map_cons, List.nodup_append, List.nodup_cons] at hnodup
  obtain ⟨-, ⟨hlater, -⟩, hearlier⟩ := hnodup
  have hne : ∀ y ∈ later, y ≠ x := fun y hy heq => hlater (heq ▸ List.mem_map_of_mem hy)
  have hne' : ∀ y ∈ earlier, y ≠ x := fun y hy heq =>
    hearlier _ (List.mem_map_of_mem hy) _ List.mem_cons_self (congrArg name heq)
  have hkey : name x ∉ (later.map fun y => (name y, content y)).map Prod.fst := by
    rwa [List.map_map]
  have hkept (ys : List α) (h : ∀ y ∈ ys, y ≠ x) :
      (ys.map fun y => (name y, if y = x then value else content y)) =
        ys.map fun y => (name y, content y) :=
    List.map_congr_left fun y hy => by rw [if_neg (h y hy)]
  rw [ofList, ofList, List.map_append, List.map_append, List.foldl_append, List.foldl_append,
    hkept earlier hne', List.map_cons, List.map_cons, List.foldl_cons, List.foldl_cons,
    insert_foldl_of_notMem hkey, insert_insert_self, hkept later hne, if_pos rfl]

end SettingsStore.Json.Members
