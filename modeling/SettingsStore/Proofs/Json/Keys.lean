import Mathlib.Data.String.Basic
import SettingsStore.Json.Reader
import SettingsStore.Proofs.Document.Reading

/-!
# Keys of the objects in a value

Members are a list, and nothing keeps a list from having a key twice. What is read from a text has
every key once: of members with one key the last one stays. In such an object a member is found by
its key.
-/

namespace SettingsStore.Json

mutual
/-- All objects in a value, the value itself included, have keys with some property. -/
def AllKeys (P : List String → Prop) : Json → Prop
  | .obj members => P (members.map Prod.fst) ∧ AllKeysMembers P members
  | .arr items => AllKeysItems P items
  | .null | .bool _ | .num _ | .str _ => True

def AllKeysItems (P : List String → Prop) : List Json → Prop
  | [] => True
  | item :: items => item.AllKeys P ∧ AllKeysItems P items

def AllKeysMembers (P : List String → Prop) : List (String × Json) → Prop
  | [] => True
  | (_, value) :: members => value.AllKeys P ∧ AllKeysMembers P members
end

variable {P : List String → Prop}

theorem allKeysItems_iff {items : List Json} :
    AllKeysItems P items ↔ ∀ item ∈ items, item.AllKeys P := by
  induction items with
  | nil => simp [AllKeysItems]
  | cons item items ih => rw [AllKeysItems, ih, List.forall_mem_cons]

theorem allKeysMembers_iff {members : Members} :
    AllKeysMembers P members ↔ ∀ m ∈ members, m.2.AllKeys P := by
  induction members with
  | nil => simp [AllKeysMembers]
  | cons m members ih =>
      obtain ⟨key, value⟩ := m
      rw [AllKeysMembers, ih, List.forall_mem_cons]

theorem AllKeys.of_mem {members : Members} (h : (Json.obj members).AllKeys P) {m : String × Json}
    (hm : m ∈ members) : m.2.AllKeys P := by
  rw [AllKeys] at h
  exact allKeysMembers_iff.mp h.2 m hm

mutual
theorem AllKeys.combine {Q R : List String → Prop} (h : ∀ keys, P keys → Q keys → R keys) :
    ∀ {j : Json}, j.AllKeys P → j.AllKeys Q → j.AllKeys R
  | .obj _, hP, hQ => ⟨h _ hP.1 hQ.1, AllKeysMembers.combine h hP.2 hQ.2⟩
  | .arr _, hP, hQ => AllKeysItems.combine h hP hQ
  | .null, _, _ | .bool _, _, _ | .num _, _, _ | .str _, _, _ => trivial

theorem AllKeysItems.combine {Q R : List String → Prop} (h : ∀ keys, P keys → Q keys → R keys) :
    ∀ {items : List Json}, AllKeysItems P items → AllKeysItems Q items → AllKeysItems R items
  | [], _, _ => trivial
  | _ :: _, hP, hQ => ⟨AllKeys.combine h hP.1 hQ.1, AllKeysItems.combine h hP.2 hQ.2⟩

theorem AllKeysMembers.combine {Q R : List String → Prop} (h : ∀ keys, P keys → Q keys → R keys) :
    ∀ {members : List (String × Json)},
      AllKeysMembers P members → AllKeysMembers Q members → AllKeysMembers R members
  | [], _, _ => trivial
  | _ :: _, hP, hQ => ⟨AllKeys.combine h hP.1 hQ.1, AllKeysMembers.combine h hP.2 hQ.2⟩
end

namespace Members

variable {key : String} {value : Json} {ms : List (String × Json)}

theorem find?_of_mem (hnodup : (ms.map Prod.fst).Nodup) (h : (key, value) ∈ ms) :
    find? key ms = some value := by
  induction ms with
  | nil => cases h
  | cons m ms ih =>
      obtain ⟨k, v⟩ := m
      rw [List.map_cons, List.nodup_cons] at hnodup
      rcases List.mem_cons.mp h with heq | h
      · cases heq
        exact if_pos rfl
      · have hne : k ≠ key := fun hk => hnodup.1 (List.mem_map.mpr ⟨_, h, hk.symm⟩)
        rw [find?, if_neg hne, ih hnodup.2 h]

/-! ## Members that are inserted -/

theorem mem_of_mem_insert {m : String × Json} (h : m ∈ insert key value ms) :
    m = (key, value) ∨ m ∈ ms := by
  induction ms with
  | nil => exact Or.inl (List.mem_singleton.mp h)
  | cons n ms ih => grind [insert]

theorem ascending_insert (h : (ms.map Prod.fst).Pairwise (· < ·)) :
    ((insert key value ms).map Prod.fst).Pairwise (· < ·) := by
  induction ms with
  | nil => exact List.pairwise_singleton _ _
  | cons n ms ih =>
      obtain ⟨k, v⟩ := n
      rw [List.map_cons, List.pairwise_cons] at h
      rw [insert]
      split
      · next hk =>
          subst hk
          exact List.pairwise_cons.mpr h
      next hne =>
      split
      · next hlt =>
          refine List.pairwise_cons.mpr ⟨fun k' hk' => ?_, List.pairwise_cons.mpr h⟩
          rcases List.mem_cons.mp hk' with rfl | hk'
          · exact hlt
          · exact hlt.trans (h.1 k' hk')
      next hle =>
      have hlt : k < key := lt_of_le_of_ne (not_lt.mp hle) hne
      refine List.pairwise_cons.mpr ⟨fun k' hk' => ?_, ih h.2⟩
      obtain ⟨m, hm, rfl⟩ := List.mem_map.mp hk'
      rcases mem_of_mem_insert hm with rfl | hm
      · exact hlt
      · exact h.1 _ (List.mem_map_of_mem hm)

theorem ofList_spec (ms : List (String × Json)) :
    ((ofList ms).map Prod.fst).Pairwise (· < ·) ∧ ∀ m ∈ ofList ms, m ∈ ms := by
  have hfold (acc : Members) (h : (acc.map Prod.fst).Pairwise (· < ·)) :
      ((ms.foldl (fun acc m => acc.insert m.1 m.2) acc).map Prod.fst).Pairwise (· < ·) ∧
        ∀ m ∈ ms.foldl (fun acc m => acc.insert m.1 m.2) acc, m ∈ acc ∨ m ∈ ms := by
    induction ms generalizing acc with
    | nil => exact ⟨h, fun _ hm => Or.inl hm⟩
    | cons n ms ih =>
        obtain ⟨hascending, hmem⟩ := ih (acc.insert n.1 n.2) (ascending_insert h)
        refine ⟨hascending, fun m hm => ?_⟩
        rcases hmem m hm with hm | hm
        · rcases mem_of_mem_insert hm with rfl | hm
          · exact Or.inr List.mem_cons_self
          · exact Or.inl hm
        · exact Or.inr (List.mem_cons_of_mem n hm)
  obtain ⟨hascending, hmem⟩ := hfold [] List.Pairwise.nil
  exact ⟨hascending, fun m hm => (hmem m hm).resolve_left List.not_mem_nil⟩

end Members

/-! ## Values that are read -/

theorem exists_of_mapM {α β ε : Type} {f : α → Except ε β} {xs : List α} {ys : List β}
    (h : xs.mapM f = .ok ys) : ∀ y ∈ ys, ∃ x ∈ xs, f x = .ok y := by
  induction xs generalizing ys with
  | nil =>
      cases h
      exact fun _ hy => (List.not_mem_nil hy).elim
  | cons x xs ih =>
      rw [List.mapM_cons] at h
      obtain ⟨y, hy, h⟩ := bind_eq_ok_iff.mp h
      obtain ⟨ys', hys, h⟩ := bind_eq_ok_iff.mp h
      cases h
      intro y' hy'
      rcases List.mem_cons.mp hy' with rfl | hy'
      · exact ⟨x, List.mem_cons_self, hy⟩
      · obtain ⟨x', hx', hfx'⟩ := ih hys y' hy'
        exact ⟨x', List.mem_cons_of_mem x hx', hfx'⟩

theorem map_eq_ok_iff {α β ε : Type} {f : α → β} {x : Except ε α} {y : β} :
    f <$> x = .ok y ↔ ∃ a, x = .ok a ∧ f a = y := by
  cases x <;> simp [Functor.map, Except.map]

theorem allKeys_value {depth : Nat} {t : Tree} {j : Json} (h : t.value depth = .ok j) :
    j.AllKeys (List.Pairwise (· < ·)) := by
  induction depth using Nat.strongRecOn generalizing t j with
  | ind depth ih =>
      revert h
      fun_cases Tree.value depth t with
      | case1 | case2 =>
          rintro ⟨⟩
          trivial
      | case3 | case4 =>
          intro h
          obtain ⟨_, _, rfl⟩ := map_eq_ok_iff.mp h
          trivial
      | case5 | case8 => rintro ⟨⟩
      | case6 depth items stop =>
          intro h
          obtain ⟨xs, hxs, h⟩ := bind_eq_ok_iff.mp h
          obtain ⟨_, _, h⟩ := bind_eq_ok_iff.mp h
          cases h
          rw [AllKeys]
          refine allKeysItems_iff.mpr fun x hx => ?_
          obtain ⟨t, _, ht⟩ := exists_of_mapM hxs x hx
          exact ih _ (Nat.lt_succ_self _) ht
      | case7 depth members stop =>
          intro h
          obtain ⟨ms, hms, h⟩ := bind_eq_ok_iff.mp h
          obtain ⟨_, _, h⟩ := bind_eq_ok_iff.mp h
          cases h
          obtain ⟨hascending, hmem⟩ := Members.ofList_spec ms
          rw [ofMembers, AllKeys]
          refine ⟨hascending, allKeysMembers_iff.mpr fun m hm => ?_⟩
          obtain ⟨⟨key, t⟩, _, ht⟩ := exists_of_mapM hms m (hmem m hm)
          obtain ⟨_, _, ht⟩ := bind_eq_ok_iff.mp ht
          obtain ⟨_, hv, ht⟩ := bind_eq_ok_iff.mp ht
          cases ht
          exact ih _ (Nat.lt_succ_self _) hv

/-- What is read from a text has every key once. -/
theorem allKeys_of_parse {bs : Bytes} {j : Json} (h : parse bs = .ok j) :
    j.AllKeys (List.Pairwise (· < ·)) := by
  obtain ⟨j', hvalue, h⟩ := bind_eq_ok_iff.mp h
  split at h
  · cases h
  · cases h
    exact allKeys_value hvalue

end SettingsStore.Json
