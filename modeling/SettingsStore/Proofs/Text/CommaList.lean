import SettingsStore.Text.Blank
import Mathlib.Data.List.DropRight

/-!
# Lists written with commas

The entries of a text are trimmed, not empty and without commas, and a text made by joining such
entries has exactly them. So a list can be read, extended and written again without changing what
it had before.
-/

namespace SettingsStore.Text

/-! ## Trimming -/

theorem stripWhere_eq_rdropWhile (p : Char → Bool) (cs : List Char) :
    stripWhere p cs = (cs.dropWhile p).rdropWhile p := rfl

theorem stripWhere_sublist (p : Char → Bool) (cs : List Char) :
    (stripWhere p cs).Sublist cs :=
  (List.rdropWhile_prefix p _).sublist.trans (List.dropWhile_sublist p)

theorem dropWhile_stripWhere (p : Char → Bool) (cs : List Char) :
    (stripWhere p cs).dropWhile p = stripWhere p cs := by
  rw [List.dropWhile_eq_self_iff]
  intro hl
  obtain ⟨rest, hrest⟩ := List.rdropWhile_prefix p (l := cs.dropWhile p)
  rw [← stripWhere_eq_rdropWhile] at hrest
  have hpos : 0 < (cs.dropWhile p).length := by
    rw [← hrest, List.length_append]
    omega
  have hhead : (stripWhere p cs)[0] = (cs.dropWhile p)[0] := by
    simp only [← hrest, List.getElem_append_left hl]
  rw [hhead]
  exact List.dropWhile_get_zero_not p cs hpos

theorem stripWhere_stripWhere (p : Char → Bool) (cs : List Char) :
    stripWhere p (stripWhere p cs) = stripWhere p cs := by
  rw [stripWhere_eq_rdropWhile p (stripWhere p cs), dropWhile_stripWhere,
    stripWhere_eq_rdropWhile, List.rdropWhile_idempotent]

theorem stripWhere_eq_self_iff {p : Char → Bool} {cs : List Char} :
    stripWhere p cs = cs ↔ ∀ h : cs ≠ [], p (cs.head h) = false ∧ p (cs.getLast h) = false := by
  constructor
  · intro hcs h
    have hfront := dropWhile_stripWhere p cs
    have hback := stripWhere_eq_rdropWhile p cs
    rw [hcs] at hfront hback
    rw [hfront] at hback
    have hhead := List.dropWhile_eq_self_iff.mp hfront (List.length_pos_iff.mpr h)
    have hlast := List.rdropWhile_eq_self_iff.mp hback.symm h
    rw [← List.head_eq_getElem_zero h] at hhead
    exact ⟨Bool.eq_false_iff.mpr hhead, Bool.eq_false_iff.mpr hlast⟩
  · intro h
    have hfront : cs.dropWhile p = cs := by
      rw [List.dropWhile_eq_self_iff]
      intro hl
      rw [← List.head_eq_getElem_zero (List.length_pos_iff.mp hl)]
      exact Bool.eq_false_iff.mp (h _).1
    rw [stripWhere_eq_rdropWhile, hfront, List.rdropWhile_eq_self_iff]
    exact fun hl => Bool.eq_false_iff.mp (h hl).2

@[simp] theorem toList_trim (s : String) : (trim s).toList = stripWhere isBlank s.toList :=
  String.toList_ofList

theorem trim_trim (s : String) : trim (trim s) = trim s := by
  rw [trim, toList_trim, stripWhere_stripWhere]
  rfl

theorem head_getLast_of_trim {s : String} (h : trim s = s) (hne : s.toList ≠ []) :
    isBlank (s.toList.head hne) = false ∧ isBlank (s.toList.getLast hne) = false :=
  stripWhere_eq_self_iff.mp ((toList_trim s).symm.trans (congrArg String.toList h)) hne

theorem trim_append {s t : String} (hs : trim s = s) (ht : trim t = t) (hs' : s.toList ≠ [])
    (ht' : t.toList ≠ []) : trim (s ++ t) = s ++ t := by
  have hstrip : stripWhere isBlank (s ++ t).toList = (s ++ t).toList := by
    rw [String.toList_append, stripWhere_eq_self_iff]
    intro hne
    rw [List.head_append_of_ne_nil hs', List.getLast_append_of_ne_nil hne ht']
    exact ⟨(head_getLast_of_trim hs hs').1, (head_getLast_of_trim ht ht').2⟩
  rw [trim, hstrip, String.ofList_toList]

/-! ## Pieces -/

theorem forall_of_mem_splitWhere {p : Char → Bool} {cs piece : List Char}
    (h : piece ∈ splitWhere p cs) : ∀ c ∈ piece, p c = false := by
  induction cs generalizing piece with
  | nil =>
      simp only [splitWhere, List.mem_singleton] at h
      simp [h]
  | cons c cs ih =>
      by_cases hc : p c
      · simp only [splitWhere, hc, if_true, List.mem_cons] at h
        rcases h with rfl | h
        · simp
        · exact ih h
      · obtain ⟨r, rs, hr⟩ := List.exists_cons_of_ne_nil (splitWhere_ne_nil p cs)
        simp only [splitWhere, hc, hr, Bool.false_eq_true, if_false, List.modifyHead_cons,
          List.mem_cons] at h
        rcases h with rfl | h
        · intro d hd
          rcases List.mem_cons.mp hd with rfl | hd
          · simpa using hc
          · exact ih (hr ▸ List.mem_cons_self) d hd
        · exact ih (hr ▸ List.mem_cons_of_mem r h)

/-- The pieces of a text that has a separator before all but the first of them. -/
theorem splitWhere_flatMap {p : Char → Bool} {sep : Char} {piece : List Char}
    {pieces : List (List Char)} (hsep : p sep = true) (hpiece : ∀ c ∈ piece, p c = false)
    (h : ∀ q ∈ pieces, ∀ c ∈ q, p c = false) :
    splitWhere p (piece ++ pieces.flatMap (sep :: ·)) = piece :: pieces := by
  induction pieces generalizing piece with
  | nil => rw [List.flatMap_nil, List.append_nil, splitWhere_of_forall hpiece]
  | cons next pieces ih =>
      rw [List.forall_mem_cons] at h
      rw [List.flatMap_cons, List.cons_append, splitWhere_append_cons hsep,
        splitWhere_of_forall hpiece, ih h.1 h.2, List.singleton_append]

theorem splitAt_ne_nil (sep : Char) (s : String) : splitAt sep s ≠ [] :=
  fun h => splitWhere_ne_nil _ s.toList (List.map_eq_nil_iff.mp h)

theorem splitAt_append (sep : Char) (s t : String) :
    splitAt sep (s ++ sep.toString ++ t) = splitAt sep s ++ splitAt sep t := by
  have h := splitWhere_append_cons (p := (· == sep)) (c := sep) (by simp) s.toList t.toList
  simp only [splitAt, String.toList_append, Char.toString_eq_singleton, String.toList_singleton,
    List.append_assoc, List.cons_append, List.nil_append, h, List.map_append]

theorem splitAt_of_notMem {sep : Char} {s : String} (h : sep ∉ s.toList) :
    splitAt sep s = [s] := by
  rw [splitAt, splitWhere_of_forall]
  · simp
  · intro c hc
    simpa using fun he : c = sep => h (he ▸ hc)

theorem join_cons_cons (sep s t : String) (rest : List String) :
    join sep (s :: t :: rest) = s ++ sep ++ join sep (t :: rest) := rfl

/-! ## Entries -/

/-- What can be an entry of a list. -/
structure IsEntry (s : String) : Prop where
  ne_empty : s ≠ ""
  comma_notMem : ',' ∉ s.toList
  trim_eq : trim s = s

theorem isEntry_of_mem_entries {s e : String} (h : e ∈ entries s) : IsEntry e := by
  simp only [entries, List.mem_filter, List.mem_map, decide_eq_true_eq] at h
  obtain ⟨⟨piece, hpiece, rfl⟩, hne⟩ := h
  simp only [splitAt, List.mem_map] at hpiece
  obtain ⟨cs, hcs, rfl⟩ := hpiece
  refine ⟨hne, ?_, trim_trim _⟩
  intro hc
  rw [toList_trim, String.toList_ofList] at hc
  have := forall_of_mem_splitWhere hcs ',' ((stripWhere_sublist _ _).subset hc)
  simp at this

theorem entries_append (s t : String) : entries (s ++ "," ++ t) = entries s ++ entries t := by
  have h := splitAt_append ',' s t
  rw [show ','.toString = "," from rfl] at h
  simp only [entries, h, List.map_append, List.filter_append]

theorem IsEntry.entries_eq {e : String} (h : IsEntry e) : entries e = [e] := by
  simp [entries, splitAt_of_notMem h.comma_notMem, h.trim_eq, h.ne_empty]

theorem entries_join {es : List String} (h : ∀ e ∈ es, IsEntry e) :
    entries (join "," es) = es := by
  induction es with
  | nil => simp [join, entries, splitAt, splitWhere, trim, stripWhere]
  | cons e es ih =>
      have he := (h e List.mem_cons_self).entries_eq
      have hes := ih fun x hx => h x (List.mem_cons_of_mem e hx)
      cases es with
      | nil => exact he
      | cons x xs => rw [join_cons_cons, entries_append, he, hes, List.singleton_append]

/-- An entry put behind those that a list has comes last when the list is read again. -/
theorem entries_join_append (s : String) {e : String} (h : IsEntry e) :
    entries (join "," (entries s) ++ "," ++ e) = entries s ++ [e] := by
  rw [entries_append, entries_join fun _ hx => isEntry_of_mem_entries hx, h.entries_eq]

end SettingsStore.Text
