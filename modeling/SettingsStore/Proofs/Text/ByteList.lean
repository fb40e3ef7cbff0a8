import SettingsStore.Text.Bytes

/-!
# Texts as lists of bytes

The bytes of a text are those of its characters in a row. A character of ASCII is one byte, its own
code, and every byte of another character is beyond ASCII.
-/

namespace SettingsStore.Text

def bytesOf (s : String) : List UInt8 := s.toUTF8.data.toList

@[simp] theorem bytesOf_append (s t : String) : bytesOf (s ++ t) = bytesOf s ++ bytesOf t := by
  simp [bytesOf]

@[simp] theorem bytesOf_ofList (cs : List Char) :
    bytesOf (String.ofList cs) = cs.flatMap String.utf8EncodeChar := by
  simp [bytesOf, List.utf8Encode]

theorem bytesOf_eq_flatMap (s : String) :
    bytesOf s = s.toList.flatMap String.utf8EncodeChar := by
  rw [← bytesOf_ofList, String.ofList_toList]

@[simp] theorem bytesOf_toString (c : Char) : bytesOf c.toString = String.utf8EncodeChar c := by
  simp [bytesOf_eq_flatMap]

theorem bytesOf_join (ss : List String) : bytesOf (String.join ss) = ss.flatMap bytesOf := by
  have hbytes : bytesOf = fun s : String => s.toList.flatMap String.utf8EncodeChar :=
    funext bytesOf_eq_flatMap
  rw [bytesOf_eq_flatMap, String.toList_join, List.flatMap_assoc, hbytes]

theorem ofByteList?_bytesOf (s : String) : ofByteList? (bytesOf s) = some s :=
  ofByteList?_toUTF8 s

theorem utf8EncodeChar_of_lt {c : Char} (h : c.toNat < 128) :
    String.utf8EncodeChar c = [UInt8.ofNat c.toNat] := by
  have hle : c.val.toNat ≤ 127 := Nat.le_of_lt_succ h
  simp only [String.utf8EncodeChar, hle, if_true]
  rfl

theorem le_of_mem_utf8EncodeChar {c : Char} (h : 128 ≤ c.toNat) {b : UInt8}
    (hb : b ∈ String.utf8EncodeChar c) : 128 ≤ b.toNat := by
  have hgt : ¬c.val.toNat ≤ 127 := Nat.not_le.mpr h
  simp only [String.utf8EncodeChar, hgt, if_false] at hb
  split at hb
  · simp only [List.mem_cons, List.not_mem_nil, or_false] at hb
    rcases hb with rfl | rfl
    · simp only [UInt8.toNat_ofNat']
      omega
    · simp only [UInt8.toNat_ofNat']
      omega
  · split at hb
    · simp only [List.mem_cons, List.not_mem_nil, or_false] at hb
      rcases hb with rfl | rfl | rfl
      all_goals
        simp only [UInt8.toNat_ofNat']
        omega
    · simp only [List.mem_cons, List.not_mem_nil, or_false] at hb
      rcases hb with rfl | rfl | rfl | rfl
      all_goals
        simp only [UInt8.toNat_ofNat']
        omega

/-- A byte of ASCII belongs to a character of ASCII, and is all of it. -/
theorem utf8EncodeChar_of_mem {c : Char} {b : UInt8} (hb : b.toNat < 128)
    (h : b ∈ String.utf8EncodeChar c) : c = Char.ofNat b.toNat ∧ String.utf8EncodeChar c = [b] := by
  have hascii : c.toNat < 128 := by
    refine Nat.not_le.mp fun hc => ?_
    exact Nat.not_le.mpr hb (le_of_mem_utf8EncodeChar hc h)
  have hbytes := utf8EncodeChar_of_lt hascii
  rw [hbytes, List.mem_singleton] at h
  rw [hbytes, h, UInt8.toNat_ofNat_of_lt' (Nat.lt_trans hascii (by decide)), Char.ofNat_toNat]
  exact ⟨rfl, rfl⟩

/-- A text whose last byte is one of ASCII ends in the character of that code. -/
theorem eq_append_of_flatMap {cs : List Char} {bs : List UInt8} {b : UInt8} (hb : b.toNat < 128)
    (h : cs.flatMap String.utf8EncodeChar = bs ++ [b]) :
    ∃ front, cs = front ++ [Char.ofNat b.toNat] ∧ front.flatMap String.utf8EncodeChar = bs := by
  obtain rfl | ⟨front, c, rfl⟩ := List.eq_nil_or_concat cs
  · exact absurd h.symm (List.append_ne_nil_of_right_ne_nil bs (List.cons_ne_nil b []))
  rw [List.concat_eq_append, List.flatMap_append, List.flatMap_singleton] at h
  have hmem : b ∈ String.utf8EncodeChar c := by
    obtain hnil | ⟨bytes, last, hbytes⟩ := List.eq_nil_or_concat (String.utf8EncodeChar c)
    · exact absurd hnil String.utf8EncodeChar_ne_nil
    rw [List.concat_eq_append] at hbytes
    rw [hbytes, ← List.append_assoc] at h
    rw [hbytes, ← List.singleton_inj.mp (List.append_inj' h rfl).2]
    exact List.mem_concat_self
  obtain ⟨hc, hbytes⟩ := utf8EncodeChar_of_mem hb hmem
  rw [hbytes] at h
  exact ⟨front, hc ▸ List.concat_eq_append, (List.append_inj' h rfl).1⟩

end SettingsStore.Text
