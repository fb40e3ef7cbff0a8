import Mathlib.Algebra.BigOperators.Group.List.Basic
import Mathlib.Tactic.SplitIfs
import SettingsStore.Proofs.Text.ByteList
import SettingsStore.Text.Lossy

/-!
# Texts that are shown as they are

The bytes of a text are shown as that text. The first byte of a character beyond ASCII says how many
bytes follow it, and the range of the second one leaves out what other first bytes encode, and the
code points that are no characters. So the bytes of one character continue it to its end, and not
beyond.
-/

namespace SettingsStore.Text

theorem toNat_ofNat_of_lt {n : Nat} (h : n < 256) : (UInt8.ofNat n).toNat = n :=
  UInt8.toNat_ofNat_of_lt' h

theorem ofNat_mem_iff {n a b : Nat} (hn : n < 256) (ha : a < 256) (hb : b < 256) :
    (UInt8.ofNat a ≤ UInt8.ofNat n ∧ UInt8.ofNat n ≤ UInt8.ofNat b) ↔ a ≤ n ∧ n ≤ b := by
  rw [UInt8.ofNat_le_iff_le ha hn, UInt8.ofNat_le_iff_le hn hb]

section

variable {n : Nat}

theorem followers?_of_two (h : 0xC2 ≤ n) (h' : n < 0xE0) :
    followers? (.ofNat n) = some (1, 0x80, 0xBF) := by
  have hn : (UInt8.ofNat n).toNat = n := toNat_ofNat_of_lt (by omega)
  simp only [followers?, UInt8.lt_iff_toNat_lt, hn, UInt8.reduceToNat]
  rw [if_neg (by omega), if_pos h']

theorem followers?_of_three (h : 0xE0 ≤ n) (h' : n < 0xF0) :
    followers? (.ofNat n) = some (2, .ofNat (if n = 0xE0 then 0xA0 else 0x80),
      .ofNat (if n = 0xED then 0x9F else 0xBF)) := by
  have hn : (UInt8.ofNat n).toNat = n := toNat_ofNat_of_lt (by omega)
  simp only [followers?, UInt8.lt_iff_toNat_lt, ← UInt8.toNat_inj, hn, UInt8.reduceToNat]
  rw [if_neg (by omega), if_neg (by omega)]
  split_ifs <;> first | rfl | omega

theorem followers?_of_four (h : 0xF0 ≤ n) (h' : n ≤ 0xF4) :
    followers? (.ofNat n) = some (3, .ofNat (if n = 0xF0 then 0x90 else 0x80),
      .ofNat (if n = 0xF4 then 0x8F else 0xBF)) := by
  have hn : (UInt8.ofNat n).toNat = n := toNat_ofNat_of_lt (by omega)
  simp only [followers?, UInt8.lt_iff_toNat_lt, ← UInt8.toNat_inj, hn, UInt8.reduceToNat]
  rw [if_neg (by omega), if_neg (by omega)]
  split_ifs <;> first | rfl | omega

end

/-- The bytes of a character beyond ASCII are the first one and those that it announces. -/
theorem exists_followers {c : Char} (h : 128 ≤ c.toNat) :
    ∃ b s tail low high, String.utf8EncodeChar c = b :: s :: tail ∧ ¬b < 0x80 ∧
      followers? b = some (tail.length + 1, low, high) ∧ (low ≤ s ∧ s ≤ high) ∧
      ∀ x ∈ tail, 0x80 ≤ x ∧ x ≤ 0xBF := by
  have hvalid : c.toNat < 0xD800 ∨ 0xDFFF < c.toNat ∧ c.toNat < 0x110000 := c.valid
  rw [String.utf8EncodeChar, Char.toNat_val, if_neg (by omega)]
  generalize c.toNat = v at h hvalid
  have hfirst {n : Nat} (hn : n < 256) (hle : 128 ≤ n) : ¬UInt8.ofNat n < 0x80 := by
    rw [UInt8.lt_iff_toNat_lt, toNat_ofNat_of_lt hn]
    exact Nat.not_lt.mpr hle
  have hrest (n : Nat) : 0x80 ≤ UInt8.ofNat (n % 64 + 128) ∧
      UInt8.ofNat (n % 64 + 128) ≤ 0xBF :=
    (ofNat_mem_iff (a := 128) (b := 191) (by omega) (by omega) (by omega)).mpr (by omega)
  split
  · exact ⟨_, _, [], _, _, rfl, hfirst (by omega) (by omega),
      followers?_of_two (by omega) (by omega), hrest v, fun _ hx => (List.not_mem_nil hx).elim⟩
  split
  · refine ⟨_, _, [_], _, _, rfl, hfirst (by omega) (by omega),
      followers?_of_three (by omega) (by omega), ?_, ?_⟩
    · refine (ofNat_mem_iff (by omega) ?_ ?_).mpr ⟨?_, ?_⟩ <;> split_ifs <;> omega
    · exact fun x hx => List.mem_singleton.mp hx ▸ hrest v
  · refine ⟨_, _, [_, _], _, _, rfl, hfirst (by omega) (by omega),
      followers?_of_four (by omega) (by omega), ?_, ?_⟩
    · refine (ofNat_mem_iff (by omega) ?_ ?_).mpr ⟨?_, ?_⟩ <;> split_ifs <;> omega
    · intro x hx
      simp only [List.mem_cons, List.not_mem_nil, or_false] at hx
      rcases hx with rfl | rfl
      · exact hrest (v / 64)
      · exact hrest v

theorem continued_eq_length {tail rest : List UInt8} {s low high : UInt8}
    (hs : low ≤ s ∧ s ≤ high) (htail : ∀ x ∈ tail, 0x80 ≤ x ∧ x ≤ 0xBF) :
    continued (tail.length + 1) low high (s :: tail ++ rest) = tail.length + 1 := by
  induction tail generalizing s low high with
  | nil =>
      rw [List.cons_append, continued, List.length_nil, if_pos hs]
      cases rest <;> rfl
  | cons t tail ih =>
      rw [List.cons_append, continued, List.length_cons, if_pos hs,
        ih (htail t List.mem_cons_self) fun x hx => htail x (List.mem_cons_of_mem t hx)]

theorem showBytes_encodeChar (c : Char) (fuel : Nat) (rest : List UInt8) :
    showBytes (fuel + 1) (String.utf8EncodeChar c ++ rest) = c :: showBytes fuel rest := by
  by_cases h : c.toNat < 128
  · have hn : (UInt8.ofNat c.toNat).toNat = c.toNat := toNat_ofNat_of_lt (by omega)
    rw [utf8EncodeChar_of_lt h, List.cons_append, showBytes, if_pos, hn, Char.ofNat_toNat]
    · rfl
    · rw [UInt8.lt_iff_toNat_lt, hn]
      exact h
  · obtain ⟨b, s, tail, low, high, hbytes, hfirst, hfollowers, hs, htail⟩ :=
      exists_followers (Nat.not_lt.mp h)
    have hfound : continued (tail.length + 1) low high (s :: tail ++ rest) = tail.length + 1 :=
      continued_eq_length hs htail
    have hchar : ofByteList? (b :: s :: tail) = some c.toString := by
      rw [← hbytes, ← bytesOf_toString, ofByteList?_bytesOf]
    have htake : (s :: tail ++ rest).take (tail.length + 1) = s :: tail :=
      List.take_left' rfl
    have hdrop : (s :: tail ++ rest).drop (tail.length + 1) = rest := List.drop_left' rfl
    rw [hbytes, List.cons_append, showBytes, if_neg hfirst, hfollowers]
    dsimp only
    rw [hfound, htake, hdrop, hchar]
    simp

theorem showBytes_flatMap {cs : List Char} {fuel : Nat} (h : cs.length ≤ fuel) :
    showBytes fuel (cs.flatMap String.utf8EncodeChar) = cs := by
  induction cs generalizing fuel with
  | nil => cases fuel <;> rfl
  | cons c cs ih =>
      obtain ⟨fuel, rfl⟩ : ∃ n, fuel = n + 1 := ⟨fuel - 1, by rw [List.length_cons] at h; omega⟩
      rw [List.flatMap_cons, showBytes_encodeChar, ih (Nat.le_of_succ_le_succ h)]

theorem length_le_flatMap (cs : List Char) :
    cs.length ≤ (cs.flatMap String.utf8EncodeChar).length := by
  have hsizes : ∀ n ∈ cs.map fun c => (String.utf8EncodeChar c).length, 1 ≤ n := by
    intro n hn
    obtain ⟨c, -, rfl⟩ := List.mem_map.mp hn
    exact List.length_pos_iff.mpr String.utf8EncodeChar_ne_nil
  have hle := List.length_le_sum_of_one_le _ hsizes
  rwa [List.length_map, ← List.length_flatMap] at hle

theorem lossy_bytesOf (s : String) : lossy (bytesOf s) = s := by
  rw [lossy, bytesOf_eq_flatMap, showBytes_flatMap (length_le_flatMap _), String.ofList_toList]

end SettingsStore.Text
