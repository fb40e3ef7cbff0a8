import SettingsStore.Proofs.Text.ByteList
import SettingsStore.Url.Percent

/-!
# Percent encoding and back

A text without percent signs is read back from its percent encoding, byte for byte. The encoding
says the text itself exactly if no character of it has to be encoded. What has no percent sign is
the encoding of nothing but itself, which is how dots and drives are recognised behind it.
-/

namespace SettingsStore.Url

variable {encoded : Char → Bool} {c : Char} {cs ds : List Char}

/-! ## Digits -/

theorem hexDigit?_upperHexDigit : ∀ n < 16, hexDigit? (upperHexDigit n) = some n := by
  decide

theorem percentDecode_encodeByte (b : UInt8) (cs : List Char) :
    percentDecode (encodeByte b ++ cs) = b :: percentDecode cs := by
  have hlt : b.toNat < 256 := b.toNat_lt
  have hhigh := hexDigit?_upperHexDigit (b.toNat / 16) (by omega)
  have hlow := hexDigit?_upperHexDigit (b.toNat % 16) (by omega)
  have hbyte : UInt8.ofNat (16 * (b.toNat / 16) + b.toNat % 16) = b := by
    rw [Nat.div_add_mod, UInt8.ofNat_toNat]
  simp only [encodeByte, List.cons_append, List.nil_append, percentDecode, hhigh, hlow, hbyte]

theorem percentDecode_flatMap_encodeByte (bs : List UInt8) (cs : List Char) :
    percentDecode (bs.flatMap encodeByte ++ cs) = bs ++ percentDecode cs := by
  induction bs with
  | nil => rfl
  | cons b bs ih =>
      rw [List.flatMap_cons, List.append_assoc, percentDecode_encodeByte, ih, List.cons_append]

/-! ## Characters -/

theorem percentDecode_cons (h : c ≠ '%') (cs : List Char) :
    percentDecode (c :: cs) = String.utf8EncodeChar c ++ percentDecode cs := by
  rw [percentDecode]
  exact fun _ _ _ hc _ => h hc

theorem encodeChar_of_plain (hascii : c.toNat < 128) (h : encoded c = false) :
    encodeChar encoded c = [c] := by
  rw [encodeChar, if_neg (by simpa [h] using hascii)]

theorem encodeChar_of_encoded (h : 128 ≤ c.toNat ∨ encoded c = true) :
    encodeChar encoded c = (String.utf8EncodeChar c).flatMap encodeByte := by
  rw [encodeChar, if_pos (by simpa using h)]

/-- A character stands for itself, or it is encoded. -/
theorem encodeChar_cases (encoded : Char → Bool) (c : Char) :
    (c.toNat < 128 ∧ encoded c = false) ∧ encodeChar encoded c = [c] ∨
    (128 ≤ c.toNat ∨ encoded c = true) ∧
      encodeChar encoded c = (String.utf8EncodeChar c).flatMap encodeByte := by
  by_cases h : 128 ≤ c.toNat ∨ encoded c = true
  · exact Or.inr ⟨h, encodeChar_of_encoded h⟩
  · simp only [not_or, Nat.not_le, Bool.not_eq_true] at h
    exact Or.inl ⟨h, encodeChar_of_plain h.1 h.2⟩

theorem percentDecode_encodeChar (h : c ≠ '%') (cs : List Char) :
    percentDecode (encodeChar encoded c ++ cs) = String.utf8EncodeChar c ++ percentDecode cs := by
  rcases encodeChar_cases encoded c with ⟨-, hc⟩ | ⟨-, hc⟩
  · rw [hc, List.singleton_append, percentDecode_cons h]
  · rw [hc, percentDecode_flatMap_encodeByte]

theorem exists_encodeChar (h : 128 ≤ c.toNat ∨ encoded c = true) :
    ∃ b rest, b ∈ String.utf8EncodeChar c ∧ encodeChar encoded c =
      '%' :: upperHexDigit (b.toNat / 16) :: upperHexDigit (b.toNat % 16) :: rest := by
  obtain ⟨b, bs, hbytes⟩ := List.exists_cons_of_ne_nil (String.utf8EncodeChar_ne_nil (c := c))
  refine ⟨b, bs.flatMap encodeByte, by simp [hbytes], ?_⟩
  rw [encodeChar_of_encoded h, hbytes, List.flatMap_cons]
  rfl

/-! ## Texts -/

theorem percentEncode_cons (encoded : Char → Bool) (c : Char) (cs : List Char) :
    percentEncode encoded (c :: cs) = encodeChar encoded c ++ percentEncode encoded cs := rfl

theorem percentDecode_percentEncode (h : '%' ∉ cs) :
    percentDecode (percentEncode encoded cs) = cs.flatMap String.utf8EncodeChar := by
  induction cs with
  | nil => rfl
  | cons c cs ih =>
      rw [List.mem_cons, not_or] at h
      rw [percentEncode_cons, percentDecode_encodeChar (Ne.symm h.1), ih h.2, List.flatMap_cons]

theorem percentEncode_of_plain (h : ∀ c ∈ cs, c.toNat < 128 ∧ encoded c = false) :
    percentEncode encoded cs = cs := by
  induction cs with
  | nil => rfl
  | cons c cs ih =>
      rw [List.forall_mem_cons] at h
      rw [percentEncode_cons, encodeChar_of_plain h.1.1 h.1.2, ih h.2, List.singleton_append]

/-- Where the encoding has no percent sign, nothing is encoded. -/
theorem plain_of_percentEncode (h : '%' ∉ percentEncode encoded cs) :
    ∀ c ∈ cs, c.toNat < 128 ∧ encoded c = false := by
  intro c hc
  rcases encodeChar_cases encoded c with ⟨hplain, -⟩ | ⟨hencoded, -⟩
  · exact hplain
  · obtain ⟨b, rest, -, hchars⟩ := exists_encodeChar hencoded
    exact absurd (List.mem_flatMap.mpr ⟨c, hc, hchars ▸ List.mem_cons_self⟩) h

theorem eq_of_percentEncode (h : percentEncode encoded cs = ds) (hds : '%' ∉ ds) : cs = ds := by
  subst h
  exact (percentEncode_of_plain (plain_of_percentEncode hds)).symm

/-- The encoding says the text itself exactly if nothing in it has to be encoded. -/
theorem percentEncode_eq_self_iff (h : '%' ∉ cs) :
    percentEncode encoded cs = cs ↔ ∀ c ∈ cs, c.toNat < 128 ∧ encoded c = false :=
  ⟨fun hcs => plain_of_percentEncode (hcs.symm ▸ h), percentEncode_of_plain⟩

end SettingsStore.Url
