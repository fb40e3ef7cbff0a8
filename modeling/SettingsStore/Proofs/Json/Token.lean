import Mathlib.Tactic.IntervalCases
import SettingsStore.Json.Printer
import SettingsStore.Json.Token
import SettingsStore.Proofs.Text.ByteList
import SettingsStore.Proofs.Text.Digits

/-!
# Tokens that were printed

A string and an integer of 64 bits are scanned as what they were printed from, whatever follows; but
what follows an integer must not be able to go on with it.
-/

namespace SettingsStore.Json

open Text

/-! ## Strings -/

/-- A byte that stands for itself in a string. -/
def IsBare (b : UInt8) : Prop := ¬b < 32 ∧ b ≠ 34 ∧ b ≠ 92

theorem scanString_cons {b : UInt8} (h : IsBare b) (p : Except SyntaxFault Partial)
    (s : List UInt8) : scanString p (b :: s) = scanString (p.bind (·.byte b)) s := by
  obtain ⟨hcontrol, hquote, hslash⟩ := h
  rw [scanString]
  · rw [if_neg hcontrol]
  · exact hquote
  · exact fun heq _ => hslash heq
  · exact fun _ _ _ _ _ heq _ => hslash heq
  · exact fun _ heq _ => hslash heq
  · exact fun _ _ heq _ => hslash heq

theorem scanString_append {bs : List UInt8} (h : ∀ b ∈ bs, IsBare b) (acc s : List UInt8) :
    scanString (.ok ⟨acc, none⟩) (bs ++ s) = scanString (.ok ⟨bs.reverse ++ acc, none⟩) s := by
  induction bs generalizing acc with
  | nil => rfl
  | cons b bs ih =>
      rw [List.cons_append, scanString_cons (h b List.mem_cons_self)]
      have hrest := ih (fun b hb => h b (List.mem_cons_of_mem _ hb)) (b :: acc)
      rw [List.reverse_cons, List.append_assoc]
      exact hrest

theorem isBare_of_mem_utf8EncodeChar {c : Char} (hcontrol : 32 ≤ c.toNat) (hquote : c ≠ '"')
    (hslash : c ≠ '\\') {b : UInt8} (hb : b ∈ String.utf8EncodeChar c) : IsBare b := by
  by_cases hascii : c.toNat < 128
  · rw [utf8EncodeChar_of_lt hascii, List.mem_singleton] at hb
    have hnat : b.toNat = c.toNat := by
      rw [hb, UInt8.toNat_ofNat', Nat.mod_eq_of_lt (by omega)]
    have hne : ∀ d : Char, c ≠ d → b.toNat ≠ d.toNat := by
      intro d hd heq
      exact hd (Char.toNat_inj.mp (hnat ▸ heq))
    refine ⟨?_, ?_, ?_⟩
    · rw [UInt8.lt_iff_toNat_lt, hnat]
      exact Nat.not_lt.mpr hcontrol
    · rintro rfl
      exact hne '"' hquote rfl
    · rintro rfl
      exact hne '\\' hslash rfl
  · have hbyte := le_of_mem_utf8EncodeChar (Nat.not_lt.mp hascii) hb
    refine ⟨?_, ?_, ?_⟩
    · rw [UInt8.lt_iff_toNat_lt]
      exact Nat.not_lt.mpr (Nat.le_trans (by decide) hbyte)
    · rintro rfl
      exact absurd hbyte (by decide)
    · rintro rfl
      exact absurd hbyte (by decide)

def controlDigits (n : Nat) : UInt8 × UInt8 :=
  (UInt8.ofNat (48 + n / 16), UInt8.ofNat (if n % 16 < 10 then 48 + n % 16 else 87 + n % 16))

theorem hexUnit?_controlDigits :
    ∀ n < 32, hexUnit? 48 48 (controlDigits n).1 (controlDigits n).2 = some n := by
  decide

theorem bytesOf_escaped_control : ∀ n < 32,
    bytesOf (if n < 16 then "\\u000" ++ String.ofList (Nat.toDigits 16 n)
      else "\\u00" ++ String.ofList (Nat.toDigits 16 n)) =
    [92, 117, 48, 48, (controlDigits n).1, (controlDigits n).2] := by
  decide +kernel

theorem scanString_escapedChar (c : Char) (acc s : List UInt8) :
    scanString (.ok ⟨acc, none⟩) (bytesOf (escapedChar c) ++ s) =
      scanString (.ok ⟨(String.utf8EncodeChar c).reverse ++ acc, none⟩) s := by
  unfold escapedChar
  split
  · next h => subst h; rfl
  split
  · next h => subst h; rfl
  split
  · next h => subst h; rfl
  split
  · next h => subst h; rfl
  split
  · next h => subst h; rfl
  split
  · next h => rw [show c = Char.ofNat 8 from Char.toNat_inj.mp h]; rfl
  split
  · next h => rw [show c = Char.ofNat 12 from Char.toNat_inj.mp h]; rfl
  by_cases hcontrol : c.toNat < 32
  · have hbytes := bytesOf_escaped_control c.toNat hcontrol
    have hunit := hexUnit?_controlDigits c.toNat hcontrol
    have hchar : Char.ofNat c.toNat = c := Char.ofNat_toNat c
    rw [if_pos hcontrol, hbytes]
    simp only [List.cons_append, List.nil_append]
    rw [scanString]
    simp only [hunit]
    have hpush : (Partial.mk acc none).unit c.toNat =
        .ok ⟨(String.utf8EncodeChar c).reverse ++ acc, none⟩ := by
      unfold Partial.unit pushCodePoint
      rw [hchar]
      simp only [show ¬(0xDC00 ≤ c.toNat ∧ c.toNat ≤ 0xDFFF) by omega,
        show ¬(0xD800 ≤ c.toNat ∧ c.toNat ≤ 0xDBFF) by omega, if_false]
    exact congrArg (scanString · s) hpush
  · rw [if_neg (by omega), if_neg hcontrol, bytesOf_toString]
    exact scanString_append (fun b hb => isBare_of_mem_utf8EncodeChar (by omega) ‹_› ‹_› hb) acc s

theorem scanString_escaped (cs : List Char) (acc s : List UInt8) :
    scanString (.ok ⟨acc, none⟩) (bytesOf (String.join (cs.map escapedChar)) ++ s) =
      scanString (.ok ⟨(cs.flatMap String.utf8EncodeChar).reverse ++ acc, none⟩) s := by
  rw [bytesOf_join, List.flatMap_map]
  induction cs generalizing acc with
  | nil => rfl
  | cons c cs ih =>
      rw [List.flatMap_cons, List.flatMap_cons, List.append_assoc, scanString_escapedChar, ih,
        List.reverse_append, List.append_assoc]

theorem next?_stringText (text : String) (s : List UInt8) :
    next? (bytesOf (stringText text) ++ s) = some (.str (.ok text), s) := by
  have hscan := scanString_escaped text.toList [] (34 :: s)
  rw [List.append_nil, ← bytesOf_eq_flatMap, scanString] at hscan
  have hfinish : (Partial.mk (bytesOf text).reverse none).finish = .ok text := by
    unfold Partial.finish
    rw [List.reverse_reverse, ofByteList?_bytesOf]
  have hbytes : bytesOf (stringText text) ++ s =
      34 :: (bytesOf (String.join (text.toList.map escapedChar)) ++ 34 :: s) := by
    rw [stringText, bytesOf_append, bytesOf_append]
    change [34] ++ _ ++ [34] ++ s = _
    simp
  have htoken : stringToken (bytesOf (String.join (text.toList.map escapedChar)) ++ 34 :: s) =
      (.str (.ok text), s) := by
    unfold stringToken Partial.empty
    rw [hscan]
    simp only [Except.bind, hfinish]
  rw [hbytes, next?]
  exact congrArg some htoken

/-! ## Integers -/

def decimal (n : Nat) : List UInt8 := (Nat.toDigits 10 n).map fun c => UInt8.ofNat c.toNat

theorem bytesOf_repr (n : Nat) : bytesOf n.repr = decimal n := by
  have hascii : ∀ cs : List Char, (∀ c ∈ cs, c.toNat < 128) →
      cs.flatMap String.utf8EncodeChar = cs.map fun c => UInt8.ofNat c.toNat := by
    intro cs h
    induction cs with
    | nil => rfl
    | cons c cs ih =>
        rw [List.flatMap_cons, utf8EncodeChar_of_lt (h c List.mem_cons_self),
          ih fun d hd => h d (List.mem_cons_of_mem c hd)]
        rfl
  rw [bytesOf_eq_flatMap, Nat.toList_repr, decimal]
  refine hascii _ fun c hc => ?_
  have hdigit := toNat_of_mem_toDigits hc
  omega

theorem isDigit_of_mem_decimal {n : Nat} {b : UInt8} (h : b ∈ decimal n) : isDigit b = true := by
  obtain ⟨c, hc, rfl⟩ := List.mem_map.mp h
  have hdigit := toNat_of_mem_toDigits hc
  have hnat : (UInt8.ofNat c.toNat).toNat = c.toNat := by
    rw [UInt8.toNat_ofNat', Nat.mod_eq_of_lt (by omega)]
  simp only [isDigit, Bool.and_eq_true, decide_eq_true_eq, UInt8.le_iff_toNat_le, hnat]
  exact hdigit

theorem exists_decimal_eq_cons {n : Nat} (h : 0 < n) :
    ∃ b bs, decimal n = b :: bs ∧ b ≠ 48 := by
  obtain ⟨c, cs, hcs, hc⟩ := exists_toDigits_eq_cons h
  have hdigit : 48 ≤ c.toNat ∧ c.toNat ≤ 57 :=
    toNat_of_mem_toDigits (n := n) (hcs ▸ List.mem_cons_self)
  refine ⟨UInt8.ofNat c.toNat, cs.map fun d => UInt8.ofNat d.toNat, ?_, fun heq => ?_⟩
  · rw [decimal, hcs]
    rfl
  · have hnat := congrArg UInt8.toNat heq
    rw [UInt8.toNat_ofNat', Nat.mod_eq_of_lt (by omega)] at hnat
    exact hc (Char.toNat_inj.mp hnat)

theorem digitsValue_decimal (n : Nat) : digitsValue (decimal n) = n := by
  have hfold : ∀ (cs : List Char) (start : Nat), (∀ c ∈ cs, c.toNat ≤ 57) →
      (cs.map fun c => UInt8.ofNat c.toNat).foldl (fun n b => n * 10 + digitValue b) start =
        Nat.ofDigitChars 10 cs start := by
    intro cs
    induction cs with
    | nil => exact fun _ _ => Nat.ofDigitChars_nil.symm
    | cons c cs ih =>
        intro start h
        have hvalue : digitValue (UInt8.ofNat c.toNat) = c.toNat - 48 := by
          have hc := h c List.mem_cons_self
          rw [digitValue, UInt8.toNat_ofNat', Nat.mod_eq_of_lt (by omega)]
        rw [List.map_cons, List.foldl_cons, ih _ fun d hd => h d (List.mem_cons_of_mem c hd),
          Nat.ofDigitChars_cons, hvalue, Nat.mul_comm]
        rfl
  have hall := hfold (Nat.toDigits 10 n) 0 fun c hc => (toNat_of_mem_toDigits hc).2
  rw [digitsValue, decimal, hall, Nat.ofDigitChars_ten_toDigits]

theorem le_foldl_digits (ds : List UInt8) (n : Nat) :
    n ≤ ds.foldl (fun n b => n * 10 + digitValue b) n := by
  induction ds generalizing n with
  | nil => exact Nat.le_refl n
  | cons b ds ih =>
      have hrest := ih (n * 10 + digitValue b)
      rw [List.foldl_cons]
      omega

theorem accumulate_of_lt {ds : List UInt8} {n : Nat}
    (h : ds.foldl (fun n b => n * 10 + digitValue b) n < Word.count 64) :
    accumulate n ds = (ds.foldl (fun n b => n * 10 + digitValue b) n, []) := by
  induction ds generalizing n with
  | nil => rfl
  | cons b ds ih =>
      have hle := le_foldl_digits ds (n * 10 + digitValue b)
      rw [List.foldl_cons] at h ⊢
      rw [accumulate, if_pos (Nat.lt_of_le_of_lt hle h), ih h]

theorem accumulate_decimal {n : Nat} (h : n < Word.count 64) :
    accumulate 0 (decimal n) = (n, []) := by
  have hvalue := digitsValue_decimal n
  rw [digitsValue] at hvalue
  rw [accumulate_of_lt (by rwa [hvalue]), hvalue]

/-- What follows a number does not go on with it. -/
def EndsNumber : List UInt8 → Prop
  | [] => True
  | b :: _ => isDigit b = false ∧ b ≠ 46 ∧ b ≠ 101 ∧ b ≠ 69

theorem digits_append {ds s : List UInt8} (h : ∀ b ∈ ds, isDigit b = true) (hs : EndsNumber s) :
    digits (ds ++ s) = (ds, s) := by
  have hend : s.takeWhile isDigit = [] ∧ s.dropWhile isDigit = s := by
    cases s with
    | nil => exact ⟨rfl, rfl⟩
    | cons b s => simp [hs.1]
  rw [digits, List.takeWhile_append_of_pos h, List.dropWhile_append_of_pos h, hend.1, hend.2,
    List.append_nil]

theorem scanFraction_of_ends {n : Numeral} {s : List UInt8} (hs : EndsNumber s) :
    scanFraction n s = .ok (n, s) := by
  cases s with
  | nil => rfl
  | cons b s =>
      obtain ⟨_, hpoint, hlower, hupper⟩ := hs
      rw [scanFraction]
      · unfold scanExponent
        exact if_neg (not_or.mpr ⟨hlower, hupper⟩)
      · intro r heq
        cases heq
        exact hpoint rfl

theorem scanNumber_decimal (negative : Bool) (n : Nat) {s : List UInt8} (hs : EndsNumber s) :
    scanNumber negative (decimal n ++ s) = .ok (⟨negative, decimal n, none, none⟩, s) := by
  have hdigits := digits_append (fun b hb => isDigit_of_mem_decimal (n := n) hb) hs
  rw [scanNumber, hdigits]
  rcases Nat.eq_zero_or_pos n with rfl | hn
  · exact scanFraction_of_ends hs
  · obtain ⟨b, bs, hbs, hb⟩ := exists_decimal_eq_cons hn
    rw [hbs]
    split
    · next heq => cases heq
    · next heq =>
        cases heq
        exact absurd rfl hb
    · next heq =>
        cases heq
        exact scanFraction_of_ends hs

theorem numberToken_decimal (negative : Bool) (n : Nat) {s : List UInt8} (hs : EndsNumber s) :
    numberToken negative (decimal n ++ s) =
      (.num (Numeral.value ⟨negative, decimal n, none, none⟩), s) := by
  rw [numberToken, scanNumber_decimal negative n hs]

theorem value_of_nonneg {n : Nat} (h : n < Word.count 64) :
    Numeral.value ⟨false, decimal n, none, none⟩ = .ok (.int n) := by
  simp only [Numeral.value, accumulate_decimal h]
  rfl

theorem value_of_neg {n : Nat} (h : 0 < n) (hle : n ≤ Word.count 63) :
    Numeral.value ⟨true, decimal n, none, none⟩ = .ok (.int (-n)) := by
  have hlt : n < Word.count 64 := by
    have hcount : Word.count 64 = 2 * Word.count 63 := rfl
    omega
  simp only [Numeral.value, accumulate_decimal hlt]
  rw [if_neg (by decide), if_pos ⟨h, hle⟩]

theorem next?_digit {b : UInt8} (h : isDigit b = true) (s : List UInt8) :
    next? (b :: s) = some (numberToken false (b :: s)) := by
  have hb : b ∈ [(48 : UInt8), 49, 50, 51, 52, 53, 54, 55, 56, 57] := by
    simp only [isDigit, Bool.and_eq_true, decide_eq_true_eq, UInt8.le_iff_toNat_le] at h
    obtain ⟨hle, hge⟩ := h
    change 48 ≤ b.toNat at hle
    change b.toNat ≤ 57 at hge
    rw [← UInt8.ofNat_toNat (x := b)]
    interval_cases b.toNat <;> decide
  simp only [List.mem_cons, List.not_mem_nil, or_false] at hb
  rcases hb with rfl | rfl | rfl | rfl | rfl | rfl | rfl | rfl | rfl | rfl <;> rfl

/-- An integer that is printed fits into 64 bits. -/
def FitsWord (z : Int) : Prop := -(Word.count 63 : Int) ≤ z ∧ z < (Word.count 64 : Int)

theorem next?_intText {z : Int} (hz : FitsWord z) {s : List UInt8} (hs : EndsNumber s) :
    next? (bytesOf (toString z) ++ s) = some (.num (.ok (.int z)), s) := by
  cases z with
  | ofNat n =>
      have hn : n < Word.count 64 := Int.ofNat_lt.mp hz.2
      have htext : bytesOf (toString (Int.ofNat n)) = decimal n := bytesOf_repr n
      obtain ⟨b, bs, hbs⟩ := List.exists_cons_of_ne_nil
        (show decimal n ≠ [] from fun h => Nat.toDigits_ne_nil (List.map_eq_nil_iff.mp h))
      have hb : isDigit b = true := isDigit_of_mem_decimal (hbs ▸ List.mem_cons_self)
      have htoken := numberToken_decimal false n hs
      rw [value_of_nonneg hn] at htoken
      rw [htext, hbs, List.cons_append, next?_digit hb, ← List.cons_append, ← hbs, htoken]
      rfl
  | negSucc n =>
      have hn : n + 1 ≤ Word.count 63 := by
        have hle := hz.1
        omega
      have htext : bytesOf (toString (Int.negSucc n)) = 45 :: decimal (n + 1) := by
        change bytesOf ("-" ++ (n + 1).repr) = _
        rw [bytesOf_append, bytesOf_repr]
        rfl
      have htoken := numberToken_decimal true (n + 1) hs
      rw [value_of_neg (Nat.succ_pos n) hn] at htoken
      rw [htext]
      exact congrArg some htoken

end SettingsStore.Json
