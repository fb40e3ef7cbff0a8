import SettingsStore.Proofs.Text.Digits
import SettingsStore.Proofs.Toml.String

/-!
# Scalars that were written

Integers of 64 bits, truth values and strings are read as what they were written from. Digits could
begin a date, but the line ends before a dash or a colon comes.
-/

namespace SettingsStore.Toml

open Text

variable {ds : List Char} {s : Rest}

def IsDigit (c : Char) : Prop := 48 ≤ c.toNat ∧ c.toNat ≤ 57

theorem IsDigit.ne {c : Char} (h : IsDigit c) (d : Char) (hd : ¬(48 ≤ d.toNat ∧ d.toNat ≤ 57)) :
    c ≠ d := by
  rintro rfl
  exact hd h

theorem IsDigit.radixDigit? {c : Char} (h : IsDigit c) :
    radixDigit? 10 c = some (c.toNat - 48) := by
  obtain ⟨hle, hge⟩ := h
  have hchar : '0' ≤ c ∧ c ≤ '9' := ⟨hle, hge⟩
  rw [Toml.radixDigit?, hexDigit?, if_pos hchar, Option.filter_some, if_pos]
  exact decide_eq_true (by omega)

theorem digits_append (h : ∀ c ∈ ds, IsDigit c) (hne : ds ≠ []) (s : Rest) :
    digits (radixDigit? 10) (ds ++ '\n' :: s) =
      some (ds.map fun c => c.toNat - 48, '\n' :: s) := by
  induction ds with
  | nil => exact absurd rfl hne
  | cons c ds ih =>
      have hc := h c List.mem_cons_self
      rw [List.cons_append, digits, hc.radixDigit?]
      cases ds with
      | nil => rfl
      | cons d ds =>
          have hrest := ih (fun d hd => h d (List.mem_cons_of_mem c hd)) (List.cons_ne_nil d ds)
          have hd := h d (List.mem_cons_of_mem c List.mem_cons_self)
          dsimp only
          split
          · next heq => exact absurd (List.cons.inj heq).1 (hd.ne '_' (by decide))
          · rw [hrest]
            rfl

theorem ofDigits_map (ds : List Char) :
    ofDigits 10 (ds.map fun c => c.toNat - 48) = Nat.ofDigitChars 10 ds 0 := by
  rw [ofDigits, List.foldl_map, Nat.ofDigitChars_eq_foldl]
  refine congrArg (List.foldl · 0 ds) ?_
  funext n c
  rw [Nat.mul_comm]
  rfl

theorem decimal?_toDigits (n : Nat) (s : Rest) :
    decimal? (Nat.toDigits 10 n ++ '\n' :: s) =
      some ((Nat.toDigits 10 n).map fun c => c.toNat - 48, '\n' :: s) := by
  rcases Nat.eq_zero_or_pos n with rfl | hn
  · rfl
  · obtain ⟨c, cs, hcs, hc⟩ := exists_toDigits_eq_cons hn
    have hdigits := digits_append (fun c hc => toNat_of_mem_toDigits (n := n) hc)
      Nat.toDigits_ne_nil s
    rw [hcs] at hdigits ⊢
    rw [List.cons_append] at hdigits ⊢
    rw [decimal?]
    · exact hdigits
    · exact fun _ heq => hc (List.cons.inj heq).1

/-! ## Dates -/

theorem fixed?_eq_some {count n : Nat} {r : Rest} (h : fixed? count s = some (n, r)) :
    (s.take count).length = count ∧ (∀ c ∈ s.take count, c.isDigit = true) ∧
      r = s.drop count := by
  unfold fixed? at h
  dsimp only at h
  split at h
  · next hdigits =>
      cases h
      exact ⟨hdigits.1, List.all_eq_true.mp hdigits.2, rfl⟩
  · cases h

/-- After some digits of a number comes another one or the end of the line. -/
theorem expect?_of_fixed? (h : ∀ c ∈ ds, IsDigit c) {count n : Nat} {r : Rest}
    (hread : fixed? count (ds ++ '\n' :: s) = some (n, r)) {d : Char} (hd : d = '-' ∨ d = ':') :
    expect? [d] r = none := by
  obtain ⟨hlength, hall, rfl⟩ := fixed?_eq_some hread
  have hcount : count ≤ ds.length := by
    by_contra hlt
    have hmem : '\n' ∈ (ds ++ '\n' :: s).take count := by
      rw [List.take_append, List.mem_append]
      obtain ⟨k, hk⟩ := Nat.exists_eq_succ_of_ne_zero (show count - ds.length ≠ 0 by omega)
      rw [hk]
      exact Or.inr List.mem_cons_self
    exact absurd (hall '\n' hmem) (by decide)
  rw [List.drop_append_of_le_length hcount]
  cases hrest : ds.drop count with
  | nil => rcases hd with rfl | rfl <;> rfl
  | cons c cs =>
      have hc : IsDigit c := h c (List.mem_of_mem_drop (hrest ▸ List.mem_cons_self))
      have hne : d ≠ c := by
        rcases hd with rfl | rfl
        · exact (hc.ne '-' (by decide)).symm
        · exact (hc.ne ':' (by decide)).symm
      rw [List.cons_append, expect?, if_neg hne]

theorem dateTime?_digits (h : ∀ c ∈ ds, IsDigit c) (s : Rest) :
    dateTime? (ds ++ '\n' :: s) = none := by
  have hdate : date? (ds ++ '\n' :: s) = none := by
    rw [date?]
    cases hread : fixed? 4 (ds ++ '\n' :: s) with
    | none => rfl
    | some p =>
        simp only [Option.bind_eq_bind, Option.bind_some,
          expect?_of_fixed? h hread (Or.inl rfl), Option.bind_none]
  have htime : time? (ds ++ '\n' :: s) = none := by
    rw [time?, hourMinute?]
    cases hread : fixed? 2 (ds ++ '\n' :: s) with
    | none => rfl
    | some p =>
        simp only [Option.bind_eq_bind, Option.bind_some,
          expect?_of_fixed? h hread (Or.inr rfl), Option.bind_none]
  rw [dateTime?, moment?, hdate, htime]
  rfl

theorem dateTime?_of_not_isDigit {c : Char} (hc : c.isDigit = false) (s : Rest) :
    dateTime? (c :: s) = none := by
  have hfixed : ∀ count, 0 < count → fixed? count (c :: s) = none := by
    intro count hpos
    obtain ⟨k, rfl⟩ := Nat.exists_eq_succ_of_ne_zero (Nat.ne_of_gt hpos)
    refine if_neg fun h => ?_
    have hdigit := List.all_eq_true.mp h.2 c List.mem_cons_self
    rw [hc] at hdigit
    cases hdigit
  rw [dateTime?, moment?, date?, time?, hourMinute?, hfixed 4 (by decide), hfixed 2 (by decide)]
  rfl

/-! ## Integers -/

theorem exists_toDigits (n : Nat) :
    ∃ c cs, Nat.toDigits 10 n = c :: cs ∧ IsDigit c ∧ (c = '0' → cs = []) := by
  obtain ⟨c, cs, hcs⟩ := List.exists_cons_of_ne_nil (Nat.toDigits_ne_nil (b := 10) (n := n))
  refine ⟨c, cs, hcs, toNat_of_mem_toDigits (n := n) (hcs ▸ List.mem_cons_self), fun hzero => ?_⟩
  rcases Nat.eq_zero_or_pos n with rfl | hn
  · cases hcs
    rfl
  · obtain ⟨d, ds, hds, hd⟩ := exists_toDigits_eq_cons hn
    rw [hcs] at hds
    exact absurd ((List.cons.inj hds).1 ▸ hzero) hd

theorem sign_toDigits (n : Nat) (s : Rest) :
    sign (Nat.toDigits 10 n ++ s) = (false, Nat.toDigits 10 n ++ s) := by
  obtain ⟨c, cs, hcs, hc, _⟩ := exists_toDigits n
  rw [hcs, List.cons_append, sign]
  · exact fun _ heq => hc.ne '-' (by decide) (List.cons.inj heq).1
  · exact fun _ heq => hc.ne '+' (by decide) (List.cons.inj heq).1

theorem special?_toDigits (n : Nat) (s : Rest) :
    special? "inf".toList (Nat.toDigits 10 n ++ s) = none ∧
      special? "nan".toList (Nat.toDigits 10 n ++ s) = none := by
  obtain ⟨c, cs, hcs, hc, _⟩ := exists_toDigits n
  have hi : 'i' ≠ c := (hc.ne 'i' (by decide)).symm
  have hn : 'n' ≠ c := (hc.ne 'n' (by decide)).symm
  rw [hcs]
  constructor
  · change (if 'i' = c then expect? ['n', 'f'] (cs ++ s) else none).map _ = none
    rw [if_neg hi]
    rfl
  · change (if 'n' = c then expect? ['a', 'n'] (cs ++ s) else none).map _ = none
    rw [if_neg hn]
    rfl

theorem decimalNumber?_of_sign {u : Rest} {negative : Bool} {n : Nat}
    (hsign : sign u = (negative, Nat.toDigits 10 n ++ '\n' :: s))
    (hfits : Word.isSigned64 (if negative then -(n : Int) else n) = true) :
    decimalNumber? u = some (.int (if negative then -(n : Int) else n), '\n' :: s) := by
  have hvalue : (ofDigits 10 ((Nat.toDigits 10 n).map fun c => c.toNat - 48) : Int) = n := by
    rw [ofDigits_map, Nat.ofDigitChars_ten_toDigits]
  rw [decimalNumber?, hsign]
  simp only [decimal?_toDigits, Option.bind_eq_bind, Option.bind_some, hvalue]
  rw [int64?, if_pos hfits]
  rfl

theorem scalar?_nat {n : Nat} (h : Word.isSigned64 n = true) (s : Rest) :
    scalar? (Nat.toDigits 10 n ++ '\n' :: s) = some (.int n, '\n' :: s) := by
  have hsign := sign_toDigits n ('\n' :: s)
  have hdate := dateTime?_digits (fun c hc => toNat_of_mem_toDigits (n := n) hc) s
  have hnumber : number? (Nat.toDigits 10 n ++ '\n' :: s) = some (.int n, '\n' :: s) := by
    have hspecial := special?_toDigits n ('\n' :: s)
    have hdecimal := decimalNumber?_of_sign hsign h
    obtain ⟨c, cs, hcs, hc, hzero⟩ := exists_toDigits n
    have hsecond : ∀ d r, Nat.toDigits 10 n ++ '\n' :: s = '0' :: d :: r → d = '\n' := by
      intro d r heq
      rw [hcs, List.cons_append] at heq
      obtain ⟨hfirst, htail⟩ := List.cons.inj heq
      rw [hzero hfirst] at htail
      exact (List.cons.inj htail).1.symm
    rw [number?, hsign, hspecial.1, hspecial.2, hdecimal]
    · rfl
    · exact fun r heq => absurd (hsecond _ r heq) (by decide)
    · exact fun r heq => absurd (hsecond _ r heq) (by decide)
    · exact fun r heq => absurd (hsecond _ r heq) (by decide)
  obtain ⟨c, cs, hcs, hc, _⟩ := exists_toDigits n
  rw [hcs, List.cons_append] at hdate hnumber ⊢
  rw [scalar?, hdate, hnumber]
  · rfl
  · exact fun _ heq => hc.ne '"' (by decide) (List.cons.inj heq).1
  · exact fun _ heq => hc.ne '\'' (by decide) (List.cons.inj heq).1
  · exact fun _ heq => hc.ne 't' (by decide) (List.cons.inj heq).1
  · exact fun _ heq => hc.ne 'f' (by decide) (List.cons.inj heq).1

theorem scalar?_neg {n : Nat} (h : Word.isSigned64 (-(n : Int)) = true) (s : Rest) :
    scalar? ('-' :: (Nat.toDigits 10 n ++ '\n' :: s)) = some (.int (-n), '\n' :: s) := by
  have hspecial := special?_toDigits n ('\n' :: s)
  have hsign : sign ('-' :: (Nat.toDigits 10 n ++ '\n' :: s)) =
      (true, Nat.toDigits 10 n ++ '\n' :: s) := rfl
  have hdecimal := decimalNumber?_of_sign hsign h
  have hnumber : number? ('-' :: (Nat.toDigits 10 n ++ '\n' :: s)) =
      some (.int (-n), '\n' :: s) := by
    change (special? "inf".toList (Nat.toDigits 10 n ++ '\n' :: s) <|>
      special? "nan".toList (Nat.toDigits 10 n ++ '\n' :: s) <|> decimalNumber? _) = _
    rw [hspecial.1, hspecial.2, hdecimal]
    rfl
  change (dateTime? _ <|> number? _) = _
  rw [dateTime?_of_not_isDigit (by decide), hnumber]
  rfl

theorem scalar?_intText {z : Int} (h : Word.isSigned64 z = true) (s : Rest) :
    scalar? ((toString z).toList ++ '\n' :: s) = some (.int z, '\n' :: s) := by
  cases z with
  | ofNat n =>
      have htext : (toString (Int.ofNat n)).toList = Nat.toDigits 10 n := Nat.toList_repr
      rw [htext]
      exact scalar?_nat h s
  | negSucc n =>
      have htext : (toString (Int.negSucc n)).toList = '-' :: Nat.toDigits 10 (n + 1) := by
        change ("-" ++ (n + 1).repr).toList = _
        rw [String.toList_append, Nat.toList_repr]
        rfl
      have hvalue : Int.negSucc n = -((n + 1 : Nat) : Int) := rfl
      rw [hvalue] at h
      rw [htext, hvalue]
      exact scalar?_neg h s

theorem scalar?_eq_none {c : Char} (hc : c = ' ' ∨ c = '\t' ∨ c = '[' ∨ c = '\x7b') (s : Rest) :
    scalar? (c :: s) = none := by
  have hdate : dateTime? (c :: s) = none := by
    apply dateTime?_of_not_isDigit
    rcases hc with rfl | rfl | rfl | rfl <;> rfl
  rcases hc with rfl | rfl | rfl | rfl
  all_goals
    rw [scalar?, hdate]
    · rfl
    all_goals exact fun _ heq => absurd (List.cons.inj heq).1 (by decide)

/-! ## Truth values and strings -/

theorem expect?_append (cs : List Char) (s : Rest) : expect? cs (cs ++ s) = some s := by
  induction cs with
  | nil => rfl
  | cons c cs ih => rw [List.cons_append, expect?, if_pos rfl, ih]

theorem scalar?_bool (b : Bool) (s : Rest) :
    scalar? ((if b then "true" else "false").toList ++ s) = some (.bool b, s) := by
  cases b with
  | false =>
      have hread : scalar? ("false".toList ++ s) =
          (expect? "false".toList ("false".toList ++ s)).map (.bool false, ·) := rfl
      exact hread.trans (congrArg _ (expect?_append _ s))
  | true =>
      have hread : scalar? ("true".toList ++ s) =
          (expect? "true".toList ("true".toList ++ s)).map (.bool true, ·) := rfl
      exact hread.trans (congrArg _ (expect?_append _ s))

theorem exists_stringText (text : String) :
    ∃ q r, (stringText text).toList = q :: r ∧ (q = '"' ∨ q = '\'') := by
  unfold stringText
  dsimp only
  cases Style.ofText text.toList
  all_goals simp only [String.toList_append, List.append_assoc]
  · exact ⟨'"', _, rfl, Or.inl rfl⟩
  · exact ⟨'\'', _, rfl, Or.inr rfl⟩
  · exact ⟨'"', _, rfl, Or.inl rfl⟩
  · exact ⟨'\'', _, rfl, Or.inr rfl⟩

theorem scalar?_stringText (text : String) (hs : EndsString s) :
    scalar? ((stringText text).toList ++ s) = some (.str text, s) := by
  have hread := string?_stringText text hs
  obtain ⟨q, r, htext, hq⟩ := exists_stringText text
  rw [htext, List.cons_append] at hread ⊢
  rcases hq with rfl | rfl
  · rw [scalar?, hread]
    rfl
  · rw [scalar?, hread]
    rfl

end SettingsStore.Toml
