import Mathlib.Tactic.IntervalCases
import SettingsStore.Toml.Printer
import SettingsStore.Toml.Scalar

/-!
# Strings that were written

A string is read as what it was written from in each of the four styles, if no quote follows it. In
the styles with three quotes the reader looks for three in a row, so the text must not have them; up
to two may stand directly before the closing ones.
-/

namespace SettingsStore.Toml

variable {c : Char} {cs : List Char} {acc s : Rest}

/-- A character that stands for itself between double quotes. -/
structure IsBare (c : Char) : Prop where
  plain : isPlain c = true
  ne_quote : c ≠ '"'
  ne_slash : c ≠ '\\'

/-- What follows a string does not begin with a quote. -/
structure EndsString (s : Rest) : Prop where
  double : s.head? ≠ some '"'
  single : s.head? ≠ some '\''

theorem isPlain_of_not_isControl (h : isControl c = false) (hbreak : c ≠ '\n') :
    isPlain c = true := by
  simp only [isControl, Bool.or_eq_false_iff, Bool.and_eq_false_iff, bne_eq_false_iff_eq,
    decide_eq_false_iff_not, beq_eq_false_iff_ne] at h
  simp only [isPlain, Bool.or_eq_true, Bool.and_eq_true, beq_iff_eq, decide_eq_true_eq]
  rcases h with ⟨(hlow | htab) | hline, hdelete⟩
  · exact Or.inr ⟨Nat.not_lt.mp hlow, hdelete⟩
  · exact Or.inl htab
  · exact absurd hline hbreak

/-! ## Escapes -/

theorem codePoint?_hex4 : ∀ n < 128, (hex4 n).toList.length = 4 ∧
    codePoint? (hex4 n).toList = some (Char.ofNat n) := by
  decide +kernel

theorem toNat_lt_of_isControl (h : isControl c = true) : c.toNat < 128 := by
  simp only [isControl, Bool.or_eq_true, Bool.and_eq_true, decide_eq_true_eq, beq_iff_eq] at h
  omega

theorem escape?_hex4 (h : isControl c = true) (s : Rest) :
    escape? ('u' :: (hex4 c.toNat).toList ++ s) = some (c, s) := by
  obtain ⟨hlength, hpoint⟩ := codePoint?_hex4 c.toNat (toNat_lt_of_isControl h)
  match hdigits : (hex4 c.toNat).toList, hlength with
  | [d₁, d₂, d₃, d₄], _ =>
  rw [hdigits] at hpoint
  change (codePoint? [d₁, d₂, d₃, d₄]).map (·, s) = _
  rw [hpoint, Char.ofNat_toNat]
  rfl

/-- A character is written as an escape that is read as it, or as itself. -/
theorem escapedChar_cases (c : Char) :
    (∃ e, (escapedChar c).toList = '\\' :: e ∧ ∀ s, escape? (e ++ s) = some (c, s)) ∨
      (escapedChar c).toList = [c] ∧ IsBare c := by
  unfold escapedChar
  split
  · next h =>
      subst h
      exact Or.inl ⟨['"'], rfl, fun _ => rfl⟩
  split
  · next h =>
      subst h
      exact Or.inl ⟨['\\'], rfl, fun _ => rfl⟩
  split
  · next h =>
      subst h
      exact Or.inl ⟨['n'], rfl, fun _ => rfl⟩
  split
  · next h =>
      subst h
      exact Or.inl ⟨['r'], rfl, fun _ => rfl⟩
  split
  · next h =>
      subst h
      exact Or.inl ⟨['t'], rfl, fun _ => rfl⟩
  split
  · next h =>
      have hc : c = Char.ofNat 8 := Char.toNat_inj.mp h
      exact Or.inl ⟨['b'], rfl, fun _ => hc ▸ rfl⟩
  split
  · next h =>
      have hc : c = Char.ofNat 12 := Char.toNat_inj.mp h
      exact Or.inl ⟨['f'], rfl, fun _ => hc ▸ rfl⟩
  split
  · next h =>
      refine Or.inl ⟨'u' :: (hex4 c.toNat).toList, ?_, escape?_hex4 h⟩
      rw [String.toList_append]
      rfl
  · next hcontrol =>
      refine Or.inr ⟨String.toList_singleton c, ?_⟩
      exact ⟨isPlain_of_not_isControl (Bool.not_eq_true _ ▸ hcontrol) ‹_›, ‹_›, ‹_›⟩

/-! ## One line -/

theorem basic?_bare (h : IsBare c) (acc s : Rest) : basic? acc (c :: s) = basic? (c :: acc) s := by
  rw [basic?]
  · rw [if_pos h.plain]
  · exact h.ne_quote
  · exact h.ne_slash

theorem basic?_escape {e : Rest} (h : escape? (e ++ s) = some (c, s)) (acc : Rest) :
    basic? acc ('\\' :: e ++ s) = basic? (c :: acc) s := by
  rw [List.cons_append, basic?]
  split
  · next heq =>
      rw [h] at heq
      cases heq
      rfl
  · next heq =>
      rw [h] at heq
      cases heq

theorem basic?_escapedChar (c : Char) (acc s : Rest) :
    basic? acc ((escapedChar c).toList ++ s) = basic? (c :: acc) s := by
  rcases escapedChar_cases c with ⟨e, htext, hescape⟩ | ⟨htext, hbare⟩
  · rw [htext]
    exact basic?_escape (hescape s) acc
  · rw [htext]
    exact basic?_bare hbare acc s

theorem basic?_escaped (cs : List Char) (acc s : Rest) :
    basic? acc ((String.join (cs.map escapedChar)).toList ++ '"' :: s) =
      some (String.ofList (acc.reverse ++ cs), s) := by
  rw [String.toList_join, List.flatMap_map]
  induction cs generalizing acc with
  | nil =>
      rw [List.flatMap_nil, List.nil_append, basic?, List.append_nil]
  | cons c cs ih =>
      rw [List.flatMap_cons, List.append_assoc, basic?_escapedChar, ih, List.reverse_cons,
        List.append_assoc]
      rfl

theorem literal?_append (h : ∀ c ∈ cs, c ≠ '\'' ∧ isPlain c = true) (acc s : Rest) :
    literal? acc (cs ++ '\'' :: s) = some (String.ofList (acc.reverse ++ cs), s) := by
  induction cs generalizing acc with
  | nil => rw [List.nil_append, literal?, List.append_nil]
  | cons c cs ih =>
      obtain ⟨hquote, hplain⟩ := h c List.mem_cons_self
      rw [List.cons_append, literal?, if_pos hplain,
        ih fun d hd => h d (List.mem_cons_of_mem c hd), List.reverse_cons, List.append_assoc]
      · rfl
      · exact hquote

/-! ## Several lines -/

theorem multiBasic?_bare (h : IsBare c) (acc s : Rest) :
    multiBasic? acc (c :: s) = multiBasic? (c :: acc) s := by
  have hbreak : c ≠ '\n' := by
    rintro rfl
    exact absurd h.plain (by decide)
  have hreturn : c ≠ '\r' := by
    rintro rfl
    exact absurd h.plain (by decide)
  rw [multiBasic?]
  · rw [if_pos h.plain]
  · exact fun _ heq _ => h.ne_quote heq
  · exact fun _ heq _ => h.ne_quote heq
  · exact fun _ heq _ => h.ne_quote heq
  · exact h.ne_slash
  · exact hbreak
  · exact fun _ heq _ => hreturn heq

theorem multiBasic?_escape {e : Rest} (h : escape? (e ++ s) = some (c, s)) (acc : Rest) :
    multiBasic? acc ('\\' :: e ++ s) = multiBasic? (c :: acc) s := by
  rw [List.cons_append, multiBasic?]
  split
  · next heq =>
      rw [h] at heq
      cases heq
      rfl
  · next heq =>
      rw [h] at heq
      cases heq

/-- A quote stands for itself if two more quotes do not follow it. -/
theorem multiBasic?_quote (h : ¬['"', '"'] <+: s) (acc : Rest) :
    multiBasic? acc ('"' :: s) = multiBasic? ('"' :: acc) s := by
  have hne : ∀ r, s ≠ '"' :: '"' :: r := by
    rintro r rfl
    exact h ⟨r, rfl⟩
  rw [multiBasic?]
  · rfl
  · exact fun r _ heq => hne _ heq
  · exact fun r _ heq => hne _ heq
  · exact fun r _ heq => hne _ heq
  · exact fun heq => absurd heq (by decide)
  · exact fun heq => absurd heq (by decide)
  · exact fun r heq _ => absurd heq (by decide)

/-- The three quotes after a string, with quotes of the string in front of them. -/
theorem multiBasic?_close {n : Nat} (hn : n ≤ 2) (hs : s.head? ≠ some '"') (acc : Rest) :
    multiBasic? acc (List.replicate n '"' ++ '"' :: '"' :: '"' :: s) =
      some (String.ofList (acc.reverse ++ List.replicate n '"'), s) := by
  have hne : ∀ r, s ≠ '"' :: r := by
    rintro r rfl
    exact hs rfl
  interval_cases n
  · change multiBasic? acc ('"' :: '"' :: '"' :: s) = _
    rw [multiBasic?, List.replicate_zero, List.append_nil]
    · exact fun r heq => hne _ heq
    · exact fun r heq => hne _ heq
  · change multiBasic? acc ('"' :: '"' :: '"' :: '"' :: s) = _
    rw [multiBasic?, List.reverse_cons]
    · rfl
    · exact fun r heq => hne _ heq
  · change multiBasic? acc ('"' :: '"' :: '"' :: '"' :: '"' :: s) = _
    rw [multiBasic?, List.reverse_cons, List.reverse_cons, List.append_assoc]
    rfl

/-- The characters that are written after some quotes in a row. -/
def multiBasicText (run : Nat) (cs : List Char) : List Char :=
  (String.join (multiBasicChars run cs)).toList

theorem multiBasicText_quote {run : Nat} (hrun : run < 2) (cs : List Char) :
    multiBasicText run ('"' :: cs) = '"' :: multiBasicText (run + 1) cs := by
  rw [multiBasicText, multiBasicChars, if_pos rfl, if_neg (Nat.ne_of_lt hrun), String.toList_join]
  rw [List.flatMap_cons, multiBasicText, String.toList_join]
  rfl

/-- A character that is no quote in a short row is read again and begins with no quote. -/
theorem multiBasicText_cons {run : Nat} (h : c ≠ '"' ∨ run = 2) (cs : List Char) :
    ∃ d r, multiBasicText run (c :: cs) = d :: r ++ multiBasicText 0 cs ∧ d ≠ '"' ∧
      (c ≠ '\n' → isPlain d = true) ∧
      ∀ acc s, multiBasic? acc (d :: r ++ s) = multiBasic? (c :: acc) s := by
  have hescaped : ∃ d r, (escapedChar c).toList = d :: r ∧ d ≠ '"' ∧ isPlain d = true ∧
      ∀ acc s, multiBasic? acc (d :: r ++ s) = multiBasic? (c :: acc) s := by
    rcases escapedChar_cases c with ⟨e, htext, hescape⟩ | ⟨htext, hbare⟩
    · exact ⟨'\\', e, htext, by decide, by decide, fun acc s =>
        multiBasic?_escape (hescape s) acc⟩
    · exact ⟨c, [], htext, hbare.ne_quote, hbare.plain, fun acc s =>
        multiBasic?_bare hbare acc s⟩
  obtain ⟨d, r, htext, hd, hplain, hread⟩ := hescaped
  by_cases hc : c = '"'
  · have hrun : run = 2 := h.resolve_left (not_not_intro hc)
    refine ⟨d, r, ?_, hd, fun _ => hplain, hread⟩
    rw [multiBasicText, multiBasicChars, if_pos hc, if_pos hrun, String.toList_join,
      List.flatMap_cons, htext, multiBasicText, String.toList_join]
  · by_cases hbreak : c = '\n'
    · subst hbreak
      refine ⟨'\n', [], ?_, by decide, fun h => absurd rfl h, fun acc s => ?_⟩
      · rw [multiBasicText, multiBasicChars, if_neg hc, if_pos rfl, String.toList_join,
          List.flatMap_cons, multiBasicText, String.toList_join]
        rfl
      · rw [List.cons_append, List.nil_append, multiBasic?]
    · refine ⟨d, r, ?_, hd, fun _ => hplain, hread⟩
      rw [multiBasicText, multiBasicChars, if_neg hc, if_neg hbreak, String.toList_join,
        List.flatMap_cons, htext, multiBasicText, String.toList_join]

/-- After a quote there are not two more, unless nothing but quotes is left. -/
theorem not_quotes_prefix_text {run : Nat} (hpos : 0 < run) (hrun : run ≤ 2) (hnil : cs ≠ [])
    (hlast : ¬(cs = ['"'] ∧ run = 1)) (s : Rest) :
    ¬['"', '"'] <+: multiBasicText run cs ++ s := by
  obtain ⟨c, cs, rfl⟩ := List.exists_cons_of_ne_nil hnil
  by_cases hquote : c ≠ '"' ∨ run = 2
  · obtain ⟨d, r, htext, hd, _⟩ := multiBasicText_cons hquote cs
    rw [htext, List.cons_append, List.cons_append, List.cons_prefix_cons]
    exact fun h => hd h.1.symm
  · obtain ⟨rfl, hne⟩ : c = '"' ∧ run ≠ 2 := by
      simpa only [not_or, not_not] using hquote
    obtain rfl : run = 1 := by omega
    obtain ⟨c, cs, rfl⟩ := List.exists_cons_of_ne_nil
      (show cs ≠ [] from fun heq => hlast ⟨heq ▸ rfl, rfl⟩)
    obtain ⟨d, r, htext, hd, _⟩ := multiBasicText_cons (c := c)
      (show c ≠ '"' ∨ 2 = 2 from Or.inr rfl) cs
    rw [multiBasicText_quote (by decide), htext, List.cons_append, List.cons_prefix_cons]
    rw [List.cons_append, List.cons_append, List.cons_prefix_cons]
    exact fun h => hd h.2.1.symm

theorem exists_multiBasicText_append (h : '\n' ∉ cs) (s : Rest) :
    ∃ c r, multiBasicText 0 cs ++ '"' :: s = c :: r ∧ isPlain c = true := by
  cases cs with
  | nil => exact ⟨'"', s, rfl, by decide⟩
  | cons c cs =>
      by_cases hquote : c = '"'
      · subst hquote
        rw [multiBasicText_quote (by decide)]
        exact ⟨'"', _, rfl, by decide⟩
      · obtain ⟨d, r, htext, _, hplain, _⟩ := multiBasicText_cons
          (show c ≠ '"' ∨ 0 = 2 from Or.inl hquote) cs
        rw [htext]
        exact ⟨d, _, rfl, hplain fun heq => h (heq ▸ List.mem_cons_self)⟩

theorem multiBasic?_text {run : Nat} (hrun : run ≤ 2) (hs : s.head? ≠ some '"') (acc : Rest) :
    multiBasic? acc (multiBasicText run cs ++ '"' :: '"' :: '"' :: s) =
      some (String.ofList (acc.reverse ++ cs), s) := by
  induction cs generalizing run acc with
  | nil => exact multiBasic?_close (Nat.zero_le 2) hs acc
  | cons c cs ih =>
      by_cases hquote : c ≠ '"' ∨ run = 2
      · obtain ⟨d, r, htext, _, _, hread⟩ := multiBasicText_cons hquote cs
        rw [htext, List.append_assoc, hread, ih (Nat.zero_le 2), List.reverse_cons,
          List.append_assoc]
        rfl
      · obtain ⟨rfl, hne⟩ : c = '"' ∧ run ≠ 2 := by
          simpa only [not_or, not_not] using hquote
        have hlt : run < 2 := Nat.lt_of_le_of_ne hrun hne
        rw [multiBasicText_quote hlt]
        by_cases hnil : cs = []
        · subst hnil
          exact multiBasic?_close (n := 1) (by decide) hs acc
        by_cases hlast : cs = ['"'] ∧ run = 0
        · obtain ⟨rfl, rfl⟩ := hlast
          rw [multiBasicText_quote (by decide)]
          exact multiBasic?_close (n := 2) (by decide) hs acc
        · have hprefix := not_quotes_prefix_text (Nat.succ_pos run) hlt hnil
            (fun heq => hlast ⟨heq.1, Nat.succ.inj heq.2⟩) ('"' :: '"' :: '"' :: s)
          rw [List.cons_append, multiBasic?_quote hprefix, ih hlt, List.reverse_cons,
            List.append_assoc]
          rfl

/-! ## Rows of quotes -/

theorem le_longestRun_step (q : Char) (cs : List Char) (p : Nat × Nat) :
    p.1 ≤ (cs.foldl (fun (best, now) c => if c = q then (max best (now + 1), now + 1)
      else (best, 0)) p).1 := by
  induction cs generalizing p with
  | nil => exact Nat.le_refl p.1
  | cons c cs ih =>
      rw [List.foldl_cons]
      refine Nat.le_trans ?_ (ih _)
      obtain ⟨best, now⟩ := p
      dsimp only
      by_cases hc : c = q
      · rw [if_pos hc]
        exact Nat.le_max_left best (now + 1)
      · rw [if_neg hc]

theorem not_infix_of_longestRun_le {q : Char} (h : longestRun q cs ≤ 2) :
    ¬[q, q, q] <:+: cs := by
  rintro ⟨before, after, rfl⟩
  rw [longestRun, List.foldl_append, List.foldl_append] at h
  have hthree := Nat.le_trans (le_longestRun_step q after _) h
  simp only [List.foldl_cons, List.foldl_nil, if_true] at hthree
  omega

theorem multiLiteral?_plain (hquote : c ≠ '\'') (h : c = '\n' ∨ isPlain c = true) (acc s : Rest) :
    multiLiteral? acc (c :: s) = multiLiteral? (c :: acc) s := by
  rcases h with rfl | hplain
  · rw [multiLiteral?]
  · have hbreak : c ≠ '\n' := by
      rintro rfl
      exact absurd hplain (by decide)
    have hreturn : c ≠ '\r' := by
      rintro rfl
      exact absurd hplain (by decide)
    rw [multiLiteral?]
    · rw [if_pos hplain]
    · exact fun _ heq _ => hquote heq
    · exact fun _ heq _ => hquote heq
    · exact fun _ heq _ => hquote heq
    · exact hbreak
    · exact fun _ heq _ => hreturn heq

theorem multiLiteral?_quote (h : ¬['\'', '\''] <+: s) (acc : Rest) :
    multiLiteral? acc ('\'' :: s) = multiLiteral? ('\'' :: acc) s := by
  have hne : ∀ r, s ≠ '\'' :: '\'' :: r := by
    rintro r rfl
    exact h ⟨r, rfl⟩
  rw [multiLiteral?]
  · rfl
  · exact fun r _ heq => hne _ heq
  · exact fun r _ heq => hne _ heq
  · exact fun r _ heq => hne _ heq
  · exact fun heq => absurd heq (by decide)
  · exact fun r heq _ => absurd heq (by decide)

theorem multiLiteral?_close {n : Nat} (hn : n ≤ 2) (hs : s.head? ≠ some '\'') (acc : Rest) :
    multiLiteral? acc (List.replicate n '\'' ++ '\'' :: '\'' :: '\'' :: s) =
      some (String.ofList (acc.reverse ++ List.replicate n '\''), s) := by
  have hne : ∀ r, s ≠ '\'' :: r := by
    rintro r rfl
    exact hs rfl
  interval_cases n
  · change multiLiteral? acc ('\'' :: '\'' :: '\'' :: s) = _
    rw [multiLiteral?, List.replicate_zero, List.append_nil]
    · exact fun r heq => hne _ heq
    · exact fun r heq => hne _ heq
  · change multiLiteral? acc ('\'' :: '\'' :: '\'' :: '\'' :: s) = _
    rw [multiLiteral?, List.reverse_cons]
    · rfl
    · exact fun r heq => hne _ heq
  · change multiLiteral? acc ('\'' :: '\'' :: '\'' :: '\'' :: '\'' :: s) = _
    rw [multiLiteral?, List.reverse_cons, List.reverse_cons, List.append_assoc]
    rfl

theorem multiLiteral?_append (hplain : ∀ c ∈ cs, c = '\n' ∨ isPlain c = true)
    (hrow : ¬['\'', '\'', '\''] <:+: cs) (hs : s.head? ≠ some '\'') (acc : Rest) :
    multiLiteral? acc (cs ++ '\'' :: '\'' :: '\'' :: s) =
      some (String.ofList (acc.reverse ++ cs), s) := by
  induction cs generalizing acc with
  | nil => exact multiLiteral?_close (Nat.zero_le 2) hs acc
  | cons c cs ih =>
      have hrest := ih (fun d hd => hplain d (List.mem_cons_of_mem c hd))
        fun h => hrow (h.trans (List.suffix_cons c cs).isInfix)
      have hpush : acc.reverse ++ c :: cs = (c :: acc).reverse ++ cs := by
        rw [List.reverse_cons, List.append_assoc]
        rfl
      by_cases hquote : c = '\''
      · subst hquote
        by_cases hnil : cs = []
        · subst hnil
          exact multiLiteral?_close (n := 1) (by decide) hs acc
        by_cases hlast : cs = ['\'']
        · subst hlast
          exact multiLiteral?_close (n := 2) (by decide) hs acc
        · have hprefix : ¬['\'', '\''] <+: cs ++ '\'' :: '\'' :: '\'' :: s := by
            intro h
            obtain ⟨c₁, cs, rfl⟩ := List.exists_cons_of_ne_nil hnil
            rw [List.cons_append, List.cons_prefix_cons] at h
            obtain ⟨rfl, h⟩ := h
            cases cs with
            | nil => exact hlast rfl
            | cons c₂ cs =>
                rw [List.cons_append, List.cons_prefix_cons] at h
                obtain ⟨rfl, _⟩ := h
                exact hrow ⟨[], cs, rfl⟩
          rw [List.cons_append, multiLiteral?_quote hprefix, hrest, hpush]
      · rw [List.cons_append, multiLiteral?_plain hquote (hplain c List.mem_cons_self),
          hrest, hpush]

/-! ## All styles -/

theorem dropNewline_firstBreak {u : Rest}
    (h : '\n' ∉ cs → ∃ c r, u = c :: r ∧ isPlain c = true) :
    dropNewline ((firstBreak cs).toList ++ u) = u := by
  unfold firstBreak
  by_cases hbreak : '\n' ∈ cs
  · rw [if_pos hbreak]
    rfl
  · obtain ⟨c, r, rfl, hplain⟩ := h hbreak
    rw [if_neg hbreak]
    change dropNewline (c :: r) = c :: r
    rw [dropNewline, newline?]
    · rfl
    · rintro _ heq
      rw [(List.cons.inj heq).1] at hplain
      exact absurd hplain (by decide)
    · rintro _ heq
      rw [(List.cons.inj heq).1] at hplain
      exact absurd hplain (by decide)

theorem Style.literal_of_ofText (h : Style.ofText cs = .literal) :
    cs.any isControl = false ∧ '\'' ∉ cs ∧ '\n' ∉ cs := by
  unfold Style.ofText at h
  split at h
  · split at h <;> cases h
  · next hcontrol =>
      split at h
      · cases h
      · split at h
        · next hquote => exact ⟨Bool.not_eq_true _ ▸ hcontrol, hquote⟩
        · split at h
          · cases h
          · split at h
            · cases h
            · split at h <;> cases h

theorem Style.multiLiteral_of_ofText (h : Style.ofText cs = .multiLiteral) :
    cs.any isControl = false ∧ longestRun '\'' cs ≤ 2 := by
  unfold Style.ofText at h
  split at h
  · split at h <;> cases h
  · next hcontrol =>
      split at h
      · cases h
      · split at h
        · cases h
        · split at h
          · cases h
          · split at h
            · next hrun => exact ⟨Bool.not_eq_true _ ▸ hcontrol, hrun⟩
            · split at h <;> cases h

theorem string?_double (h : ¬['"', '"'] <+: s) : string? ('"' :: s) = basic? [] s := by
  rw [string?]
  rintro r rfl
  exact h ⟨r, rfl⟩

theorem string?_single (h : ¬['\'', '\''] <+: s) : string? ('\'' :: s) = literal? [] s := by
  rw [string?]
  rintro r rfl
  exact h ⟨r, rfl⟩

theorem not_quotes_prefix_of_head? {q : Char} (h : s.head? ≠ some q) : ¬[q, q] <+: q :: s := by
  rintro ⟨r, heq⟩
  exact h (by rw [← (List.cons.inj heq).2]; rfl)

theorem string?_basic (cs : List Char) (hs : s.head? ≠ some '"') :
    string? ('"' :: ((String.join (cs.map escapedChar)).toList ++ '"' :: s)) =
      some (String.ofList cs, s) := by
  have hprefix : ¬['"', '"'] <+: (String.join (cs.map escapedChar)).toList ++ '"' :: s := by
    cases cs with
    | nil => exact not_quotes_prefix_of_head? hs
    | cons c cs =>
        rw [String.toList_join, List.flatMap_map, List.flatMap_cons]
        rcases escapedChar_cases c with ⟨e, htext, _⟩ | ⟨htext, hbare⟩
        · rw [htext, List.cons_append, List.cons_append, List.cons_prefix_cons]
          exact fun h => absurd h.1 (by decide)
        · rw [htext, List.cons_append, List.cons_append, List.cons_prefix_cons]
          exact fun h => hbare.ne_quote h.1.symm
  rw [string?_double hprefix, basic?_escaped]
  rfl

theorem string?_literal (h : ∀ c ∈ cs, c ≠ '\'' ∧ isPlain c = true) (hs : s.head? ≠ some '\'') :
    string? ('\'' :: (cs ++ '\'' :: s)) = some (String.ofList cs, s) := by
  have hprefix : ¬['\'', '\''] <+: cs ++ '\'' :: s := by
    cases cs with
    | nil => exact not_quotes_prefix_of_head? hs
    | cons c cs =>
        rw [List.cons_append, List.cons_prefix_cons]
        exact fun heq => (h c List.mem_cons_self).1 heq.1.symm
  rw [string?_single hprefix, literal?_append h]
  rfl

theorem string?_multiBasic (cs : List Char) (hs : s.head? ≠ some '"') :
    string? ('"' :: '"' :: '"' :: ((firstBreak cs).toList ++
      (multiBasicText 0 cs ++ '"' :: '"' :: '"' :: s))) = some (String.ofList cs, s) := by
  rw [string?, dropNewline_firstBreak fun h => exists_multiBasicText_append h ('"' :: '"' :: s)]
  exact multiBasic?_text (Nat.zero_le 2) hs []

theorem string?_multiLiteral (hplain : ∀ c ∈ cs, c = '\n' ∨ isPlain c = true)
    (hrow : ¬['\'', '\'', '\''] <:+: cs) (hs : s.head? ≠ some '\'') :
    string? ('\'' :: '\'' :: '\'' :: ((firstBreak cs).toList ++
      (cs ++ '\'' :: '\'' :: '\'' :: s))) = some (String.ofList cs, s) := by
  have hfirst : '\n' ∉ cs →
      ∃ c r, cs ++ '\'' :: '\'' :: '\'' :: s = c :: r ∧ isPlain c = true := by
    intro hbreak
    cases cs with
    | nil => exact ⟨'\'', _, rfl, by decide⟩
    | cons c cs =>
        refine ⟨c, _, rfl, (hplain c List.mem_cons_self).resolve_left ?_⟩
        exact fun heq => hbreak (heq ▸ List.mem_cons_self)
  rw [string?, dropNewline_firstBreak hfirst]
  exact multiLiteral?_append hplain hrow hs []

/-- A string is read from the text that is written for it. -/
theorem string?_stringText (text : String) (hs : EndsString s) :
    string? ((stringText text).toList ++ s) = some (text, s) := by
  have htext : String.ofList text.toList = text := String.ofList_toList
  have hplain : text.toList.any isControl = false →
      ∀ c ∈ text.toList, c = '\n' ∨ isPlain c = true := by
    intro hcontrol c hc
    by_cases hbreak : c = '\n'
    · exact Or.inl hbreak
    · have hall := List.any_eq_false.mp hcontrol c hc
      exact Or.inr (isPlain_of_not_isControl (Bool.not_eq_true _ ▸ hall) hbreak)
  unfold stringText
  dsimp only
  cases hstyle : Style.ofText text.toList with
  | basic =>
      have hread := string?_basic text.toList hs.double
      rw [htext] at hread
      simp only [String.toList_append, List.append_assoc]
      exact hread
  | literal =>
      obtain ⟨hcontrol, hquote, hbreak⟩ := Style.literal_of_ofText hstyle
      have hall : ∀ c ∈ text.toList, c ≠ '\'' ∧ isPlain c = true := by
        intro c hc
        constructor
        · rintro rfl
          exact hquote hc
        · apply (hplain hcontrol c hc).resolve_left
          rintro rfl
          exact hbreak hc
      have hread := string?_literal hall hs.single
      rw [htext] at hread
      simp only [String.toList_append, List.append_assoc]
      exact hread
  | multiBasic =>
      have hread := string?_multiBasic text.toList hs.double
      rw [htext] at hread
      simp only [String.toList_append, List.append_assoc]
      exact hread
  | multiLiteral =>
      obtain ⟨hcontrol, hrun⟩ := Style.multiLiteral_of_ofText hstyle
      have hread := string?_multiLiteral (hplain hcontrol) (not_infix_of_longestRun_le hrun)
        hs.single
      rw [htext] at hread
      simp only [String.toList_append, List.append_assoc]
      exact hread

end SettingsStore.Toml
