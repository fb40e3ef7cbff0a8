import SettingsStore.Proofs.Toml.Scalar
import SettingsStore.Toml.Reader

/-!
# Statements that were written

Scalars and lists of strings are values, and a bare key with a value is a statement. A text of
statements, one a line, is read as these statements; readers bound the number of steps by the length
of the text, so a text also has at least as many characters as statements.
-/

namespace SettingsStore.Toml

variable {s r : Rest} {depth : Nat}

/-! ## Values -/

theorem value?_of_scalar {v : Scalar} (h : scalar? s = some (v, r)) (depth : Nat) :
    value? depth s = some (.scalar v, r) := by
  have hlist : ∀ u, s ≠ '[' :: u := by
    rintro u rfl
    rw [scalar?_eq_none (by decide)] at h
    cases h
  have htable : ∀ u, s ≠ '\x7b' :: u := by
    rintro u rfl
    rw [scalar?_eq_none (by decide)] at h
    cases h
  rw [value?, h]
  · rfl
  · exact fun u _ heq => hlist u heq
  · exact fun u _ heq => htable u heq
  · exact fun _ u _ heq => hlist u heq
  · exact fun _ u _ heq => htable u heq

theorem skipSpace_of_value? {p : Item × Rest} (h : value? depth s = some p) : skipSpace s = s := by
  cases s with
  | nil => rfl
  | cons c s =>
      by_cases hc : isSpace c = true
      · have hspace : c = ' ' ∨ c = '\t' := by
          simpa only [isSpace, Bool.or_eq_true, beq_iff_eq] using hc
        have hscalar : value? depth (c :: s) =
            (scalar? (c :: s)).map fun p => (.scalar p.1, p.2) := by
          rcases hspace with rfl | rfl <;> cases depth <;> rfl
        rw [hscalar, scalar?_eq_none (hspace.imp_right Or.inl)] at h
        cases h
      · exact List.dropWhile_cons_of_neg hc

theorem endsString_of_not_quote {c : Char} (h : c ≠ '"' ∧ c ≠ '\'') (s : Rest) :
    EndsString (c :: s) :=
  ⟨fun heq => h.1 (Option.some.inj heq), fun heq => h.2 (Option.some.inj heq)⟩

theorem skipBlank_stringText (text : String) (s : Rest) :
    skipBlank false ((stringText text).toList ++ s) = (stringText text).toList ++ s := by
  obtain ⟨q, u, htext, hq⟩ := exists_stringText text
  rw [htext, List.cons_append]
  rcases hq with rfl | rfl <;> rfl

theorem items?_blank (value? : Rest → Option (Item × Rest)) (count : Nat) (s : Rest) :
    items? value? count (' ' :: s) = items? value? count s := by
  cases count <;> rfl

theorem items?_stringText (text : String) (count depth : Nat) {u : Rest} (hu : EndsString u) :
    items? (value? depth) (count + 1) ((stringText text).toList ++ u) =
      match skipBlank false u with
      | ',' :: s => do
        let (xs, s) ← items? (value? depth) count s
        return (.scalar (.str text) :: xs, s)
      | ']' :: s => return ([.scalar (.str text)], s)
      | _ => none := by
  have hread := value?_of_scalar (scalar?_stringText text hu) depth
  rw [items?, skipBlank_stringText]
  split
  · next heq =>
      obtain ⟨q, r, htext, hq⟩ := exists_stringText text
      rw [htext] at heq
      have hbracket : q = ']' := (List.cons.inj heq).1
      rcases hq with rfl | rfl <;> exact absurd hbracket (by decide)
  · rw [hread]
    rfl

def stringItems (texts : List String) : List Item := texts.map fun text => .scalar (.str text)

theorem items?_strings {texts : List String} {count : Nat} (hne : texts ≠ [])
    (hcount : texts.length ≤ count) (depth : Nat) (s : Rest) :
    items? (value? depth) count
        ((Text.join ", " (texts.map stringText)).toList ++ ']' :: s) =
      some (stringItems texts, s) := by
  induction texts generalizing count with
  | nil => exact absurd rfl hne
  | cons text texts ih =>
      obtain ⟨count, rfl⟩ : ∃ k, count = k + 1 :=
        Nat.exists_eq_succ_of_ne_zero (Nat.ne_of_gt (Nat.lt_of_lt_of_le (Nat.succ_pos _) hcount))
      cases texts with
      | nil =>
          change items? _ _ ((stringText text).toList ++ ']' :: s) = _
          rw [items?_stringText text count depth (endsString_of_not_quote (by decide) s)]
          rfl
      | cons next texts =>
          have hrest := ih (List.cons_ne_nil _ _) (Nat.le_of_succ_le_succ hcount)
          have htext : (Text.join ", " ((text :: next :: texts).map stringText)).toList =
              (stringText text).toList ++ ',' :: ' ' ::
                (Text.join ", " ((next :: texts).map stringText)).toList := by
            change (stringText text ++ ", " ++ Text.join ", " _).toList = _
            rw [String.toList_append, String.toList_append, List.append_assoc]
            rfl
          rw [htext, List.append_assoc, List.cons_append, List.cons_append,
            items?_stringText text count depth (endsString_of_not_quote (by decide) _)]
          change (items? (value? depth) count (' ' :: _)).bind _ = _
          rw [items?_blank, hrest]
          rfl

theorem length_le_join (texts : List String) :
    texts.length ≤ (Text.join ", " (texts.map stringText)).toList.length := by
  induction texts with
  | nil => exact Nat.le_refl 0
  | cons text texts ih =>
      obtain ⟨q, u, htext, _⟩ := exists_stringText text
      cases texts with
      | nil =>
          change 1 ≤ (stringText text).toList.length
          rw [htext]
          exact Nat.succ_pos u.length
      | cons next texts =>
          change _ ≤ (stringText text ++ ", " ++ Text.join ", " _).toList.length
          rw [String.toList_append, String.toList_append, htext]
          simp only [List.length_append, List.length_cons] at ih ⊢
          omega

theorem value?_stringsText (texts : List String) (depth : Nat) (s : Rest) :
    value? (depth + 1) ((stringsText texts).toList ++ s) =
      some (.list (stringItems texts), s) := by
  have htext : (stringsText texts).toList ++ s =
      '[' :: ((Text.join ", " (texts.map stringText)).toList ++ ']' :: s) := by
    rw [stringsText, String.toList_append, String.toList_append, List.append_assoc,
      List.append_assoc]
    rfl
  have hitems : items? (value? depth)
      (((Text.join ", " (texts.map stringText)).toList ++ ']' :: s).length + 1)
      ((Text.join ", " (texts.map stringText)).toList ++ ']' :: s) =
        some (stringItems texts, s) := by
    by_cases hne : texts = []
    · subst hne
      rfl
    · refine items?_strings hne ?_ depth s
      have hlength := length_le_join texts
      rw [List.length_append]
      omega
  rw [htext, value?, hitems]
  rfl

/-! ## Keys -/

structure IsKey (name : String) : Prop where
  bare : ∀ c ∈ name.toList, isBareKey c = true
  ne_nil : name.toList ≠ []

/-- Computes whether a name can stand as a key. -/
def isKey (name : String) : Bool := name.toList.all isBareKey && !name.toList.isEmpty

theorem isKey_iff {name : String} : isKey name = true ↔ IsKey name := by
  simp only [isKey, Bool.and_eq_true, List.all_eq_true, Bool.not_eq_true',
    List.isEmpty_eq_false_iff]
  exact ⟨fun h => ⟨h.1, h.2⟩, fun h => ⟨h.bare, h.ne_nil⟩⟩

theorem IsKey.exists_cons {name : String} (h : IsKey name) :
    ∃ c cs, name.toList = c :: cs ∧ isBareKey c = true := by
  obtain ⟨c, cs, hname⟩ := List.exists_cons_of_ne_nil h.ne_nil
  exact ⟨c, cs, hname, h.bare c (hname ▸ List.mem_cons_self)⟩

theorem isBareKey_ne {c d : Char} (h : isBareKey c = true) (hd : isBareKey d = false) : c ≠ d := by
  rintro rfl
  rw [h] at hd
  cases hd

theorem isSpace_of_isBareKey {c : Char} (h : isBareKey c = true) : isSpace c = false := by
  have hspace := isBareKey_ne h (d := ' ') (by decide)
  have htab := isBareKey_ne h (d := '\t') (by decide)
  simp only [isSpace, Bool.or_eq_false_iff, beq_eq_false_iff_ne]
  exact ⟨hspace, htab⟩

theorem name?_append {name : String} (h : IsKey name) {c : Char} (hc : isBareKey c = false)
    (s : Rest) : name? (name.toList ++ c :: s) = some (name, c :: s) := by
  have htake : (name.toList ++ c :: s).takeWhile isBareKey = name.toList := by
    rw [List.takeWhile_append_of_pos h.bare, List.takeWhile_cons_of_neg (Bool.not_eq_true _ ▸ hc),
      List.append_nil]
  have hdrop : (name.toList ++ c :: s).dropWhile isBareKey = c :: s := by
    rw [List.dropWhile_append_of_pos h.bare, List.dropWhile_cons_of_neg (Bool.not_eq_true _ ▸ hc)]
  have hempty : ¬name.toList.isEmpty = true := fun heq => h.ne_nil (List.isEmpty_iff.mp heq)
  obtain ⟨d, ds, hname, hd⟩ := h.exists_cons
  have hquote : ∀ q, isBareKey q = false → ∀ r, name.toList ++ c :: s ≠ q :: r := by
    intro q hq r heq
    rw [hname, List.cons_append] at heq
    exact isBareKey_ne hd hq (List.cons.inj heq).1
  rw [name?]
  · simp only [htake, hdrop, if_neg hempty, String.ofList_toList]
  · exact hquote '"' (by decide)
  · exact hquote '\'' (by decide)

theorem path?_append {name : String} (h : IsKey name) {c : Char} (hc : isBareKey c = false)
    (hdot : ∀ r, skipSpace (c :: s) ≠ '.' :: r) :
    path? (name.toList ++ c :: s) = some (⟨[], name⟩, skipSpace (c :: s)) := by
  have hskip : skipSpace (name.toList ++ c :: s) = name.toList ++ c :: s := by
    obtain ⟨d, ds, hname, hd⟩ := h.exists_cons
    rw [hname, skipSpace, List.cons_append, List.dropWhile_cons_of_neg]
    rw [isSpace_of_isBareKey hd]
    exact Bool.false_ne_true
  have hnames : names? maxNames (name.toList ++ c :: s) =
      some ((name, []), skipSpace (c :: s)) := by
    rw [maxNames, names?, hskip, name?_append h hc]
    simp only [Option.bind_eq_bind, Option.bind_some]
    rfl
  rw [path?, hnames]
  rfl

/-! ## Statements -/

def headerText (name : String) : List Char := '[' :: (name.toList ++ [']', '\n'])

def pairText (name text : String) : List Char :=
  name.toList ++ [' ', '=', ' '] ++ text.toList ++ ['\n']

theorem statement?_header {name : String} (h : IsKey name) (s : Rest) :
    statement? (headerText name ++ s) = some (.header ⟨[], name⟩, '\n' :: s) := by
  have hpath := path?_append (s := '\n' :: s) h (c := ']') (by decide)
    (fun r heq => absurd (List.cons.inj heq).1 (by decide))
  have htext : headerText name ++ s = '[' :: (name.toList ++ ']' :: '\n' :: s) := by
    rw [headerText, List.cons_append, List.append_assoc]
    rfl
  rw [htext, statement?, hpath]
  · rfl
  · intro r heq
    obtain ⟨c, cs, hname, hc⟩ := h.exists_cons
    rw [hname] at heq
    exact isBareKey_ne hc (by decide) (List.cons.inj heq).1

theorem statement?_pair {name text : String} {x : Item} (h : IsKey name)
    (hvalue : value? maxDepth (text.toList ++ '\n' :: s) = some (x, '\n' :: s)) :
    statement? (pairText name text ++ s) = some (.pair ⟨[], name⟩ x, '\n' :: s) := by
  have hpath := path?_append (s := '=' :: ' ' :: (text.toList ++ '\n' :: s)) h (c := ' ')
    (by decide) (fun r heq => absurd (List.cons.inj heq).1 (by decide))
  have htext : pairText name text ++ s =
      name.toList ++ ' ' :: '=' :: ' ' :: (text.toList ++ '\n' :: s) := by
    simp only [pairText, List.append_assoc, List.cons_append, List.nil_append]
  have hskip : skipSpace (' ' :: (text.toList ++ '\n' :: s)) = text.toList ++ '\n' :: s :=
    skipSpace_of_value? hvalue
  have hpair : pair? (value? maxDepth) (pairText name text ++ s) =
      some ((⟨[], name⟩, x), '\n' :: s) := by
    rw [htext, pair?, hpath]
    change (value? maxDepth (skipSpace (' ' :: (text.toList ++ '\n' :: s)))).bind _ = _
    rw [hskip, hvalue]
    rfl
  obtain ⟨c, cs, hname, hc⟩ := h.exists_cons
  have hbracket : ∀ r, pairText name text ++ s ≠ '[' :: r := by
    intro r heq
    rw [htext, hname, List.cons_append] at heq
    exact isBareKey_ne hc (by decide) (List.cons.inj heq).1
  rw [statement?, hpair]
  · rfl
  · exact fun r heq => hbracket _ heq
  · exact fun r heq => hbracket _ heq

/-- A text that is read as some statements, whatever follows it. -/
structure IsText (t : List Char) (statements : List Statement) : Prop where
  read : ∀ count s, statements? (count + statements.length) (t ++ s) =
    (statements? count s).map (statements ++ ·)
  length_le : statements.length ≤ t.length

namespace IsText

variable {t t' : List Char} {ss ss' : List Statement}

theorem nil : IsText [] [] where
  read count s := by
    rw [List.nil_append, List.length_nil, Nat.add_zero]
    exact (Option.map_id' (x := statements? count s)).symm
  length_le := Nat.le_refl 0

theorem append (h : IsText t ss) (h' : IsText t' ss') : IsText (t ++ t') (ss ++ ss') where
  read count s := by
    rw [List.length_append, List.append_assoc, Nat.add_comm ss.length, ← Nat.add_assoc, h.read,
      h'.read, Option.map_map]
    refine congrArg (Option.map · (statements? count s)) (funext fun more => ?_)
    exact (List.append_assoc ss ss' more).symm
  length_le := by
    have hle := h.length_le
    have hle' := h'.length_le
    rw [List.length_append, List.length_append]
    omega

theorem newline : IsText ['\n'] [] where
  read count s := by
    have hread : statements? count ('\n' :: s) = statements? count s := by
      cases count with
      | zero => rfl
      | succ count =>
          have hskip : skipBlank false ('\n' :: s) = skipBlank false s := rfl
          rw [statements?, statements?, hskip]
    exact hread.trans (Option.map_id' (x := statements? count s)).symm
  length_le := Nat.zero_le 1

/-- A statement that ends at the end of a line, and does not begin with what can be skipped. -/
theorem line {statement : Statement} (hne : t ≠ [])
    (hskip : ∀ s, skipBlank false (t ++ s) = t ++ s)
    (hread : ∀ s, statement? (t ++ s) = some (statement, '\n' :: s)) : IsText t [statement] where
  read count s := by
    change statements? (count + 1) (t ++ s) = _
    rw [statements?, hskip]
    split
    · next heq => exact absurd (List.append_eq_nil_iff.mp heq).1 hne
    · rw [hread, Option.map_eq_bind]
      rfl
  length_le := List.length_pos_iff.mpr hne

theorem header {name : String} (h : IsKey name) :
    IsText (headerText name) [.header ⟨[], name⟩] :=
  line (List.cons_ne_nil _ _) (fun _ => rfl) (statement?_header h)

theorem pair {name text : String} {x : Item} (h : IsKey name)
    (hvalue : ∀ s, value? maxDepth (text.toList ++ '\n' :: s) = some (x, '\n' :: s)) :
    IsText (pairText name text) [.pair ⟨[], name⟩ x] := by
  obtain ⟨c, cs, hname, hc⟩ := h.exists_cons
  have htext : pairText name text = c :: (cs ++ [' ', '=', ' '] ++ text.toList ++ ['\n']) := by
    rw [pairText, hname]
    rfl
  refine line ?_ (fun s => ?_) fun s => statement?_pair h (hvalue s)
  · rw [htext]
    exact List.cons_ne_nil _ _
  · have hspace : ¬isSpace c = true := Bool.not_eq_true _ ▸ isSpace_of_isBareKey hc
    rw [htext, List.cons_append, skipBlank]
    · rw [if_neg (isBareKey_ne hc (by decide)), if_neg Bool.false_ne_true, if_neg hspace,
        if_neg (isBareKey_ne hc (by decide))]
    · exact fun r heq _ => isBareKey_ne hc (by decide) heq

theorem join {α : Type} {text : α → String} {statements : α → List Statement}
    (h : ∀ x, IsText (text x).toList (statements x)) (xs : List α) :
    IsText (Text.join "\n" (xs.map text)).toList (xs.flatMap statements) := by
  induction xs with
  | nil => exact nil
  | cons x xs ih =>
      cases xs with
      | nil =>
          rw [List.flatMap_singleton]
          exact h x
      | cons y xs =>
          have htext : (Text.join "\n" ((x :: y :: xs).map text)).toList =
              (text x).toList ++ (['\n'] ++ (Text.join "\n" ((y :: xs).map text)).toList) := by
            change (text x ++ "\n" ++ Text.join "\n" _).toList = _
            rw [String.toList_append, String.toList_append, List.append_assoc]
            rfl
          rw [htext, List.flatMap_cons]
          exact (h x).append (newline.append ih)

/-- A whole text is read into the tables that its statements make. -/
theorem parse?_eq {text : String} (h : IsText text.toList ss)
    (hmark : text.toList.head? ≠ some byteOrderMark) :
    parse? text = Members.ofStatements ss := by
  have hread := h.read (text.toList.length - ss.length + 1) []
  have hcount : text.toList.length - ss.length + 1 + ss.length = text.toList.length + 1 := by
    have hle := h.length_le
    omega
  have hend : statements? (text.toList.length - ss.length + 1) [] = some [] := rfl
  rw [hcount, List.append_nil, hend, Option.map_some, List.append_nil] at hread
  rw [parse?]
  simp only [if_neg hmark, hread, Option.bind_eq_bind, Option.bind_some]

end IsText

end SettingsStore.Toml
