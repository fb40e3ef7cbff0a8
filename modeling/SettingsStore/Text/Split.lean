/-!
# Splitting text

`splitWhere p` cuts a text at every character that satisfies `p` and keeps the empty pieces, so a
text with `n` such characters has `n + 1` pieces. Joining the pieces with one separator undoes the
cut when all the separators were the same character.
-/

namespace SettingsStore.Text

/-- The pieces between the characters that satisfy `p`. -/
def splitWhere (p : Char → Bool) : List Char → List (List Char)
  | [] => [[]]
  | c :: cs => if p c then [] :: splitWhere p cs else (splitWhere p cs).modifyHead (c :: ·)

theorem splitWhere_ne_nil (p : Char → Bool) (cs : List Char) : splitWhere p cs ≠ [] := by
  induction cs with
  | nil => simp [splitWhere]
  | cons c cs ih => by_cases h : p c <;> simp [splitWhere, h, ih]

theorem splitWhere_of_forall {p : Char → Bool} {cs : List Char} (h : ∀ c ∈ cs, p c = false) :
    splitWhere p cs = [cs] := by
  induction cs with
  | nil => rfl
  | cons c cs ih =>
    simp [splitWhere, h c (by simp), ih fun d hd => h d (by simp [hd])]

theorem splitWhere_append_cons {p : Char → Bool} {c : Char} (hc : p c = true)
    (xs ys : List Char) :
    splitWhere p (xs ++ c :: ys) = splitWhere p xs ++ splitWhere p ys := by
  induction xs with
  | nil => simp [splitWhere, hc]
  | cons x xs ih =>
    by_cases hx : p x
    · simp [splitWhere, hx, ih]
    · obtain ⟨r, rs, hr⟩ := List.exists_cons_of_ne_nil (splitWhere_ne_nil p xs)
      simp [splitWhere, hx, ih, hr]

/-- The pieces of a text between the occurrences of one character. -/
def splitAt (sep : Char) (s : String) : List String :=
  (splitWhere (· == sep) s.toList).map String.ofList

/-- The pieces joined by a separator. -/
def join (sep : String) : List String → String
  | [] => ""
  | [s] => s
  | s :: rest => s ++ sep ++ join sep rest

end SettingsStore.Text
