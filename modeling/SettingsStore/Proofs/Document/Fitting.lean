import SettingsStore.Document.Field
import SettingsStore.Proofs.Document.Reading

/-!
# Values that fit a setting

A value fits a setting if it is of the kind of the setting and, being a number, in the range of its
type. Nothing fits but what values of settings are written as. So what fits is read, and a number of
the right kind that is out of range is not.
-/

namespace SettingsStore

open Json

theorem Kind.isObject_of_accepts {kind : Kind} {j : Json} (h : kind.accepts j = true) :
    j.isObject = false := by
  cases j with
  | obj members => cases kind <;> cases h
  | null | bool | num | str | arr => rfl

namespace LeafType

variable {t : LeafType} {j k : Json}

/-- Whether a value is in the range of a type, if it is an integer and the type has a range. -/
def inRange : LeafType → Json → Bool
  | .word32, .num (.int n) => 0 ≤ n && n < UInt32.size
  | .int64, .num (.int n) => Int64.minValue.toInt ≤ n && n ≤ Int64.maxValue.toInt
  | _, _ => true

theorem inRange_word32_iff {n : Int} :
    inRange .word32 (.num (.int n)) = true ↔ 0 ≤ n ∧ n < 4294967296 := by
  simp [inRange, UInt32.size]

theorem inRange_int64_iff {n : Int} : inRange .int64 (.num (.int n)) = true ↔
    -9223372036854775808 ≤ n ∧ n ≤ 9223372036854775807 := by
  simp [inRange, Int64.toInt_maxValue]

/-! ## What settings are written as -/

theorem sameItems_map_str (ss ss' : List String) :
    sameItems (ss.map .str) (ss'.map .str) = decide (ss = ss') := by
  induction ss generalizing ss' with
  | nil => cases ss' <;> rfl
  | cons s ss ih =>
      cases ss' with
      | nil => rfl
      | cons s' ss' => simp [sameItems, same, ih, Bool.decide_and, beq_eq_decide]

theorem same_toJson (v w : t.Value) : (t.toJson v).same (t.toJson w) = decide (v = w) := by
  cases t with
  | str => exact beq_eq_decide v w
  | optStr =>
      change Option String at v w
      cases v <;> cases w <;> simp [toJson, same, beq_eq_decide]
  | bool => exact beq_eq_decide v w
  | word32 =>
      change UInt32 at v w
      simp only [toJson, same, Number.same, beq_eq_decide, Int.ofNat_inj, UInt32.toNat_inj]
  | int64 =>
      change Int64 at v w
      simp [toJson, same, Number.same, beq_eq_decide, ← Int64.toInt_inj]
  | strList => exact sameItems_map_str v w

theorem isObject_toJson (v : t.Value) : (t.toJson v).isObject = false := by
  cases t with
  | optStr => cases v <;> rfl
  | str | bool | word32 | int64 | strList => rfl

theorem accepts_toJson (v : t.Value) : t.kind.accepts (t.toJson v) = true := by
  cases t with
  | optStr => cases v <;> rfl
  | strList =>
      change List String at v
      change (v.map Json.str).all isString = true
      rw [List.all_map]
      exact List.all_eq_true.mpr fun _ _ => rfl
  | str | bool | word32 | int64 => rfl

/-! ## What fits -/

theorem exists_map_str {items : List Json} (h : items.all isString = true) :
    ∃ ss : List String, items = ss.map .str := by
  induction items with
  | nil => exact ⟨[], rfl⟩
  | cons item items ih =>
      rw [List.all_cons, Bool.and_eq_true] at h
      obtain ⟨ss, rfl⟩ := ih h.2
      cases item with
      | str s => exact ⟨s :: ss, rfl⟩
      | null | bool | num | arr | obj => cases h.1

theorem exists_toJson_eq (hkind : t.kind.accepts j = true) (hrange : t.inRange j = true) :
    ∃ v, t.toJson v = j := by
  cases t with
  | str =>
      cases j with
      | str s => exact ⟨s, rfl⟩
      | null | bool | num | arr | obj => cases hkind
  | optStr =>
      cases j with
      | null => exact ⟨(none : Option String), rfl⟩
      | str s => exact ⟨some s, rfl⟩
      | bool | num | arr | obj => cases hkind
  | bool =>
      cases j with
      | bool b => exact ⟨b, rfl⟩
      | null | str | num | arr | obj => cases hkind
  | word32 =>
      cases j with
      | num n =>
          cases n with
          | double x => cases hkind
          | int n =>
              obtain ⟨hle, hlt⟩ := inRange_word32_iff.mp hrange
              refine ⟨UInt32.ofNat n.toNat, congrArg (Json.num ∘ Number.int) ?_⟩
              rw [UInt32.toNat_ofNat_of_lt' (by unfold UInt32.size; omega)]
              omega
      | null | str | bool | arr | obj => cases hkind
  | int64 =>
      cases j with
      | num n =>
          cases n with
          | double x => cases hkind
          | int n =>
              obtain ⟨hle, hlt⟩ := inRange_int64_iff.mp hrange
              exact ⟨Int64.ofInt n, congrArg (Json.num ∘ Number.int)
                (Int64.toInt_ofInt_of_le (by omega) (by omega))⟩
      | null | str | bool | arr | obj => cases hkind
  | strList =>
      cases j with
      | arr items =>
          obtain ⟨ss, rfl⟩ := exists_map_str hkind
          exact ⟨ss, rfl⟩
      | null | bool | num | str | obj => cases hkind

theorem map_str_eq_of_sameItems {ss : List String} {items : List Json}
    (h : sameItems (ss.map .str) items = true) : ss.map .str = items := by
  induction ss generalizing items with
  | nil =>
      cases items with
      | nil => rfl
      | cons item items => cases h
  | cons s ss ih =>
      cases items with
      | nil => cases h
      | cons item items =>
          rw [List.map_cons, sameItems, Bool.and_eq_true] at h
          rw [List.map_cons, ih h.2]
          cases item with
          | str s' => rw [beq_iff_eq.mp h.1]
          | null | bool | num | arr | obj => cases h.1

/-- What is the same as a value of a kind is that value: only numbers with a fraction can be the
same and yet differ. -/
theorem eq_of_same (hkind : t.kind.accepts j = true) (h : j.same k = true) : j = k := by
  cases j with
  | null => cases k <;> first | rfl | cases h
  | bool b =>
      cases k with
      | bool b' => exact congrArg Json.bool (beq_iff_eq.mp h)
      | null | num | str | arr | obj => cases h
  | num n =>
      cases k with
      | num n' =>
          cases n with
          | double x => cases t <;> cases hkind
          | int n =>
              cases n' with
              | double x => cases h
              | int n' => exact congrArg (Json.num ∘ Number.int) (beq_iff_eq.mp h)
      | null | bool | str | arr | obj => cases h
  | str s =>
      cases k with
      | str s' => exact congrArg Json.str (beq_iff_eq.mp h)
      | null | bool | num | arr | obj => cases h
  | arr items =>
      have hitems : items.all isString = true := by
        cases t with
        | strList => exact hkind
        | str | optStr | bool | word32 | int64 => cases hkind
      obtain ⟨ss, rfl⟩ := exists_map_str hitems
      cases k with
      | arr items' => exact congrArg Json.arr (map_str_eq_of_sameItems h)
      | null | bool | num | str | obj => cases h
  | obj members => cases t <;> cases hkind

/-! ## What is read -/

theorem exists_read_eq_error (hrange : t.inRange j = false) :
    ∃ fault, t.read j.toTree = .error fault := by
  cases t with
  | word32 =>
      cases j with
      | num n =>
          cases n with
          | double x => cases hrange
          | int n =>
              have hout : ¬(0 ≤ n ∧ n < Word.count 32) := fun hin =>
                Bool.false_ne_true (hrange.symm.trans (inRange_word32_iff.mpr hin))
              exact ⟨_, if_neg hout⟩
      | null | bool | str | arr | obj => cases hrange
  | int64 =>
      cases j with
      | num n =>
          cases n with
          | double x => cases hrange
          | int n =>
              have hout : ¬Word.isSigned64 n = true := by
                intro hin
                have hcount : (Word.count 63 : Int) = 9223372036854775808 := rfl
                simp only [Word.isSigned64, Bool.and_eq_true, decide_eq_true_eq, hcount] at hin
                exact Bool.false_ne_true
                  (hrange.symm.trans (inRange_int64_iff.mpr ⟨hin.1, by omega⟩))
              exact ⟨_, if_neg hout⟩
      | null | bool | str | arr | obj => cases hrange
  | str | optStr | bool | strList => cases j <;> cases hrange

theorem isOk_read (hkind : t.kind.accepts j = true) :
    (t.read j.toTree).isOk = t.inRange j := by
  cases hrange : t.inRange j with
  | false =>
      obtain ⟨fault, hread⟩ := exists_read_eq_error hrange
      rw [hread]
      rfl
  | true =>
      obtain ⟨v, rfl⟩ := exists_toJson_eq hkind hrange
      rw [read_toJson]
      rfl

theorem toJson_injective : Function.Injective t.toJson := by
  intro v w h
  have hread := read_toJson v
  rw [h, read_toJson] at hread
  exact (Except.ok.inj hread).symm

theorem toJson_eq_of_read (hkind : t.kind.accepts j = true) {v : t.Value}
    (h : t.read j.toTree = .ok v) : t.toJson v = j := by
  have hrange : t.inRange j = true := by
    rw [← isOk_read hkind, h]
    rfl
  obtain ⟨w, rfl⟩ := exists_toJson_eq hkind hrange
  rw [read_toJson] at h
  rw [Except.ok.inj h]

end LeafType

end SettingsStore
