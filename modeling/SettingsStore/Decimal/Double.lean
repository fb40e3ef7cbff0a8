import SettingsStore.Decimal.Power

/-!
# Double precision numbers

The finite numbers of the 64-bit binary format, as integers: a sign, a mantissa below `2 ^ 53` and an
exponent of two that is at least -1074. Every operation is exact on integers and rounds once, to the
nearest number of the format and in a tie to the one with an even mantissa; what would be beyond
the largest number of the format has no value here.

`ofDecimal` reads `significand * 10 ^ exponent` in two roundings: the significand becomes a number
of the format and is then multiplied or divided by the nearest power of ten.
-/

namespace SettingsStore.Decimal

structure Double where
  negative : Bool
  mantissa : Nat
  exponent : Int
deriving DecidableEq, Repr

namespace Double

/-- The number of mantissa bits. -/
def precision : Nat := 53

/-- The exponent of the smallest positive number. -/
def minExponent : Int := -1074

/-- The exponent of the largest finite number. -/
def maxExponent : Int := 971

def zero (negative : Bool) : Double := ⟨negative, 0, minExponent⟩

def isZero (x : Double) : Bool := x.mantissa == 0

/-- Equal as numbers: the two zeros are one number. -/
def same (x y : Double) : Bool := x == y || (x.isZero && y.isZero)

/-- The quotient rounded to the nearest integer, a tie to the even one. -/
def roundDiv (num den : Nat) : Nat :=
  let q := num / den
  let r := num % den
  if 2 * r < den then q
  else if den < 2 * r then q + 1
  else if q % 2 = 0 then q else q + 1

/-- A fraction scaled by a power of two, as numerator and denominator. -/
def scaled (num den : Nat) (exponent : Int) : Nat × Nat :=
  if 0 ≤ exponent then (num <<< exponent.toNat, den) else (num, den <<< (-exponent).toNat)

/-- The mantissa and exponent of the number nearest to a fraction. -/
def ofRatio? (negative : Bool) (num den : Nat) : Option Double :=
  if num = 0 then some (zero negative)
  else
    let guess : Int := (num.log2 : Int) - den.log2 - precision
    let low := max minExponent guess
    let (n, d) := scaled num den (-low)
    let e := if n / d < Word.count precision then low else low + 1
    let (n, d) := scaled num den (-e)
    let m := roundDiv n d
    let (m, e) := if m = Word.count precision then (Word.count (precision - 1), e + 1) else (m, e)
    if maxExponent < e then none else some ⟨negative, m, e⟩

/-- The product of the absolute values, with the sign of the first. -/
def mul? (x y : Double) : Option Double :=
  let (n, d) := scaled (x.mantissa * y.mantissa) 1 (x.exponent + y.exponent)
  ofRatio? x.negative n d

/-- The quotient of the absolute values, with the sign of the first. -/
def div? (x y : Double) : Option Double :=
  let (n, d) := scaled x.mantissa y.mantissa (x.exponent - y.exponent)
  ofRatio? x.negative n d

def powerOfTen? (k : Nat) : Option Double := ofRatio? false (tenTo k) 1

/-- The largest power of ten in the format is this one. -/
def maxPowerOfTen : Nat := 308

/-- Divides by a power of ten, in steps of the largest power that the format has. -/
def shrink (x : Double) (k : Nat) : Option Double :=
  if x.isZero then some x
  else if k ≤ maxPowerOfTen then do x.div? (← powerOfTen? k)
  else do (← x.div? (← powerOfTen? maxPowerOfTen)).shrink (k - maxPowerOfTen)
termination_by k
decreasing_by simp only [maxPowerOfTen] at *; omega

/-- The number written as an integer times a power of ten; `none` beyond the largest number. -/
def ofDecimal (negative : Bool) (significand : Nat) (exponent : Int) : Option Double := do
  let x ← ofRatio? negative significand 1
  if exponent < 0 then x.shrink (-exponent).toNat
  else if exponent.toNat ≤ maxPowerOfTen then x.mul? (← powerOfTen? exponent.toNat)
  else if x.isZero then some x
  else none

end Double

end SettingsStore.Decimal
