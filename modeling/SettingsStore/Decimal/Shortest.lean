import SettingsStore.Decimal.Double

/-!
# Shortest decimal text

The decimal text of a double is the one with the fewest significant digits among those that lie in
the interval of reals nearer to that double than to any other. Of several such decimals of one
length the nearest is taken, and of two equally near ones the even one.

Text is positional for magnitudes from `1e-5` up to `1e16` and keeps a digit after the point; other
magnitudes are written with a signed exponent.
-/

namespace SettingsStore.Decimal

namespace Double

/-- Reals that round to a positive double, as numerators over one denominator. The ends belong to
the interval when the mantissa is even. -/
structure Neighbourhood where
  low : Nat
  value : Nat
  high : Nat
  den : Nat
  closed : Bool

def neighbourhood (x : Double) : Neighbourhood :=
  let below := if x.mantissa = Word.count (precision - 1) ∧ minExponent < x.exponent then 1 else 2
  let unit := scaled 1 1 (x.exponent - 2)
  ⟨(4 * x.mantissa - below) * unit.1, 4 * x.mantissa * unit.1, (4 * x.mantissa + 2) * unit.1,
    unit.2, x.mantissa % 2 == 0⟩

/-- A decimal number `digits * 10 ^ exponent`. -/
structure Digits where
  digits : Nat
  exponent : Int

/-- Numerator and denominator of a decimal number. -/
def Digits.ratio (d : Digits) : Nat × Nat :=
  if 0 ≤ d.exponent then (d.digits * tenTo d.exponent.toNat, 1)
  else (d.digits, tenTo (-d.exponent).toNat)

def Neighbourhood.contains (n : Neighbourhood) (d : Digits) : Bool :=
  let (a, b) := d.ratio
  if n.closed then decide (n.low * b ≤ a * n.den) && decide (a * n.den ≤ n.high * b)
  else decide (n.low * b < a * n.den) && decide (a * n.den < n.high * b)

/-- The distance from the value, scaled by both denominators. -/
def Neighbourhood.distance (n : Neighbourhood) (d : Digits) : Nat :=
  let (a, b) := d.ratio
  (a * n.den - n.value * b) + (n.value * b - a * n.den)

/-- The number of decimal digits. -/
def decimalLength (n : Nat) : Nat := (Nat.toDigits 10 n).length

/-- An exponent of ten with `10 ^ p ≤ num / den ≤ 10 ^ (p + 1)`. -/
def magnitude (num den : Nat) : Int :=
  if den ≤ num then decimalLength (num / den) - 1 else -decimalLength (den / num)

/-- The better of the two grid points around the value, if one lies in the interval. -/
def Neighbourhood.onGrid? (n : Neighbourhood) (exponent : Int) : Option Digits :=
  let floor := if 0 ≤ exponent then n.value / (n.den * tenTo exponent.toNat)
    else n.value * tenTo (-exponent).toNat / n.den
  let lower : Digits := ⟨floor, exponent⟩
  let upper : Digits := ⟨floor + 1, exponent⟩
  match n.contains lower, n.contains upper with
  | false, false => none
  | true, false => some lower
  | false, true => some upper
  | true, true =>
    let a := n.distance lower
    let b := n.distance upper
    if a < b then some lower else if b < a then some upper
    else if floor % 2 = 0 then some lower else some upper

/-- Seventeen digits always determine a double. -/
def maxDigits : Nat := 17

/-- The decimal number with the fewest digits in the interval of a positive double. -/
def shortest (x : Double) : Digits :=
  let n := x.neighbourhood
  let p := magnitude n.value n.den
  ((List.range maxDigits).findSome? fun (k : Nat) => n.onGrid? (p - k)).getD ⟨n.value / n.den, 0⟩

/-- The decimal number without trailing zeros. -/
def Digits.stripped (d : Digits) : List Char × Int :=
  let ds := Nat.toDigits 10 d.digits
  let core := (ds.reverse.dropWhile (· == '0')).reverse
  (core, d.exponent + (ds.length - core.length : Nat))

def exponentText (e : Int) : List Char :=
  'e' :: (if e < 0 then '-' else '+') :: Nat.toDigits 10 e.natAbs

/-- Digits placed by the position of the point: `point` digits stand before it. -/
def layout (ds : List Char) (point : Int) : List Char :=
  if (ds.length : Int) ≤ point ∧ point ≤ 16 then
    ds ++ List.replicate (point.toNat - ds.length) '0' ++ ['.', '0']
  else if 0 < point ∧ point ≤ 16 then
    ds.take point.toNat ++ '.' :: ds.drop point.toNat
  else if -5 < point ∧ point ≤ 0 then
    '0' :: '.' :: (List.replicate (-point).toNat '0' ++ ds)
  else match ds with
    | [d] => d :: exponentText (point - 1)
    | d :: rest => d :: '.' :: (rest ++ exponentText (point - 1))
    | [] => []

def text (x : Double) : String :=
  let body :=
    if x.isZero then ['0', '.', '0']
    else
      let (ds, e) := x.shortest.stripped
      layout ds (ds.length + e)
  String.ofList (if x.negative then '-' :: body else body)

end Double

end SettingsStore.Decimal
