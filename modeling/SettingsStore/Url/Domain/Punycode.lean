/-!
# Punycode

Labels beyond ASCII are written in ASCII as the plain characters of the label, a hyphen, and the
differences between the places of the others in ascending order, as numbers of variable length in
base 36. `decode?` reads such a text after its `xn--`.
-/

namespace SettingsStore.Url.Domain.Punycode

def base : Nat := 36

def digit? (c : Char) : Option Nat :=
  if 'a' ≤ c ∧ c ≤ 'z' then some (c.toNat - 97)
  else if 'A' ≤ c ∧ c ≤ 'Z' then some (c.toNat - 65)
  else if '0' ≤ c ∧ c ≤ '9' then some (c.toNat - 22)
  else none

/-- The least value of a digit that does not end a number, at a place of the number. -/
def threshold (k bias : Nat) : Nat :=
  if k ≤ bias then 1 else if bias + 26 ≤ k then 26 else k - bias

def shrink (delta k : Nat) : Nat × Nat :=
  if 455 < delta then shrink (delta / 35) (k + base) else (delta, k)
termination_by delta
decreasing_by exact Nat.div_lt_self (by omega) (by omega)

/-- The bias after a difference, when the label has `count` characters. -/
def adapt (delta count : Nat) (first : Bool) : Nat :=
  let delta := if first then delta / 700 else delta / 2
  let (delta, k) := shrink (delta + delta / count) 0
  k + base * delta / (delta + 38)

/-- The state between two digits: the last code point, the place of the next character, the bias,
and of the number being read its value so far, the weight of the next digit and its place. -/
structure State where
  codePoint : Nat
  start : Nat
  bias : Nat
  value : Nat
  weight : Nat
  place : Nat
  label : List Char

def validCodePoint (n : Nat) : Bool := n ≤ 0x10FFFF && !(0xD800 ≤ n && n ≤ 0xDFFF)

def State.digit (s : State) (d : Nat) : Option State :=
  let value := s.value + d * s.weight
  let t := threshold s.place s.bias
  if d < t then
    let count := s.label.length + 1
    let codePoint := s.codePoint + value / count
    let index := value % count
    if validCodePoint codePoint then
      some ⟨codePoint, index + 1, adapt (value - s.start) count (s.start == 0), index + 1, 1, base,
        s.label.take index ++ Char.ofNat codePoint :: s.label.drop index⟩
    else none
  else some { s with value := value, weight := s.weight * (base - t), place := s.place + base }

def run (s : State) : List Char → Option (List Char)
  | [] => if s.place = base then some s.label else none
  | c :: cs => do run (← s.digit (← digit? c)) cs

def decode? (cs : List Char) : Option (List Char) :=
  let tail := (cs.reverse.takeWhile (· ≠ '-')).reverse
  let head := (cs.take (cs.length - tail.length)).dropLast
  run ⟨128, 0, 72, 0, 1, base, head⟩ tail

end SettingsStore.Url.Domain.Punycode
