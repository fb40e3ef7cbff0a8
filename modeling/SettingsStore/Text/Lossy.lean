import SettingsStore.Text.Bytes

/-!
# Bytes shown as text

Bytes that are not well-formed UTF-8 are shown with one replacement character for each longest
stretch that could have begun a character.
-/

namespace SettingsStore.Text

def replacement : Char := '\ufffd'

/-- The number of bytes after the first one of a character, and the range of the second. -/
def followers? (b : UInt8) : Option (Nat × UInt8 × UInt8) :=
  if b < 0xC2 then none
  else if b < 0xE0 then some (1, 0x80, 0xBF)
  else if b = 0xE0 then some (2, 0xA0, 0xBF)
  else if b = 0xED then some (2, 0x80, 0x9F)
  else if b < 0xF0 then some (2, 0x80, 0xBF)
  else if b = 0xF0 then some (3, 0x90, 0xBF)
  else if b < 0xF4 then some (3, 0x80, 0xBF)
  else if b = 0xF4 then some (3, 0x80, 0x8F)
  else none

/-- How many of the bytes continue a character that wants `count` more, the next in a range. -/
def continued (count : Nat) (low high : UInt8) : List UInt8 → Nat
  | [] => 0
  | b :: bs => match count with
    | 0 => 0
    | count + 1 => if low ≤ b ∧ b ≤ high then continued count 0x80 0xBF bs + 1 else 0

/-- The text of bytes, which are `fuel` at most. -/
def showBytes (fuel : Nat) (bs : List UInt8) : List Char :=
  match fuel, bs with
  | 0, _ | _, [] => []
  | fuel + 1, b :: bs =>
    if b < 0x80 then Char.ofNat b.toNat :: showBytes fuel bs
    else match followers? b with
      | none => replacement :: showBytes fuel bs
      | some (count, low, high) =>
        let found := continued count low high bs
        let shown := match ofByteList? (b :: bs.take found) with
          | some s => s.toList
          | none => [replacement]
        shown ++ showBytes fuel (bs.drop found)

def lossy (bs : List UInt8) : String := String.ofList (showBytes bs.length bs)

end SettingsStore.Text
