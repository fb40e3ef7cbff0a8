import SettingsStore.Text.Bytes

/-!
# Percent encoding

Bytes that may not stand in a part of a URL are written as a percent sign and two hexadecimal
digits. Which ASCII characters these are depends on the part; bytes beyond ASCII always are.
-/

namespace SettingsStore.Url

def isControl (c : Char) : Bool := c.toNat < 32 || c.toNat == 127

/-- The characters besides controls that are encoded in a path. -/
def isEncodedInPath (c : Char) : Bool :=
  isControl c || [' ', '"', '<', '>', '\x60', '#', '?', '\x7b', '\x7d'].contains c

def upperHexDigit (n : Nat) : Char := (Nat.digitChar n).toUpper

def encodeByte (b : UInt8) : List Char :=
  ['%', upperHexDigit (b.toNat / 16), upperHexDigit (b.toNat % 16)]

def encodeChar (encoded : Char → Bool) (c : Char) : List Char :=
  if 128 ≤ c.toNat || encoded c then (String.utf8EncodeChar c).flatMap encodeByte else [c]

def percentEncode (encoded : Char → Bool) (cs : List Char) : List Char :=
  cs.flatMap (encodeChar encoded)

def hexDigit? (c : Char) : Option Nat :=
  if '0' ≤ c ∧ c ≤ '9' then some (c.toNat - 48)
  else if 'a' ≤ c ∧ c ≤ 'f' then some (c.toNat - 87)
  else if 'A' ≤ c ∧ c ≤ 'F' then some (c.toNat - 55)
  else none

/-- The bytes of a text in which percent signs with two digits stand for one byte. -/
def percentDecode : List Char → List UInt8
  | '%' :: a :: b :: cs => match hexDigit? a, hexDigit? b with
    | some x, some y => .ofNat (16 * x + y) :: percentDecode cs
    | _, _ => 37 :: percentDecode (a :: b :: cs)
  | c :: cs => String.utf8EncodeChar c ++ percentDecode cs
  | [] => []

end SettingsStore.Url
