import SettingsStore.Decimal.Power
import SettingsStore.Json.Fault
import SettingsStore.Text.Bytes

/-!
# JSON tokens

`next?` takes one token off the front of a text of bytes. Whether a token is sound can depend on
whether anybody wants its value: a member that is skipped may hold a number too large to represent
or a string with half of a surrogate pair. So a token keeps both answers: `reading`, for those who
want the value, and `skipping`, for those who do not. A text is not read beyond a token that
breaks off; every other token is followed by a shorter rest.
-/

namespace SettingsStore.Json

open Decimal (Double)

/-- The two faults of a value that breaks off. -/
structure Break where
  reading : SyntaxFault
  skipping : SyntaxFault
deriving DecidableEq, Repr

def Break.both (fault : SyntaxFault) : Break := ⟨fault, fault⟩

inductive Literal where
  | null
  | bool (b : Bool)
deriving DecidableEq, Repr

inductive Token where
  | openObject
  | closeObject
  | openList
  | closeList
  | comma
  | colon
  | literal (value : Literal)
  | num (value : Except SyntaxFault Number)
  | str (value : Except SyntaxFault String)
  /-- A value that cannot be followed to its end. -/
  | broken (cause : Break)
  /-- A string that cannot be followed to its end. -/
  | brokenStr (cause : Break)
  /-- A character that begins no token. -/
  | other

/-! ## Numbers -/

def isDigit (b : UInt8) : Bool := 48 ≤ b && b ≤ 57

def digitValue (b : UInt8) : Nat := b.toNat - 48

/-- Reads digits into a significand while it stays below `2 ^ 64`; returns the digits left over. -/
def accumulate (significand : Nat) : List UInt8 → Nat × List UInt8
  | [] => (significand, [])
  | b :: bs =>
    if significand * 10 + digitValue b < Word.count 64 then
      accumulate (significand * 10 + digitValue b) bs
    else (significand, b :: bs)

def digitsValue (ds : List UInt8) : Nat := ds.foldl (fun n b => n * 10 + digitValue b) 0

/-- The parts of a number: the digits before and after the point, and the exponent with its sign. -/
structure Numeral where
  negative : Bool
  whole : List UInt8
  fraction : Option (List UInt8)
  exponent : Option (Bool × List UInt8)

/-- Exponents are words of 32 bits; a greater one makes the number zero or too large. -/
def maxExponent : Nat := Word.count 31 - 1

def Numeral.double (n : Numeral) : Except SyntaxFault Number :=
  let (s, dropped) := accumulate 0 n.whole
  let (s, left) := accumulate s (n.fraction.getD [])
  let shift : Int := dropped.length - (((n.fraction.getD []).length - left.length : Nat) : Int)
  let done (e : Int) : Except SyntaxFault Number :=
    match Double.ofDecimal n.negative s e with
    | some x => .ok (.double x)
    | none => .error .numberOutOfRange
  match n.exponent with
  | none => done shift
  | some (down, ds) =>
    if digitsValue ds ≤ maxExponent then
      done (if down then shift - digitsValue ds else shift + digitsValue ds)
    else if s ≠ 0 && !down then .error .numberOutOfRange
    else .ok (.double (Double.zero n.negative))

/-- A numeral without fraction and exponent is an integer if it fits into 64 bits, of which a
negative one uses one for its sign. Zero with a sign is a double. -/
def Numeral.value (n : Numeral) : Except SyntaxFault Number :=
  match n.fraction, n.exponent with
  | none, none =>
    match accumulate 0 n.whole with
    | (s, []) =>
      if !n.negative then .ok (.int s)
      else if 0 < s ∧ s ≤ Word.count 63 then .ok (.int (-s))
      else n.double
    | _ => n.double
  | _, _ => n.double

/-- The digits at the front of a text. -/
def digits (s : List UInt8) : List UInt8 × List UInt8 := (s.takeWhile isDigit, s.dropWhile isDigit)

/-- A fault at the end of the digits of a number, told apart by whether the text ends there. -/
def numberBreak : List UInt8 → Break
  | [] => ⟨.endInValue, .invalidNumber⟩
  | _ => .both .invalidNumber

def scanExponent (n : Numeral) (s : List UInt8) : Except Break (Numeral × List UInt8) :=
  match s with
  | [] => .ok (n, s)
  | b :: r =>
    if b = 101 ∨ b = 69 then
      let (down, r) := match r with
        | 45 :: t => (true, t)
        | 43 :: t => (false, t)
        | t => (false, t)
      match digits r with
      | ([], t) => .error (numberBreak t)
      | (ds, t) => .ok ({ n with exponent := some (down, ds) }, t)
    else .ok (n, s)

def scanFraction (n : Numeral) (s : List UInt8) : Except Break (Numeral × List UInt8) :=
  match s with
  | 46 :: r => match digits r with
    | ([], t) => .error (numberBreak t)
    | (ds, t) => scanExponent { n with fraction := some ds } t
  | _ => scanExponent n s

/-- A number after its sign. A leading zero stands alone. -/
def scanNumber (negative : Bool) (s : List UInt8) : Except Break (Numeral × List UInt8) :=
  match digits s with
  | ([], t) => .error (numberBreak t)
  | (48 :: _ :: _, _) => .error (.both .invalidNumber)
  | (ds, t) => scanFraction ⟨negative, ds, none, none⟩ t

/-! ## Strings -/

def hexValue? (b : UInt8) : Option Nat :=
  if 48 ≤ b ∧ b ≤ 57 then some (b.toNat - 48)
  else if 97 ≤ b ∧ b ≤ 102 then some (b.toNat - 87)
  else if 65 ≤ b ∧ b ≤ 70 then some (b.toNat - 55)
  else none

def hexUnit? (a b c d : UInt8) : Option Nat := do
  return ((← hexValue? a) * 16 + (← hexValue? b)) * 256 + (← hexValue? c) * 16 + (← hexValue? d)

def simpleEscape? (b : UInt8) : Option UInt8 :=
  if b = 34 ∨ b = 92 ∨ b = 47 then some b
  else if b = 98 then some 8
  else if b = 102 then some 12
  else if b = 110 then some 10
  else if b = 114 then some 13
  else if b = 116 then some 9
  else none

/-- What has been read of a string: its bytes, last first, and the first half of a surrogate pair
that waits for its second. -/
structure Partial where
  bytes : List UInt8
  lead : Option Nat

def Partial.empty : Partial := ⟨[], none⟩

def Partial.byte (p : Partial) (b : UInt8) : Except SyntaxFault Partial :=
  match p.lead with
  | some _ => .error .unpairedSurrogate
  | none => .ok ⟨b :: p.bytes, none⟩

def pushCodePoint (bytes : List UInt8) (n : Nat) : List UInt8 :=
  (String.utf8EncodeChar (Char.ofNat n)).reverse ++ bytes

/-- A 16 bit unit written as an escape. -/
def Partial.unit (p : Partial) (n : Nat) : Except SyntaxFault Partial :=
  let trails := 0xDC00 ≤ n ∧ n ≤ 0xDFFF
  match p.lead with
  | some lead =>
    if trails then
      .ok ⟨pushCodePoint p.bytes ((lead - 0xD800) * 1024 + (n - 0xDC00) + 0x10000), none⟩
    else .error .loneSurrogate
  | none =>
    if trails then .error .loneSurrogate
    else if 0xD800 ≤ n ∧ n ≤ 0xDBFF then .ok ⟨p.bytes, some n⟩
    else .ok ⟨pushCodePoint p.bytes n, none⟩

/-- At the closing quote. -/
def Partial.finish (p : Partial) : Except SyntaxFault String :=
  match p.lead with
  | some _ => .error .unpairedSurrogate
  | none => match Text.ofByteList? p.bytes.reverse with
    | some s => .ok s
    | none => .error .invalidCodePoint

/-- The faults of a string that breaks off, after what has been read of it. -/
def breakAfter (p : Except SyntaxFault Partial) (fault : SyntaxFault) : Break :=
  match p with
  | .error e => ⟨e, fault⟩
  | .ok _ => .both fault

/-- A byte that ends a string early or cannot be escaped is a fault of the pair before it first. -/
def breakAt (p : Except SyntaxFault Partial) (b : UInt8) (fault : SyntaxFault) : Break :=
  breakAfter (p.bind (·.byte b)) fault

/-- A string after its opening quote. -/
def scanString (p : Except SyntaxFault Partial) :
    List UInt8 → Except Break (Except SyntaxFault String × List UInt8)
  | [] => .error (breakAfter p .endInString)
  | 34 :: s => .ok (p.bind (·.finish), s)
  | [92] => .error (breakAfter p .endInString)
  | 92 :: 117 :: a :: b :: c :: d :: s => match hexUnit? a b c d with
    | some n => scanString (p.bind (·.unit n)) s
    | none => .error (breakAfter p .invalidEscape)
  | 92 :: 117 :: _ => .error (breakAfter p .endInString)
  | 92 :: b :: s => match simpleEscape? b with
    | some e => scanString (p.bind (·.byte e)) s
    | none => .error (breakAt p b .invalidEscape)
  | b :: s =>
    if b < 32 then .error (breakAt p b .controlCharacter)
    else scanString (p.bind (·.byte b)) s

/-! ## Tokens -/

def isSpace (b : UInt8) : Bool := b == 32 || b == 10 || b == 9 || b == 13

/-- The rest of a word whose first letter has been read. -/
def scanWord : List UInt8 → List UInt8 → Except SyntaxFault (List UInt8)
  | [], s => .ok s
  | _ :: _, [] => .error .endInValue
  | w :: ws, b :: s => if b = w then scanWord ws s else .error .expectedIdent

def wordToken (word : List UInt8) (value : Literal) (s : List UInt8) : Token × List UInt8 :=
  match scanWord word s with
  | .ok r => (.literal value, r)
  | .error e => (.broken (.both e), [])

def numberToken (negative : Bool) (s : List UInt8) : Token × List UInt8 :=
  match scanNumber negative s with
  | .ok (n, r) => (.num n.value, r)
  | .error cause => (.broken cause, [])

def stringToken (s : List UInt8) : Token × List UInt8 :=
  match scanString (.ok .empty) s with
  | .ok (value, r) => (.str value, r)
  | .error cause => (.brokenStr cause, [])

def punctuation? (b : UInt8) : Option Token :=
  if b = 123 then some .openObject
  else if b = 125 then some .closeObject
  else if b = 91 then some .openList
  else if b = 93 then some .closeList
  else if b = 44 then some .comma
  else if b = 58 then some .colon
  else none

/-- The word that begins with a letter, without that letter. -/
def word? (b : UInt8) : Option (List UInt8 × Literal) :=
  if b = 110 then some ([117, 108, 108], .null)
  else if b = 116 then some ([114, 117, 101], .bool true)
  else if b = 102 then some ([97, 108, 115, 101], .bool false)
  else none

/-- The token that begins with a byte, and the text after it. -/
def tokenAt (b : UInt8) (s : List UInt8) : Token × List UInt8 :=
  match punctuation? b, word? b with
  | some t, _ => (t, s)
  | none, some (w, v) => wordToken w v s
  | none, none =>
    if b = 34 then stringToken s
    else if b = 45 then numberToken true s
    else if isDigit b then numberToken false (b :: s)
    else (.other, s)

/-- The first token of a text, if there is anything but blanks. -/
def next? : List UInt8 → Option (Token × List UInt8)
  | [] => none
  | b :: s => if isSpace b then next? s else some (tokenAt b s)

end SettingsStore.Json
