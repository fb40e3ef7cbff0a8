import SettingsStore.Decimal.Power
import SettingsStore.Url.Domain.Name
import SettingsStore.Url.Fault
import SettingsStore.Url.Percent

/-!
# Hosts

The host of a URL is an address in brackets, an IPv4 address in any of its old spellings, or a name.
Schemes that are not known to use domain names have opaque hosts, which only exclude the delimiters
of URLs.
-/

namespace SettingsStore.Url

inductive Host where
  /-- A name; the empty one stands for no host. -/
  | name (s : List Char)
  | ipv4 (address : Nat)
  | ipv6 (pieces : List Nat)
deriving DecidableEq, Repr

/-! ## Version 4 addresses -/

/-- A number of an IPv4 address: `none` if it is none, `some none` if it exceeds 32 bits. -/
def ipv4Number? (cs : List Char) : Option (Option Nat) :=
  let (radix, ds) := match cs with
    | '0' :: 'x' :: ds => (16, ds)
    | '0' :: 'X' :: ds => (16, ds)
    | '0' :: d :: ds => (8, d :: ds)
    | ds => (10, ds)
  if cs.isEmpty then none
  else do
    let values ← ds.mapM hexDigit?
    if values.all (· < radix) then
      let n := values.foldl (fun n d => n * radix + d) 0
      some (if n < Word.count 32 then some n else none)
    else none

/-- Whether the last part of a name, not counting a final dot, is a number. -/
def endsInNumber (cs : List Char) : Bool :=
  let parts := (Text.splitWhere (· == '.') cs).reverse
  let last? := match parts with
    | [] :: rest => rest.head?
    | part :: _ => some part
    | [] => none
  match last? with
  | none => false
  | some last => (!last.isEmpty && last.all (·.isDigit)) || (ipv4Number? last).isSome

/-- The address that numbers spell: all but the last are bytes, and the last fills the rest. -/
def ipv4OfNumbers? (numbers : List Nat) : Option Nat :=
  match numbers.reverse with
  | [] => none
  | last :: firsts =>
    if last < Word.count (8 * (4 - firsts.length)) ∧ firsts.all (· < 256) then
      some (firsts.reverse.zipIdx.foldl (fun n (b, i) => n + b * Word.count (8 * (3 - i))) last)
    else none

def parseIpv4 (cs : List Char) : Except Fault Nat :=
  let parts := Text.splitWhere (· == '.') cs
  let parts := if parts.getLast? = some [] then parts.dropLast else parts
  if 4 < parts.length then .error .invalidIpv4
  else match (parts.mapM ipv4Number?).bind (·.mapM id) with
    | none => .error .invalidIpv4
    | some numbers => match ipv4OfNumbers? numbers with
      | some address => .ok address
      | none => .error .invalidIpv4

/-! ## Version 6 addresses -/

/-- A decimal byte without leading zeros. -/
def decimalByte? (cs : List Char) : Option Nat :=
  if cs.isEmpty || !cs.all (·.isDigit) || (cs.head? = some '0' && 1 < cs.length) then none
  else
    let n := cs.foldl (fun n c => n * 10 + (c.toNat - 48)) 0
    if n < 256 then some n else none

/-- Pieces of 16 bits: up to four hexadecimal digits. -/
def piece? (cs : List Char) : Option Nat := do
  if cs.isEmpty || 4 < cs.length then none
  return (← cs.mapM hexDigit?).foldl (fun n d => n * 16 + d) 0

/-- An IPv4 address in dotted form as two pieces. -/
def dottedPieces? (cs : List Char) : Option (List Nat) := do
  match ← (Text.splitWhere (· == '.') cs).mapM decimalByte? with
  | [a, b, c, d] => some [a * 256 + b, c * 256 + d]
  | _ => none

/-- Pieces separated by colons, the last two possibly in dotted form. -/
def pieces? (cs : List Char) : Option (List Nat) :=
  if cs.isEmpty then some []
  else
    let parts := Text.splitWhere (· == ':') cs
    match parts.getLast? with
    | none => some []
    | some last => do
      let tail ← if last.contains '.' then dottedPieces? last else (piece? last).map ([·])
      return (← parts.dropLast.mapM piece?) ++ tail

/-- Cuts at the first double colon. -/
def cutDoubleColon : List Char → Option (List Char × List Char)
  | ':' :: ':' :: cs => some ([], cs)
  | c :: cs => (cutDoubleColon cs).map fun (a, b) => (c :: a, b)
  | [] => none

def parseIpv6? (cs : List Char) : Option (List Nat) := do
  match cutDoubleColon cs with
  | none =>
    let ps ← pieces? cs
    if ps.length = 8 then some ps else none
  | some (front, back) =>
    if front.contains '.' then none
    let front ← pieces? front
    let back ← pieces? back
    if front.length + back.length < 8 then
      some (front ++ List.replicate (8 - front.length - back.length) 0 ++ back)
    else none

/-- The longest run of two or more zero pieces, the first one of that length: start and length. -/
def longestZeros (pieces : List Nat) : Nat × Nat :=
  let runs := (List.range pieces.length).map fun i =>
    (i, ((pieces.drop i).takeWhile (· == 0)).length)
  runs.foldl (fun best r => if best.2 < r.2 ∧ 1 < r.2 then r else best) (0, 0)

def hexPieces (pieces : List Nat) : List Char :=
  (Text.join ":" (pieces.map fun n => String.ofList (Nat.toDigits 16 n))).toList

def ipv6Text (pieces : List Nat) : List Char :=
  let (start, count) := longestZeros pieces
  if count = 0 then hexPieces pieces
  else hexPieces (pieces.take start) ++ [':', ':'] ++ hexPieces (pieces.drop (start + count))

/-! ## Hosts -/

/-- The delimiters and blanks that an opaque host excludes. -/
def isForbiddenInHost (c : Char) : Bool :=
  c.toNat == 0 || ['\t', '\n', '\r', ' ', '#', '/', ':', '<', '>', '?', '@', '[', '\\', ']', '^',
    '|'].contains c

def parseBracketed (cs : List Char) : Except Fault Host :=
  match cs.reverse with
  | ']' :: inner => match parseIpv6? inner.reverse with
    | some pieces => .ok (.ipv6 pieces)
    | none => .error .invalidIpv6
  | _ => .error .invalidIpv6

def Host.parseOpaque (cs : List Char) : Except Fault Host :=
  match cs with
  | '[' :: rest => parseBracketed rest
  | _ =>
    if cs.any isForbiddenInHost then .error .invalidDomainCharacter
    else .ok (.name (percentEncode isControl cs))

def Host.parseDomain (cs : List Char) : Except Fault Host :=
  match cs with
  | '[' :: rest => parseBracketed rest
  | _ => match (Text.ofByteList? (percentDecode cs)).bind (Domain.normalize? ·.toList) with
    | none => .error .invalidDomain
    | some domain =>
      if domain.isEmpty then .error .emptyHost
      else if endsInNumber domain then .ipv4 <$> parseIpv4 domain
      else .ok (.name domain)

def Host.text : Host → List Char
  | .name s => s
  | .ipv4 a =>
    (Text.join "."
      ([a / Word.count 24, a / Word.count 16 % 256, a / 256 % 256, a % 256].map toString)).toList
  | .ipv6 pieces => '[' :: ipv6Text pieces ++ [']']

end SettingsStore.Url
