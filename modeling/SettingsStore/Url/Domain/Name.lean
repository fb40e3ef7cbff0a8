import SettingsStore.Text.Split
import SettingsStore.Url.Domain.Direction
import SettingsStore.Url.Domain.Disallowed
import SettingsStore.Url.Domain.Mapping
import SettingsStore.Url.Domain.Punycode
import SettingsStore.Url.Domain.Remapped

/-!
# Domain names

`normalize?` maps a domain name to its lower case form and checks its labels: no character that
domain names exclude, no label that begins with a combining mark, joiners only after a virama, one
writing direction in every label of a name that runs from right to left, and labels in Punycode
that decode to sound labels beyond ASCII.
-/

namespace SettingsStore.Url.Domain

/-- ASCII characters that no domain name may contain. -/
def isDenied (c : Char) : Bool :=
  c.toNat ≤ 32 || c.toNat == 127
    || ['%', '#', '/', ':', '<', '>', '?', '@', '[', '\\', ']', '^', '|'].contains c

def isAscii (c : Char) : Bool := c.toNat < 128

def isExcluded (c : Char) : Bool := if isAscii c then isDenied c else isDisallowed c

def nonJoiner : Char := Char.ofNat 0x200C

def joiner : Char := Char.ofNat 0x200D

/-- Joiners stand only after a virama. -/
def joinersFollowVirama (previous : Option Char) : List Char → Bool
  | [] => true
  | c :: cs =>
    (!(c == nonJoiner || c == joiner) || previous.any isVirama) && joinersFollowVirama (some c) cs

/-- A label beyond ASCII. -/
def isSoundLabel (label : List Char) : Bool :=
  !(label.head?.any isMark) && joinersFollowVirama none label

/-- The characters of a label, out of Punycode if it is written so. -/
def labelChars? (label : List Char) : Option (List Char) :=
  match label with
  | 'x' :: 'n' :: '-' :: '-' :: code => do
    if !code.all isAscii then none
    let chars ← Punycode.decode? code
    let isFinal (c : Char) : Bool := mapChar c == [c] && !isRemapped c && !isExcluded c
    if chars.all isAscii || !chars.all isFinal then none
    some chars
  | _ => some label

def isRightToLeftName (labels : List (List Char)) : Bool :=
  labels.any fun label => label.any fun c => (direction c).isRightToLeft

/-- The name in lower case, or `none` if it is no domain name. -/
def normalize? (cs : List Char) : Option (List Char) := do
  if cs.any fun c => !isAscii c && isDisallowed c then none
  let mapped := cs.flatMap mapChar
  if mapped.any isExcluded then none
  let labels ← (Text.splitWhere (· == '.') mapped).mapM labelChars?
  if labels.any fun label => !label.all isAscii && !isSoundLabel label then none
  if isRightToLeftName labels && !labels.all obeysDirection then none
  some mapped

end SettingsStore.Url.Domain
