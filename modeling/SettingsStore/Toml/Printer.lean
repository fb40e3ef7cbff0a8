import SettingsStore.Text.Split
import SettingsStore.Text.Quoted

/-!
# Strings of TOML

A string is written in the plainest of four styles that shows it without escapes: between double
quotes, between single quotes, between three double or three single quotes. Where none does, it is
escaped in double quotes, three of them if it has several lines.
-/

namespace SettingsStore.Toml

/-- Characters that every style must escape. -/
def isControl (c : Char) : Bool :=
  (c.toNat < 32 && c != '\t' && c != '\n') || c.toNat == 127

/-- The most characters `q` in a row. -/
def longestRun (q : Char) (s : List Char) : Nat :=
  (s.foldl (fun (best, now) c => if c = q then (max best (now + 1), now + 1) else (best, 0))
    (0, 0)).1

inductive Style where
  | basic
  | literal
  | multiBasic
  | multiLiteral
deriving DecidableEq, Repr

def Style.ofText (s : List Char) : Style :=
  if s.any isControl then (if '\n' ∈ s then .multiBasic else .basic)
  else if '\\' ∉ s ∧ '"' ∉ s ∧ '\n' ∉ s then .basic
  else if '\'' ∉ s ∧ '\n' ∉ s then .literal
  else if '\\' ∉ s ∧ longestRun '"' s ≤ 2 then .multiBasic
  else if longestRun '\'' s ≤ 2 then .multiLiteral
  else if '\n' ∈ s then .multiBasic
  else .basic

/-- Four upper case hexadecimal digits. -/
def hex4 (n : Nat) : String :=
  let ds := (Nat.toDigits 16 n).map Char.toUpper
  String.ofList (List.replicate (4 - ds.length) '0' ++ ds)

def escapedChar (c : Char) : String :=
  if c = '"' then "\\\""
  else if c = '\\' then "\\\\"
  else if c = '\n' then "\\n"
  else if c = '\r' then "\\r"
  else if c = '\t' then "\\t"
  else if c.toNat = 8 then "\\b"
  else if c.toNat = 12 then "\\f"
  else if isControl c then "\\u" ++ hex4 c.toNat
  else c.toString

/-- The characters inside three double quotes as they are written, after `run` quotes in a row: each
third one is escaped. -/
def multiBasicChars (run : Nat) : List Char → List String
  | [] => []
  | c :: s =>
    if c = '"' then
      if run = 2 then escapedChar c :: multiBasicChars 0 s
      else c.toString :: multiBasicChars (run + 1) s
    else (if c = '\n' then c.toString else escapedChar c) :: multiBasicChars 0 s

/-- Three quotes in front of several lines stand on a line of their own. -/
def firstBreak (s : List Char) : String := if '\n' ∈ s then "\n" else ""

def stringText (text : String) : String :=
  let s := text.toList
  match Style.ofText s with
  | .basic => "\"" ++ String.join (s.map escapedChar) ++ "\""
  | .literal => "'" ++ text ++ "'"
  | .multiBasic => "\"\"\"" ++ firstBreak s ++ String.join (multiBasicChars 0 s) ++ "\"\"\""
  | .multiLiteral => "'''" ++ firstBreak s ++ text ++ "'''"

def stringsText (texts : List String) : String :=
  "[" ++ Text.join ", " (texts.map stringText) ++ "]"

end SettingsStore.Toml
