import SettingsStore.Decimal.Shortest
import SettingsStore.Json.Basic

/-!
# JSON text

Two layouts of a value. `compact` has no blanks. `pretty` puts every item and member on a line of
its own, indented by two blanks for each level, and writes empty lists and objects in one piece.
Strings escape the quote, the backslash and the characters below U+0020, and nothing else.
-/

namespace SettingsStore.Json

def escapedChar (c : Char) : String :=
  if c = '"' then "\\\""
  else if c = '\\' then "\\\\"
  else if c = '\n' then "\\n"
  else if c = '\r' then "\\r"
  else if c = '\t' then "\\t"
  else if c.toNat = 8 then "\\b"
  else if c.toNat = 12 then "\\f"
  else if c.toNat < 16 then "\\u000" ++ String.ofList (Nat.toDigits 16 c.toNat)
  else if c.toNat < 32 then "\\u00" ++ String.ofList (Nat.toDigits 16 c.toNat)
  else c.toString

def stringText (s : String) : String :=
  "\"" ++ String.join (s.toList.map escapedChar) ++ "\""

def Number.text : Number → String
  | .int n => toString n
  | .double x => x.text

mutual
def compact : Json → String
  | .null => "null"
  | .bool b => if b then "true" else "false"
  | .num n => n.text
  | .str s => stringText s
  | .arr [] => "[]"
  | .arr (x :: xs) => "[" ++ compact x ++ compactItems xs
  | .obj [] => "\x7b\x7d"
  | .obj ((k, v) :: ms) => "\x7b" ++ stringText k ++ ":" ++ compact v ++ compactMembers ms

def compactItems : List Json → String
  | [] => "]"
  | x :: xs => "," ++ compact x ++ compactItems xs

def compactMembers : List (String × Json) → String
  | [] => "\x7d"
  | (k, v) :: ms => "," ++ stringText k ++ ":" ++ compact v ++ compactMembers ms
end

def newline (depth : Nat) : String := "\n" ++ String.ofList (List.replicate (2 * depth) ' ')

mutual
def prettyAt (depth : Nat) : Json → String
  | .null => "null"
  | .bool b => if b then "true" else "false"
  | .num n => n.text
  | .str s => stringText s
  | .arr [] => "[]"
  | .arr (x :: xs) => "[" ++ newline (depth + 1) ++ prettyAt (depth + 1) x ++ prettyItems depth xs
  | .obj [] => "\x7b\x7d"
  | .obj ((k, v) :: ms) =>
    "\x7b" ++ newline (depth + 1) ++ stringText k ++ ": " ++ prettyAt (depth + 1) v
      ++ prettyMembers depth ms

def prettyItems (depth : Nat) : List Json → String
  | [] => newline depth ++ "]"
  | x :: xs => "," ++ newline (depth + 1) ++ prettyAt (depth + 1) x ++ prettyItems depth xs

def prettyMembers (depth : Nat) : List (String × Json) → String
  | [] => newline depth ++ "\x7d"
  | (k, v) :: ms =>
    "," ++ newline (depth + 1) ++ stringText k ++ ": " ++ prettyAt (depth + 1) v
      ++ prettyMembers depth ms
end

def pretty (j : Json) : String := prettyAt 0 j

end SettingsStore.Json
