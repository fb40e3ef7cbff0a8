import SettingsStore.Text.Extender
import SettingsStore.Text.Split

/-!
# Quoted text

How a message shows a text that came from outside: between double quotes, with everything escaped
that a reader could not see. Tabs, line ends and NUL have short escapes, and other unprintable
characters and extenders are written as their code point in braces.
-/

namespace SettingsStore.Text

/-- Lower case hexadecimal digits, without leading zeros. -/
def hex (n : Nat) : String := String.ofList (Nat.toDigits 16 n)

def quotedChar (c : Char) : String :=
  if c = '\x00' then "\\0"
  else if c = '\t' then "\\t"
  else if c = '\r' then "\\r"
  else if c = '\n' then "\\n"
  else if c = '\\' then "\\\\"
  else if c = '"' then "\\\""
  else if isExtender c || isUnprintable c then "\\u\x7b" ++ hex c.toNat ++ "\x7d"
  else c.toString

def quoted (s : String) : String :=
  "\"" ++ String.join (s.toList.map quotedChar) ++ "\""

/-- A bracketed list of quoted texts. -/
def quotedList (ss : List String) : String :=
  "[" ++ join ", " (ss.map quoted) ++ "]"

end SettingsStore.Text
