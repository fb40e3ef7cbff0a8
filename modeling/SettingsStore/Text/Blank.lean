import SettingsStore.Text.Split

/-!
# Blanks

The characters that separate words, and what depends on them: trimming, words, and the entries of a
comma separated list. Blanks are the characters with the property White_Space, so U+00A0 is one and
U+200B is not.
-/

namespace SettingsStore.Text

def isBlank (c : Char) : Bool :=
  (9 ≤ c.toNat && c.toNat ≤ 13) || c == ' ' || c.toNat == 0x85 || c.toNat == 0xA0
    || c.toNat == 0x1680 || (0x2000 ≤ c.toNat && c.toNat ≤ 0x200A) || c.toNat == 0x2028
    || c.toNat == 0x2029 || c.toNat == 0x202F || c.toNat == 0x205F || c.toNat == 0x3000

/-- A text without the characters of a class at either end. -/
def stripWhere (p : Char → Bool) (cs : List Char) : List Char :=
  ((cs.dropWhile p).reverse.dropWhile p).reverse

def trim (s : String) : String := String.ofList (stripWhere isBlank s.toList)

/-- The maximal runs of characters that are not blank. -/
def words (s : String) : List String :=
  ((splitWhere isBlank s.toList).filter (· ≠ [])).map String.ofList

/-- The entries of a comma separated list, trimmed, without the empty ones. -/
def entries (s : String) : List String :=
  ((splitAt ',' s).map trim).filter (· ≠ "")

end SettingsStore.Text
