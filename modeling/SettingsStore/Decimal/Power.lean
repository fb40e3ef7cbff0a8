/-!
# Powers and words

Powers of ten, and how many numbers fit into a word of so many bits.
-/

namespace SettingsStore

namespace Decimal

def tenTo (k : Nat) : Nat := Nat.pow 10 k

end Decimal

namespace Word

/-- The number of words of so many bits. -/
def count (bits : Nat) : Nat := Nat.pow 2 bits

/-- Whether an integer is a signed word of 64 bits. -/
def isSigned64 (n : Int) : Bool := -(count 63 : Int) ≤ n && n < (count 63 : Int)

end Word

end SettingsStore
