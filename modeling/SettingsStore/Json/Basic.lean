import SettingsStore.Decimal.Double

/-!
# JSON values

An object is a list of members in the order in which it is written. Objects built by `insert` have
their keys in ascending order and no key twice; `find?` reads the first member of a key and `insert`
replaces it, so the two agree on every list of members.

`same` compares values as numbers compare: an integer differs from the double of the same size, and
the two zero doubles are equal.
-/

namespace SettingsStore

open Decimal (Double)

namespace Json

/-- A number written without fraction and exponent is an integer, any other one a double. -/
inductive Number where
  | int (n : Int)
  | double (x : Double)
deriving DecidableEq, Repr

def Number.same : Number → Number → Bool
  | .int m, .int n => m == n
  | .double x, .double y => x.same y
  | _, _ => false

end Json

inductive Json where
  | null
  | bool (b : Bool)
  | num (n : Json.Number)
  | str (s : String)
  | arr (items : List Json)
  | obj (members : List (String × Json))
deriving Repr

namespace Json

abbrev Members := List (String × Json)

mutual
def same : Json → Json → Bool
  | .null, .null => true
  | .bool a, .bool b => a == b
  | .num m, .num n => m.same n
  | .str s, .str t => s == t
  | .arr xs, .arr ys => sameItems xs ys
  | .obj ms, .obj ns => sameMembers ms ns
  | _, _ => false

def sameItems : List Json → List Json → Bool
  | [], [] => true
  | x :: xs, y :: ys => same x y && sameItems xs ys
  | _, _ => false

def sameMembers : List (String × Json) → List (String × Json) → Bool
  | [], [] => true
  | (k, x) :: ms, (l, y) :: ns => k == l && same x y && sameMembers ms ns
  | _, _ => false
end

def isObject : Json → Bool
  | .obj _ => true
  | _ => false

def isString : Json → Bool
  | .str _ => true
  | _ => false

/-- The members of an object; other values have none. -/
def members : Json → Members
  | .obj ms => ms
  | _ => []

@[simp] theorem members_obj (ms : Members) : (Json.obj ms).members = ms := rfl

namespace Members

/-- The value of the first member with this key. -/
def find? (key : String) : Members → Option Json
  | [] => none
  | (k, v) :: ms => if k = key then some v else find? key ms

/-- Gives a key a value: in the place of its first member, or in front of the first greater key. -/
def insert (key : String) (value : Json) : Members → Members
  | [] => [(key, value)]
  | (k, v) :: ms =>
    if k = key then (key, value) :: ms
    else if key < k then (key, value) :: (k, v) :: ms
    else (k, v) :: insert key value ms

@[simp] theorem find?_insert_self (key : String) (value : Json) (ms : Members) :
    (ms.insert key value).find? key = some value := by
  induction ms with
  | nil => simp [insert, find?]
  | cons m ms ih =>
    obtain ⟨k, v⟩ := m
    by_cases hk : k = key
    · simp [insert, find?, hk]
    · by_cases hlt : key < k
      · simp [insert, find?, hk, hlt]
      · simp [insert, find?, hk, hlt, ih]

theorem find?_insert_of_ne {key other : String} (h : other ≠ key) (value : Json) (ms : Members) :
    (ms.insert key value).find? other = ms.find? other := by
  induction ms with
  | nil => simp [insert, find?, h.symm]
  | cons m ms ih =>
    obtain ⟨k, v⟩ := m
    by_cases hk : k = key
    · subst hk; simp [insert, find?, h.symm]
    · by_cases hlt : key < k
      · simp [insert, find?, hk, hlt, h.symm]
      · simp [insert, find?, hk, hlt, ih]

/-- Members in ascending order of their keys, the last one of each key. -/
def ofList (ms : List (String × Json)) : Members :=
  ms.foldl (fun acc m => acc.insert m.1 m.2) []

end Members

def ofMembers (ms : List (String × Json)) : Json := .obj (Members.ofList ms)

end Json

end SettingsStore
