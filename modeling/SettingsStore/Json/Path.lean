import SettingsStore.Json.Basic

/-!
# Values inside values

`get?` follows a list of keys down into objects, and `put` writes a value there. `put` makes every
value on the way an object: what is missing or is no object becomes an empty one first. So after
`put` the value is found at its path, and what lies on a diverging path is as before.
-/

namespace SettingsStore.Json

def get? : List String → Json → Option Json
  | [], j => some j
  | k :: ks, .obj ms => (Members.find? k ms).bind (get? ks)
  | _ :: _, _ => none

def put : (path : List String) → (j value : Json) → Json
  | [], _, value => value
  | k :: ks, j, value =>
    .obj (Members.insert k (put ks ((Members.find? k j.members).getD (.obj [])) value) j.members)

@[simp] theorem get?_put_self (path : List String) (j value : Json) :
    get? path (put path j value) = some value := by
  induction path generalizing j with
  | nil => rfl
  | cons k ks ih => simp [put, get?, ih]

end SettingsStore.Json
