/-!
# Entries by name

A list of named things, in the order in which the names came. `put` replaces the first entry of a
name and `erase` removes all of them, so after either the other names are found as before.
-/

namespace SettingsStore

abbrev Entries (α : Type) := List (String × α)

namespace Entries

variable {α : Type}

def find? (name : String) (es : Entries α) : Option α := es.lookup name

def put (name : String) (x : α) : Entries α → Entries α
  | [] => [(name, x)]
  | (n, y) :: es => if n = name then (n, x) :: es else (n, y) :: put name x es

def erase (name : String) (es : Entries α) : Entries α := es.filter (·.1 ≠ name)

@[simp] theorem find?_nil (name : String) : find? name ([] : Entries α) = none := rfl

theorem find?_cons (name n : String) (x : α) (es : Entries α) :
    find? name ((n, x) :: es) = if n = name then some x else find? name es := by
  by_cases h : n = name
  · subst h; simp [find?]
  · have : (name == n) = false := by simp [Ne.symm h]
    simp [find?, List.lookup_cons, this, h]

@[simp] theorem find?_put_self (name : String) (x : α) (es : Entries α) :
    find? name (put name x es) = some x := by
  induction es with
  | nil => simp [put, find?_cons]
  | cons e es ih =>
    obtain ⟨n, y⟩ := e
    by_cases h : n = name <;> simp [put, h, find?_cons, ih]

theorem find?_put_of_ne {m name : String} (h : m ≠ name) (x : α) (es : Entries α) :
    find? m (put name x es) = find? m es := by
  induction es with
  | nil => simp [put, find?_cons, Ne.symm h]
  | cons e es ih =>
    obtain ⟨n, y⟩ := e
    by_cases hn : n = name
    · subst hn; simp [put, find?_cons, Ne.symm h]
    · simp [put, hn, find?_cons, ih]

@[simp] theorem find?_erase_self (name : String) (es : Entries α) :
    find? name (erase name es) = none := by
  induction es with
  | nil => rfl
  | cons e es ih =>
    obtain ⟨n, y⟩ := e
    by_cases h : n = name
    · subst h; simpa [erase] using ih
    · have : erase name ((n, y) :: es) = (n, y) :: erase name es := by simp [erase, h]
      rw [this, find?_cons, if_neg h, ih]

theorem find?_erase_of_ne {m name : String} (h : m ≠ name) (es : Entries α) :
    find? m (erase name es) = find? m es := by
  induction es with
  | nil => rfl
  | cons e es ih =>
    obtain ⟨n, y⟩ := e
    by_cases hn : n = name
    · subst hn
      have : erase n ((n, y) :: es) = erase n es := by simp [erase]
      rw [this, ih, find?_cons, if_neg (Ne.symm h)]
    · have : erase name ((n, y) :: es) = (n, y) :: erase name es := by simp [erase, hn]
      rw [this, find?_cons, find?_cons, ih]

end Entries

end SettingsStore
