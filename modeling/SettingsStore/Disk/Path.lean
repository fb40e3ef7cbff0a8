import SettingsStore.Text.Split

/-!
# Paths

A path is a text with slashes between its names. `names` is what a reader of the text sees: the
names without empty ones and single dots. Where a path leads is for the disk to say.
-/

namespace SettingsStore.Path

def isAbsolute (path : String) : Bool := path.startsWith "/"

/-- A path read from inside another one. An absolute path is itself everywhere. -/
def join (base path : String) : String :=
  if isAbsolute path || base.isEmpty then path
  else if base.endsWith "/" then base ++ path
  else base ++ "/" ++ path

/-- The names of a path, empty ones included. -/
def pieces (path : String) : List String := Text.splitAt '/' path

def names (path : String) : List String := (pieces path).filter fun n => n ≠ "" ∧ n ≠ "."

/-- The last name, unless it leads upwards. -/
def fileName? (path : String) : Option String := (names path).getLast?.filter (· ≠ "..")

/-- What stands after the last dot of a name. A name that only begins with a dot has none. -/
def extension? (name : String) : Option String :=
  match (Text.splitAt '.' name).reverse with
  | [] | [_] | [_, ""] => none
  | last :: _ => some last

/-- The directory that the text of an absolute path names. -/
def parent (path : String) : String :=
  match (names path).dropLast with
  | [] => "/"
  | ns => String.join (ns.map ("/" ++ ·))

end SettingsStore.Path
