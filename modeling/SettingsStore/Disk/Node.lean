import SettingsStore.Entries
import SettingsStore.Text.Bytes

/-!
# Trees of files

A directory holds files, databases and further directories under names. A location is the list of
names that leads from the root to a node. Nothing is ever put below what is not a directory.
-/

namespace SettingsStore

/-- A database is kept elsewhere, and the tree holds its number. -/
inductive Node where
  | file (content : Bytes)
  | database (handle : Nat)
  | directory (entries : List (String × Node))

/-- The names that lead to a node. -/
abbrev Location := List String

namespace Node

def find? : Node → Location → Option Node
  | n, [] => some n
  | .directory entries, name :: rest => do (← Entries.find? name entries).find? rest
  | _, _ :: _ => none

/-- Puts a node at a location whose directory exists. -/
def put : Node → Location → Node → Node
  | _, [], x => x
  | .directory entries, [name], x => .directory (Entries.put name x entries)
  | .directory entries, name :: rest, x => match Entries.find? name entries with
    | some n => .directory (Entries.put name (n.put rest x) entries)
    | none => .directory entries
  | n, _ :: _, _ => n

def erase : Node → Location → Node
  | n, [] => n
  | .directory entries, [name] => .directory (Entries.erase name entries)
  | .directory entries, name :: rest => match Entries.find? name entries with
    | some n => .directory (Entries.put name (n.erase rest) entries)
    | none => .directory entries
  | n, _ :: _ => n

def isDirectory : Node → Bool
  | .directory _ => true
  | _ => false

/-- Empty directories inside each other. -/
def ofLocation : Location → Node
  | [] => .directory []
  | name :: rest => .directory [(name, ofLocation rest)]

end Node

end SettingsStore
