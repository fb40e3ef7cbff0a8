import SettingsStore.Document.Leaf
import SettingsStore.Json.Basic

/-!
# Documents as values

The value of a document is an object of its sections, each an object of its settings. `outline` has
them in the order in which documents are written, `toJson` in ascending order of their names.
-/

namespace SettingsStore

def LeafType.toJson : (t : LeafType) → t.Value → Json
  | .str, (s : String) => .str s
  | .optStr, (none : Option String) => .null
  | .optStr, some s => .str s
  | .bool, (b : Bool) => .bool b
  | .word32, (n : UInt32) => .num (.int n.toNat)
  | .int64, (n : Int64) => .num (.int n.toInt)
  | .strList, (ss : List String) => .arr (ss.map .str)

namespace Document

def leafMembers (d : Document) (s : Section) : List (String × Json) :=
  (Leaf.ofSection s).map fun l => (l.name, l.type.toJson (d.get l))

def outline (d : Document) : Json :=
  .obj (Section.all.map fun s => (s.key, .obj (d.leafMembers s)))

def toJson (d : Document) : Json :=
  .ofMembers (Section.all.map fun s => (s.key, .ofMembers (d.leafMembers s)))

end Document

end SettingsStore
