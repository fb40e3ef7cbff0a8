import SettingsStore.Json.Tree

/-!
# Reading any value

`Json.parse` reads a text as one value. Of the members with one key the last one counts, and members
are put in ascending order. Values may be nested 127 levels deep.
-/

namespace SettingsStore.Json

def maxDepth : Nat := 128

def checkSyntax : Option Stop → Except SyntaxFault Unit
  | none => .ok ()
  | some stop => .error stop.reading

/-- The value of a tree with fewer than `depth` levels. -/
def Tree.value (depth : Nat) (t : Tree) : Except SyntaxFault Json :=
  match depth, t with
  | _, .literal .null => .ok .null
  | _, .literal (.bool b) => .ok (.bool b)
  | _, .num n => .num <$> n
  | _, .str s => .str <$> s
  | _, .broken cause => .error cause.reading
  | depth + 2, .list items stop => do
    let items ← items.mapM (Tree.value (depth + 1))
    checkSyntax stop
    return .arr items
  | depth + 2, .object members stop => do
    let members ← members.mapM fun (key, t) => do return (← key, ← Tree.value (depth + 1) t)
    checkSyntax stop
    return .ofMembers members
  | _, _ => .error .tooDeep

def parse (bs : Bytes) : Except SyntaxFault Json := do
  let s := Source.ofBytes bs
  let j ← s.root.value maxDepth
  if s.trailing then throw .trailingCharacters
  return j

end SettingsStore.Json
