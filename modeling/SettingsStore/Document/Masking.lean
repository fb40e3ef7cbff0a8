import SettingsStore.Document.Decode
import SettingsStore.Document.Field

/-!
# Masking secrets

Secrets never leave in the open: a masked document shows the mask instead of every secret text that
is not empty, and of every item of a secret list. `unmask` puts the secrets of another document back
wherever a document still has nothing but the mask. Both go through the value of the document,
secret by secret, and leave a document alone whose value would be no document any more. They are
irreducible: what becomes of each secret is proved once and used from there.
-/

namespace SettingsStore

/-- The text that stands for a secret. -/
def mask : String := "********"

namespace Json

def isMask : Json → Bool
  | .str s => s == mask
  | _ => false

/-- What is shown instead of a secret, unless there is nothing to hide. -/
def masked? : Json → Option Json
  | .str s => if s = "" then none else some (.str mask)
  | .arr items => some (.arr (items.map fun _ => .str mask))
  | _ => none

end Json

/-- Whether a value of a kind is nothing but the mask. -/
def Kind.isMask : Kind → Json → Bool
  | .strList, .arr items => !items.isEmpty && items.all Json.isMask
  | _, value => value.isMask

namespace Leaf

def secrets : List Leaf := all.filter isSecret

/-- The value of a document with a secret masked. -/
def hide (doc : Json) (l : Leaf) : Json :=
  match (l.field.find? doc).bind Json.masked? with
  | some shown => l.field.write shown doc
  | none => doc

/-- The value of a document with a secret of `source` in the place of its mask, and whether a mask
was found so far. -/
def reveal (source : Json) (doc : Json × Bool) (l : Leaf) : Json × Bool :=
  if (l.field.find? doc.1).any l.field.kind.isMask then
    match l.field.find? source with
    | some original => (l.field.write original doc.1, true)
    | none => doc
  else doc

end Leaf

namespace Document

@[irreducible]
def masked (d : Document) : Document :=
  match ofJson (Leaf.secrets.foldl Leaf.hide d.toJson) with
  | .ok d' => d'
  | .error _ => d

/-- The document with the secrets of `actual` in place of masks. -/
@[irreducible]
def unmask (d actual : Document) : Document :=
  let (doc, restored) := Leaf.secrets.foldl (Leaf.reveal actual.toJson) (d.toJson, false)
  if restored then
    match ofJson doc with
    | .ok d' => d'
    | .error _ => d
  else d

end Document

end SettingsStore
