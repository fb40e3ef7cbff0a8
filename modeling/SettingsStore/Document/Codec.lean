import SettingsStore.Disk.Path
import SettingsStore.Document.Decode
import SettingsStore.Document.Encode
import SettingsStore.Document.Repair
import SettingsStore.Error
import SettingsStore.Json.Printer
import SettingsStore.Toml.Printer
import SettingsStore.Toml.Reader

/-!
# Documents as bytes

Documents are stored as JSON or TOML, with their sections in a fixed order. What is unset is null in
JSON and left out of TOML. Reading accepts every text of the format.
-/

namespace SettingsStore

inductive Codec where
  | json
  | toml
deriving DecidableEq, Repr

/-- The text of a value in TOML, unless it is unset. -/
def LeafType.toToml? : (t : LeafType) → t.Value → Option String
  | .str, (s : String) => some (Toml.stringText s)
  | .optStr, (s : Option String) => s.map Toml.stringText
  | .bool, (b : Bool) => some (if b then "true" else "false")
  | .word32, (n : UInt32) => some (toString n.toNat)
  | .int64, (n : Int64) => some (toString n.toInt)
  | .strList, (ss : List String) => some (Toml.stringsText ss)

namespace Document

def tomlLines (d : Document) (s : Section) : List String :=
  (Leaf.ofSection s).filterMap fun l =>
    (l.type.toToml? (d.get l)).map fun value => l.name ++ " = " ++ value ++ "\n"

def toTomlText (d : Document) : String :=
  Text.join "\n" (Section.all.map fun s => "[" ++ s.key ++ "]\n" ++ String.join (d.tomlLines s))

def toJsonText (d : Document) : String := d.outline.pretty

/-- Reads a text of TOML. -/
def ofTomlText (text : String) : Except DecodeError Document :=
  match Toml.parse? text with
  | none => .error .toml
  | some root => (ofTree .ignored (Toml.Item.table .header root).toTree).mapError fun _ => .toml

end Document

namespace Codec

/-- The format of a file: TOML if its name says so in letters of either case, and else JSON. -/
def ofPath (path : String) : Codec :=
  match (Path.fileName? path).bind Path.extension? with
  | some ext => if ext.toLower = "toml" then .toml else .json
  | none => .json

def encode (c : Codec) (d : Document) : Bytes :=
  match c with
  | .json => d.toJsonText.toUTF8
  | .toml => d.toTomlText.toUTF8

def decode (c : Codec) (bs : Bytes) : Except DecodeError Document :=
  match c with
  | .json => (Document.ofSource (Json.Source.ofBytes bs)).mapError .json
  | .toml => match Text.ofBytes? bs with
    | some text => Document.ofTomlText text
    | none => .error .notUtf8

end Codec

/-- The document of a file's bytes, completed and repaired, if it is valid. -/
def Document.ofFile (codec : Codec) (salt : String) (bs : Bytes) : Except LoadError Document := do
  let d ← (codec.decode bs).mapError .unreadable
  let d := (d.fill salt).repaired
  match d.violations with
  | [] => return d
  | violations => throw (.invalid violations)

end SettingsStore
