import SettingsStore.Access.Roles
import SettingsStore.Document.Decode
import SettingsStore.Document.Masking
import SettingsStore.Error

/-!
# Access to single settings

Each scope of a setting gives access to those who hold the console permission for it, and whoever
manages the system has access to everything. While the document restricts system administrators,
settings marked for it cannot be written by anybody. A caller is shown the settings that it may
read, with secrets masked, and a patch may change the settings that it may write.
-/

namespace SettingsStore

/-- The permissions that exist, and somebody who holds some of them. -/
structure Filter where
  catalog : Catalog
  caller : Caller

namespace Filter

def holds (f : Filter) (id : String) : Bool := (f.catalog.find? id).any f.caller

/-- Tokens of an access tag that name a scope. -/
def scopes (field : Field) : List String :=
  field.accessTokens.filter (· ≠ Field.writeRestrictable)

def isAllowed (f : Filter) (field : Field) (access : Access) (restricted : Bool) : Bool :=
  if access = .write ∧ restricted ∧ field.isWriteRestrictable then false
  else (scopes field).any (fun scope => f.holds (access.permissionId scope))
    || f.holds manageSystem

def holdsAny (f : Filter) (access : Access) : Bool :=
  f.holds manageSystem || (f.catalog.console access).any f.caller

def canReadAny (f : Filter) : Bool := f.holdsAny .read

def canWriteAny (f : Filter) : Bool := f.holdsAny .write

/-! ## Reading -/

def readable (f : Filter) (d : Document) : List Leaf :=
  Leaf.all.filter fun l => f.isAllowed l.field .read d.restrictsSystemAdmin

/-- An object with all sections and nothing in them. -/
def emptySections : Json := .ofMembers (Section.all.map fun s => (s.key, .obj []))

/-- What the caller is shown of a document: every section, and in it the settings it may read. -/
def project (f : Filter) (d : Document) : Json :=
  (f.readable d).foldl
    (fun out l => l.field.write (l.type.toJson (d.masked.get l)) out) emptySections

/-! ## Writing -/

/-- Whether a path is followed by a dot in the path of some setting. -/
def isSectionPath (path : String) : Bool :=
  Field.all.any fun field => (path ++ ".").toList.isPrefixOf field.path.toList

def extendPath (base key : String) : String := if base = "" then key else base ++ "." ++ key

mutual
/-- The values of a patch with their paths, in order. Objects are sections unless they stand at the
path of a setting. -/
def collect (path : String) : Json → Except StoreError (List (String × Json))
  | .obj members =>
    if (Field.ofPath? path).isSome then .ok [(path, .obj members)]
    else if isSectionPath path then collectMembers path members
    else .error (.unknownSetting path)
  | value => .ok [(path, value)]

def collectMembers (base : String) : List (String × Json) →
    Except StoreError (List (String × Json))
  | [] => .ok []
  | (key, value) :: rest => do
    let first ← collect (extendPath base key) value
    return first ++ (← collectMembers base rest)
end

/-- Writes one value of a patch, unless it is a mask or nothing new. -/
def applyLeaf (f : Filter) (restricted : Bool) (doc : Json) (path : String) (value : Json) :
    Except StoreError Json :=
  match Leaf.ofPath? path with
  | none => .error (.unknownSetting path)
  | some l =>
    if l.isSecret && value.isMask then .ok doc
    else if (l.field.find? doc).any (·.same value) then .ok doc
    else if !l.type.kind.accepts value then .error (.invalid [⟨some l, .unexpectedValue value⟩])
    else if !f.isAllowed l.field .write restricted then .error (.permissionDenied path)
    else .ok (l.field.write value doc)

/-- The document with the changes of a patch. -/
def applyPatch (f : Filter) (base : Document) (patch : Json) : Except StoreError Document :=
  match patch with
  | .obj members => do
    let leaves ← collectMembers "" members
    let doc ← leaves.foldlM
      (fun doc (path, value) => f.applyLeaf base.restrictsSystemAdmin doc path value) base.toJson
    match Document.ofJson doc with
    | .ok d => return d
    | .error fault => throw (.invalid [⟨none, .unreadable fault⟩])
  | _ => .error (.invalid [⟨none, .patchNotObject⟩])

end Filter

end SettingsStore
