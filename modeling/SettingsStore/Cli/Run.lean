import SettingsStore.Access.Filter
import SettingsStore.Cli.Help
import SettingsStore.Json.Reader
import SettingsStore.Store.Open

/-!
# Running commands

Commands show and change a store for the roles that the user acts in. What a command prints, its
exit code and the disk after it depend on the arguments, the environment, the disk before it and
the identifiers it may use.
-/

namespace SettingsStore

/-- The name of a kind of error. -/
def StoreError.label : StoreError → String
  | .undecodable _ => "Deserialization"
  | .invalid _ => "Validation"
  | .persistence _ => "Persistence"
  | .permissionDenied _ => "PermissionDenied"
  | .unknownSetting _ => "UnknownSetting"
  | .readOnly => "ReadOnly"
  | .invalidDsn _ _ => "InvalidDsn"
  | .unwatchable => "Watch"
  | .closed => "Closed"

/-- Paths of overridden settings, in ascending order. -/
def overriddenPaths (leaves : List Leaf) : List String := (leaves.map Leaf.path).mergeSort

namespace Cli

/-- Why a command failed. -/
inductive Failure where
  | refused (roles : List String) (deed : String)
  | patchNotRead
  | patchNotJson (fault : Json.SyntaxFault)
  | store (cause : StoreError)
  | file (cause : LoadError)

/-- The first word names the kind of failure, except that a refusal is only quoted. -/
def Failure.message : Failure → String
  | .refused roles deed =>
    Text.quoted ("roles " ++ Text.quotedList roles ++ " may not " ++ deed ++ " the configuration")
  | .patchNotRead => "Os: cannot read the patch file"
  | .patchNotJson fault => "Error: " ++ fault.message
  | .store cause => cause.label ++ ": " ++ cause.message
  | .file cause => cause.message

/-- What a run leaves behind. -/
structure Report where
  code : Nat
  output : String
  errors : String
  disk : Disk

/-- Identifiers that a run may use, all of them different. -/
abbrev Ids := Nat → String

def session (i : Invocation) : Filter :=
  ⟨.standard, (Roles.builtin .standard).caller i.roles⟩

/-- Opens the store of an invocation, which watches nothing. -/
def openStore (ids : Ids) (env : Environment) (i : Invocation) (readOnly : Bool) (disk : Disk) :
    Opened Unit :=
  Store.openNamed .unlimited { Options.default with watch := false, readOnly, environment := env }
    (ids 0) ⟨ids 1, ids 2⟩ i.store disk

/-- What a store shows that is opened only to be read, and the disk after it. -/
def reading (ids : Ids) (env : Environment) (i : Invocation) (disk : Disk)
    (view : Store Place Unit → String) : Except Failure String × Disk :=
  let opened := openStore ids env i true disk
  ((opened.result.map view).mapError .store, opened.disk)

def jsonOutput (j : Json) : String := j.pretty ++ "\n"

def runShow (ids : Ids) (env : Environment) (i : Invocation) (disk : Disk) :
    Except Failure String × Disk :=
  let f := session i
  if !f.canReadAny then (.error (.refused i.roles "read"), disk)
  else reading ids env i disk fun s => jsonOutput (f.project s.active)

def readPatch (file : String) (disk : Disk) : Except Failure Json :=
  match disk.read file with
  | .error _ => .error .patchNotRead
  | .ok bytes => (Json.parse bytes).mapError .patchNotJson

/-- Changes the store, and gives the disk after it. -/
def runSet (ids : Ids) (env : Environment) (i : Invocation) (file : String) (disk : Disk) :
    Except Failure String × Disk :=
  let f := session i
  if !f.canWriteAny then (.error (.refused i.roles "change"), disk)
  else match readPatch file disk with
    | .error e => (.error e, disk)
    | .ok patch =>
      let opened := openStore ids env i false disk
      match opened.result with
      | .error e => (.error (.store e), opened.disk)
      | .ok s => match f.applyPatch s.active patch with
        | .error e => (.error (.store e), s.medium.disk)
        | .ok candidate =>
          let (saved, s) := s.set ⟨ids 3, ids 4⟩ candidate
          ((saved.map fun d => jsonOutput (f.project d)).mapError .store, s.medium.disk)

/-- Loads a document from a file, completed and repaired, if it is valid. -/
def loadFile (salt : String) (file : String) (disk : Disk) : Except LoadError Document :=
  match disk.read file with
  | .error _ => .error .io
  | .ok bytes => Document.ofFile (Codec.ofPath file) salt bytes

def runValidate (ids : Ids) (file : String) (disk : Disk) : Except Failure String :=
  match loadFile (ids 0) file disk with
  | .ok _ => .ok (file ++ " is valid\n")
  | .error e => .error (.file e)

def runOverrides (ids : Ids) (env : Environment) (i : Invocation) (disk : Disk) :
    Except Failure String × Disk :=
  reading ids env i disk fun s => String.join ((overriddenPaths s.overridden).map (· ++ "\n"))

/-- The width of the column of identifiers. -/
def idWidth : Nat := 45

def permissionLines : String :=
  String.join (Catalog.standard.permissions.map fun p =>
    padded idWidth p.id ++ " " ++ p.scope ++ "\n")

def runCommand (ids : Ids) (env : Environment) (i : Invocation) (disk : Disk) :
    Except Failure String × Disk :=
  match i.command with
  | .show => runShow ids env i disk
  | .set file => runSet ids env i file disk
  | .validate file => (runValidate ids file disk, disk)
  | .overrides => runOverrides ids env i disk
  | .permissions => (.ok permissionLines, disk)

def run (ids : Ids) (args : List String) (env : Environment) (disk : Disk) : Report :=
  match parse env args with
  | .misuse => ⟨2, "", helpText env .program, disk⟩
  | .help topic => ⟨0, helpText env topic, "", disk⟩
  | .run i => match runCommand ids env i disk with
    | (.ok output, disk) => ⟨0, output, "", disk⟩
    | (.error e, disk) => ⟨1, "", "Error: " ++ e.message ++ "\n", disk⟩

end Cli

end SettingsStore
