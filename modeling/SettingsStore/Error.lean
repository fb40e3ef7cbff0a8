import SettingsStore.Document.Validity

/-!
# Errors

Why an operation on documents, media and stores failed, with the texts that users see.
-/

namespace SettingsStore

/-- Why bytes are not a document. -/
inductive DecodeError where
  | json (fault : Json.Fault)
  | toml
  | notUtf8
deriving Repr

def DecodeError.message : DecodeError → String
  | .json fault => "JSON error: " ++ fault.message
  | .toml => "TOML parse error"
  | .notUtf8 => "document is not valid UTF-8"

/-- Why a medium failed. -/
inductive PersistenceError where
  | io
  | database
  | tooLarge (limit actual : Nat)
  | fileNotFound (name : String)
deriving DecidableEq, Repr

def PersistenceError.message : PersistenceError → String
  | .io => "IO error"
  | .database => "database error"
  | .tooLarge limit actual =>
    "value is too long: " ++ toString actual ++ " > " ++ toString limit ++ " bytes"
  | .fileNotFound name => "config file " ++ Text.quoted name ++ " not found"

/-- Why a store refused an operation. -/
inductive StoreError where
  | undecodable (cause : DecodeError)
  | invalid (violations : List Violation)
  | persistence (cause : PersistenceError)
  | permissionDenied (path : String)
  | unknownSetting (path : String)
  | readOnly
  | invalidDsn (dsn reason : String)
  /-- Changes of the medium cannot be followed. -/
  | unwatchable
  | closed
deriving Repr

def StoreError.message : StoreError → String
  | .undecodable cause => "failed to deserialize configuration: " ++ cause.message
  | .invalid violations => "invalid configuration: " ++ Violation.texts violations
  | .persistence cause => "failed to persist configuration: " ++ cause.message
  | .permissionDenied path => "permission denied to modify " ++ path
  | .unknownSetting path => "unknown setting " ++ path
  | .readOnly => "configuration is read-only"
  | .invalidDsn dsn reason => "invalid DSN " ++ Text.quoted dsn ++ ": " ++ reason
  | .unwatchable => "failed to watch configuration"
  | .closed => "store is closed"

/-- Why a file cannot be loaded as a document. -/
inductive LoadError where
  | io
  | unreadable (cause : DecodeError)
  | invalid (violations : List Violation)
deriving Repr

def LoadError.message : LoadError → String
  | .io => "IO error"
  | .unreadable cause => "Parse error: " ++ cause.message
  | .invalid violations => "Validation failed: " ++ Violation.texts violations

end SettingsStore
