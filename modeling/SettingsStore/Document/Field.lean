import SettingsStore.Decimal.Power
import SettingsStore.Document.Encode
import SettingsStore.Json.Path
import SettingsStore.Text.Blank
import SettingsStore.Text.Quoted
import SettingsStore.Text.Uppercase

/-!
# Fields

A field describes a setting to those who handle settings by name: its dotted path, the scopes that
give access to it, the kind of its value and whether the value is a secret. Every leaf has a field.
-/

namespace SettingsStore

inductive Kind where
  | str
  | optStr
  | bool
  | int
  | strList
deriving DecidableEq, Repr

def LeafType.kind : LeafType → Kind
  | .str => .str
  | .optStr => .optStr
  | .bool => .bool
  | .word32 | .int64 => .int
  | .strList => .strList

/-- Whether a value is of a kind. -/
def Kind.accepts : Kind → Json → Bool
  | .str, .str _ | .optStr, .str _ | .optStr, .null | .bool, .bool _ | .int, .num (.int _) => true
  | .strList, .arr items => items.all Json.isString
  | _, _ => false

structure Field where
  path : String
  /-- Scopes, separated by commas. -/
  access : String
  kind : Kind
  secret : Bool
deriving DecidableEq, Repr

namespace Field

/-- The access token of fields that system administrators may be barred from writing. -/
def writeRestrictable : String := "write_restrictable"

def segments (f : Field) : List String := Text.splitAt '.' f.path

/-- The first segment of the path. -/
def home (f : Field) : String := f.segments.headD f.path

def accessTokens (f : Field) : List String := Text.entries f.access

def isWriteRestrictable (f : Field) : Bool := f.accessTokens.contains writeRestrictable

/-- The environment variable that overrides the field. -/
def variableName (f : Field) (lead : String) : String :=
  Text.upper (lead ++ "_" ++ Text.join "_" f.segments)

/-- The value of the field in a document given as a value. -/
def find? (f : Field) (doc : Json) : Option Json := doc.get? f.segments

/-- The document with another value of the field; parents that are missing are made. -/
def write (f : Field) (value doc : Json) : Json := doc.put f.segments value

/-- A decimal integer of 64 bits, with an optional sign. -/
def parseInt64? (s : String) : Option Int :=
  let (negative, ds) := match s.toList with
    | '-' :: ds => (true, ds)
    | '+' :: ds => (false, ds)
    | ds => (false, ds)
  if ds.isEmpty || !ds.all (·.isDigit) then none
  else
    let n : Int := ds.foldl (fun n c => n * 10 + (c.toNat - 48)) 0
    let n := if negative then -n else n
    if Word.isSigned64 n then some n else none

/-- The value that an environment variable gives the field, or why it gives none. -/
def parseVariable (f : Field) (raw : String) : Except String Json :=
  match f.kind with
  | .str | .optStr => .ok (.str raw)
  | .bool =>
    if Text.trim raw = "true" then .ok (.bool true)
    else if Text.trim raw = "false" then .ok (.bool false)
    else .error ("expected true or false, got " ++ Text.quoted raw)
  | .int => match parseInt64? (Text.trim raw) with
    | some n => .ok (.num (.int n))
    | none => .error ("expected an integer, got " ++ Text.quoted raw)
  | .strList => .ok (.arr ((Text.words raw).map .str))

end Field

namespace Leaf

def access : Leaf → String
  | .siteUrl => "environment,authentication,write_restrictable"
  | .listenAddress | .trustedProxyIpHeader | .sqlDriver | .dataSource | .dataSourceReplicas
  | .maxIdleConns | .maxOpenConns | .queryTimeout | .fileDriver | .fileDirectory
  | .enableConsole | .consoleLevel | .fileLocation => "environment,write_restrictable"
  | .enableDeveloper | .sessionLengthWebInDays | .maxFileSize | .smtpServer | .smtpPort
  | .smtpPassword | .enableRateLimit | .perSec | .maxBurst => "environment"
  | .allowCookiesForSubdomains => "write_restrictable"
  | .maximumLoginAttempts | .minimumLength | .lowercase | .number | .uppercase | .symbol
  | .enableSignUpWithEmail => "authentication"
  | .publicLinkSalt | .feedbackName | .defaultServerLocale | .defaultClientLocale
  | .availableLocales => "site"
  | .restrictSystemAdmin => "experimental,write_restrictable"
  | .clientSideCertEnable => "experimental"
  | .enablePlugins | .enableUploads => "plugins,write_restrictable"
  | .pluginDirectory => ""

def isSecret : Leaf → Bool
  | .dataSource | .dataSourceReplicas | .publicLinkSalt | .smtpPassword => true
  | _ => false

def field (l : Leaf) : Field := ⟨l.path, l.access, l.type.kind, l.isSecret⟩

def ofPath? (path : String) : Option Leaf := all.find? (·.path = path)

end Leaf

namespace Field

/-- The fields of all leaves, in order. -/
def all : List Field := Leaf.all.map Leaf.field

def ofPath? (path : String) : Option Field := all.find? (·.path = path)

/-- Paths of the fields whose values differ between two documents. -/
def changed (old new : Json) : List String :=
  (all.filter fun f => !sameValue (f.find? old) (f.find? new)).map (·.path)
where
  sameValue : Option Json → Option Json → Bool
    | none, none => true
    | some a, some b => a.same b
    | _, _ => false

end Field

end SettingsStore
