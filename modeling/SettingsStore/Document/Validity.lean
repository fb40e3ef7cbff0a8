import SettingsStore.Document.Field
import SettingsStore.Document.Repair
import SettingsStore.Json.Fault
import SettingsStore.Url.Basic

/-!
# Valid documents

What must hold of a document before it is put to use. All violations are found, in the order of the
sections, and each names the setting at fault.
-/

namespace SettingsStore

inductive Problem where
  | unsupportedScheme (scheme : String)
  | invalidUrl (fault : Url.Fault)
  | notPositive
  | unknownDriver (driver : String)
  | unset
  | moreIdleThanOpen (idle limit : UInt32)
  | lengthOutside (length : UInt32)
  | shortSalt
  | invalidPort (port : String)
  | unsupportedLocale (locale : String)
  | unknownLevel (level : String)
  | uploadsWithoutPlugins
  /-- An environment variable without a value for its setting. -/
  | variable (name cause : String)
  | patchNotObject
  | unexpectedValue (value : Json)
  | unreadable (fault : Json.Fault)
deriving Repr

def minimumLength : UInt32 := 5

def maximumLength : UInt32 := 64

def Problem.message : Problem → String
  | .unsupportedScheme scheme => "unsupported scheme " ++ Text.quoted scheme
  | .invalidUrl fault => "invalid URL: " ++ fault.message
  | .notPositive => "must be greater than 0"
  | .unknownDriver driver => "unknown driver " ++ Text.quoted driver
  | .unset => "must be set"
  | .moreIdleThanOpen idle limit =>
    toString idle.toNat ++ " exceeds max_open_conns (" ++ toString limit.toNat ++ ")"
  | .lengthOutside length =>
    toString length.toNat ++ " is outside " ++ toString minimumLength.toNat ++ "..="
      ++ toString maximumLength.toNat
  | .shortSalt => "must be at least 32 characters"
  | .invalidPort port => Text.quoted port ++ " is not a valid port"
  | .unsupportedLocale locale => "unsupported locale " ++ Text.quoted locale
  | .unknownLevel level => "unknown level " ++ Text.quoted level
  | .uploadsWithoutPlugins => "plugin uploads require plugins to be enabled"
  | .variable name cause => name ++ ": " ++ cause
  | .patchNotObject => "patch must be a JSON object"
  | .unexpectedValue value => "unexpected value " ++ value.compact
  | .unreadable fault => fault.message

/-- A problem with one setting, or with the document as a whole. -/
structure Violation where
  leaf : Option Leaf
  problem : Problem
deriving Repr

namespace Violation

def field (v : Violation) : String :=
  match v.leaf with
  | some l => l.path
  | none => "config"

def text (v : Violation) : String := v.field ++ ": " ++ v.problem.message

def texts (vs : List Violation) : String := Text.join ", " (vs.map text)

end Violation

/-- A list with one violation if the condition is broken. -/
def require (ok : Bool) (leaf : Leaf) (problem : Problem) : List Violation :=
  if ok then [] else [⟨some leaf, problem⟩]

namespace Document

def siteUrlProblem? (siteUrl : String) : Option Problem :=
  if siteUrl.isEmpty then none
  else match Url.parse siteUrl with
    | .error fault => some (.invalidUrl fault)
    | .ok url =>
      if url.scheme = "http" ∨ url.scheme = "https" then none
      else some (.unsupportedScheme url.scheme)

/-- A decimal number of 16 bits, possibly with a plus sign. -/
def isPort (s : String) : Bool :=
  let ds := match s.toList with
    | '+' :: ds => ds
    | ds => ds
  !ds.isEmpty && ds.all (·.isDigit)
    && decide (ds.foldl (fun n c => n * 10 + (c.toNat - 48)) 0 < Word.count 16)

def serviceViolations (s : ServiceSettings) : List Violation :=
  (siteUrlProblem? s.siteUrl).toList.map (⟨some .siteUrl, ·⟩)
    ++ require (s.maximumLoginAttempts ≠ 0) .maximumLoginAttempts .notPositive
    ++ require (s.sessionLengthWebInDays ≠ 0) .sessionLengthWebInDays .notPositive

def sqlDrivers : List String := ["sqlite", "postgres", "mysql"]

def sqlViolations (s : SqlSettings) : List Violation :=
  require (sqlDrivers.contains s.driverName) .sqlDriver (.unknownDriver s.driverName)
    ++ require (s.dataSource.any (· ≠ "")) .dataSource .unset
    ++ require (s.maxOpenConns ≠ 0) .maxOpenConns .notPositive
    ++ require (s.maxIdleConns ≤ s.maxOpenConns) .maxIdleConns
      (.moreIdleThanOpen s.maxIdleConns s.maxOpenConns)
    ++ require (s.queryTimeout ≠ 0) .queryTimeout .notPositive

def passwordViolations (s : PasswordSettings) : List Violation :=
  require (minimumLength ≤ s.minimumLength ∧ s.minimumLength ≤ maximumLength) .minimumLength
    (.lengthOutside s.minimumLength)

def fileDrivers : List String := ["local", "amazons3"]

def minimumSaltBytes : Nat := 32

def fileViolations (s : FileSettings) : List Violation :=
  require (fileDrivers.contains s.driverName) .fileDriver (.unknownDriver s.driverName)
    ++ require (0 < s.maxFileSize) .maxFileSize .notPositive
    ++ require (s.publicLinkSalt.all (minimumSaltBytes ≤ ·.utf8ByteSize)) .publicLinkSalt .shortSalt

def emailViolations (s : EmailSettings) : List Violation :=
  require (s.smtpPort.isEmpty || isPort s.smtpPort) .smtpPort (.invalidPort s.smtpPort)

def localizationViolations (s : LocalizationSettings) : List Violation :=
  ((Text.entries s.availableLocales).filter (!Locale.isSupported ·)).map fun locale =>
    ⟨some .availableLocales, .unsupportedLocale locale⟩

def rateLimitViolations (s : RateLimitSettings) : List Violation :=
  if s.enable then
    require (s.perSec ≠ 0) .perSec .notPositive ++ require (s.maxBurst ≠ 0) .maxBurst .notPositive
  else []

def logLevels : List String := ["DEBUG", "INFO", "WARN", "ERROR"]

def logViolations (s : LogSettings) : List Violation :=
  require (logLevels.contains s.consoleLevel) .consoleLevel (.unknownLevel s.consoleLevel)

def pluginViolations (s : PluginSettings) : List Violation :=
  require (!s.enableUploads || s.enable) .enableUploads .uploadsWithoutPlugins

def violations (d : Document) : List Violation :=
  serviceViolations d.service ++ sqlViolations d.sql ++ passwordViolations d.password
    ++ fileViolations d.files ++ emailViolations d.email ++ localizationViolations d.localization
    ++ rateLimitViolations d.rateLimit ++ logViolations d.log ++ pluginViolations d.plugins

end Document

end SettingsStore
