/-!
# Settings documents

A document holds the settings of a server in ten sections. The default value of a field is the one
that a document without it has. Optional fields stand for values that depend on where the document
is kept or that are generated once; they are empty until they are filled in.
-/

namespace SettingsStore

structure ServiceSettings where
  siteUrl : String := ""
  listenAddress : String := ":8065"
  enableDeveloper : Bool := false
  allowCookiesForSubdomains : Bool := false
  maximumLoginAttempts : UInt32 := 10
  sessionLengthWebInDays : UInt32 := 30
  trustedProxyIpHeader : List String := []
deriving DecidableEq, Repr

structure SqlSettings where
  driverName : String := "sqlite"
  dataSource : Option String := none
  dataSourceReplicas : List String := []
  maxIdleConns : UInt32 := 20
  maxOpenConns : UInt32 := 300
  queryTimeout : UInt32 := 30
deriving DecidableEq, Repr

structure PasswordSettings where
  minimumLength : UInt32 := 10
  lowercase : Bool := true
  number : Bool := true
  uppercase : Bool := true
  symbol : Bool := true
deriving DecidableEq, Repr

structure FileSettings where
  driverName : String := "local"
  directory : String := "./data/"
  maxFileSize : Int64 := 104857600
  publicLinkSalt : Option String := none
deriving DecidableEq, Repr

structure EmailSettings where
  enableSignUpWithEmail : Bool := true
  feedbackName : String := ""
  smtpServer : String := "localhost"
  smtpPort : String := "10025"
  smtpPassword : String := ""
deriving DecidableEq, Repr

structure LocalizationSettings where
  defaultServerLocale : Option String := none
  defaultClientLocale : Option String := none
  availableLocales : String := ""
deriving DecidableEq, Repr

structure RateLimitSettings where
  enable : Bool := false
  perSec : UInt32 := 10
  maxBurst : UInt32 := 100
deriving DecidableEq, Repr

structure LogSettings where
  enableConsole : Bool := true
  consoleLevel : String := "INFO"
  fileLocation : String := ""
deriving DecidableEq, Repr

structure ExperimentalSettings where
  restrictSystemAdmin : Bool := false
  clientSideCertEnable : Bool := false
deriving DecidableEq, Repr

structure PluginSettings where
  enable : Bool := true
  enableUploads : Bool := false
  directory : String := "./plugins"
deriving DecidableEq, Repr

structure Document where
  service : ServiceSettings := {}
  sql : SqlSettings := {}
  password : PasswordSettings := {}
  files : FileSettings := {}
  email : EmailSettings := {}
  localization : LocalizationSettings := {}
  rateLimit : RateLimitSettings := {}
  log : LogSettings := {}
  experimental : ExperimentalSettings := {}
  plugins : PluginSettings := {}
deriving DecidableEq, Repr

namespace Document

/-- The document in which every setting has its default. -/
def default : Document := {}

end Document

end SettingsStore
