import SettingsStore.Document.Basic

/-!
# Leaves of a document

Every single setting is a leaf: it belongs to a section, has a name there and a type. `get` and `set`
read and write one leaf of a document. They obey the laws of independent cells, and a document is
determined by its leaves.
-/

namespace SettingsStore

/-- The sections of a document. -/
inductive Section where
  | service
  | sql
  | password
  | files
  | email
  | localization
  | rateLimit
  | log
  | experimental
  | plugins
deriving DecidableEq, Repr

namespace Section

/-- The name of a section in a document. -/
def key : Section → String
  | .service => "service_settings"
  | .sql => "sql_settings"
  | .password => "password_settings"
  | .files => "file_settings"
  | .email => "email_settings"
  | .localization => "localization_settings"
  | .rateLimit => "rate_limit_settings"
  | .log => "log_settings"
  | .experimental => "experimental_settings"
  | .plugins => "plugin_settings"

/-- The name of a section in messages. -/
def typeName : Section → String
  | .service => "ServiceSettings"
  | .sql => "SqlSettings"
  | .password => "PasswordSettings"
  | .files => "FileSettings"
  | .email => "EmailSettings"
  | .localization => "LocalizationSettings"
  | .rateLimit => "RateLimitSettings"
  | .log => "LogSettings"
  | .experimental => "ExperimentalSettings"
  | .plugins => "PluginSettings"

/-- All sections, in the order in which documents are written. -/
def all : List Section :=
  [.service, .sql, .password, .files, .email, .localization, .rateLimit, .log, .experimental,
    .plugins]

theorem mem_all (s : Section) : s ∈ all := by cases s <;> decide

end Section

/-- What a leaf can hold. -/
inductive LeafType where
  | str
  | optStr
  | bool
  | word32
  | int64
  | strList
deriving DecidableEq, Repr

/-- The values of a type. -/
abbrev LeafType.Value : LeafType → Type
  | .str => String
  | .optStr => Option String
  | .bool => Bool
  | .word32 => UInt32
  | .int64 => Int64
  | .strList => List String

instance (t : LeafType) : DecidableEq t.Value :=
  match t with
  | .str => inferInstanceAs (DecidableEq String)
  | .optStr => inferInstanceAs (DecidableEq (Option String))
  | .bool => inferInstanceAs (DecidableEq Bool)
  | .word32 => inferInstanceAs (DecidableEq UInt32)
  | .int64 => inferInstanceAs (DecidableEq Int64)
  | .strList => inferInstanceAs (DecidableEq (List String))

/-- The settings. -/
inductive Leaf where
  | siteUrl
  | listenAddress
  | enableDeveloper
  | allowCookiesForSubdomains
  | maximumLoginAttempts
  | sessionLengthWebInDays
  | trustedProxyIpHeader
  | sqlDriver
  | dataSource
  | dataSourceReplicas
  | maxIdleConns
  | maxOpenConns
  | queryTimeout
  | minimumLength
  | lowercase
  | number
  | uppercase
  | symbol
  | fileDriver
  | fileDirectory
  | maxFileSize
  | publicLinkSalt
  | enableSignUpWithEmail
  | feedbackName
  | smtpServer
  | smtpPort
  | smtpPassword
  | defaultServerLocale
  | defaultClientLocale
  | availableLocales
  | enableRateLimit
  | perSec
  | maxBurst
  | enableConsole
  | consoleLevel
  | fileLocation
  | restrictSystemAdmin
  | clientSideCertEnable
  | enablePlugins
  | enableUploads
  | pluginDirectory
deriving DecidableEq, Repr

namespace Leaf

/-- All leaves, in the order in which documents are written. -/
def all : List Leaf :=
  [.siteUrl, .listenAddress, .enableDeveloper, .allowCookiesForSubdomains, .maximumLoginAttempts,
    .sessionLengthWebInDays, .trustedProxyIpHeader, .sqlDriver, .dataSource, .dataSourceReplicas,
    .maxIdleConns, .maxOpenConns, .queryTimeout, .minimumLength, .lowercase, .number, .uppercase,
    .symbol, .fileDriver, .fileDirectory, .maxFileSize, .publicLinkSalt, .enableSignUpWithEmail,
    .feedbackName, .smtpServer, .smtpPort, .smtpPassword, .defaultServerLocale,
    .defaultClientLocale, .availableLocales, .enableRateLimit, .perSec, .maxBurst,
    .enableConsole, .consoleLevel, .fileLocation, .restrictSystemAdmin, .clientSideCertEnable,
    .enablePlugins, .enableUploads, .pluginDirectory]

theorem mem_all (l : Leaf) : l ∈ all := by cases l <;> decide

theorem nodup_all : all.Nodup := by decide

/-- The section of a leaf. -/
def home : Leaf → Section
  | .siteUrl | .listenAddress | .enableDeveloper | .allowCookiesForSubdomains
  | .maximumLoginAttempts | .sessionLengthWebInDays | .trustedProxyIpHeader => .service
  | .sqlDriver | .dataSource | .dataSourceReplicas | .maxIdleConns | .maxOpenConns
  | .queryTimeout => .sql
  | .minimumLength | .lowercase | .number | .uppercase | .symbol => .password
  | .fileDriver | .fileDirectory | .maxFileSize | .publicLinkSalt => .files
  | .enableSignUpWithEmail | .feedbackName | .smtpServer | .smtpPort | .smtpPassword => .email
  | .defaultServerLocale | .defaultClientLocale | .availableLocales => .localization
  | .enableRateLimit | .perSec | .maxBurst => .rateLimit
  | .enableConsole | .consoleLevel | .fileLocation => .log
  | .restrictSystemAdmin | .clientSideCertEnable => .experimental
  | .enablePlugins | .enableUploads | .pluginDirectory => .plugins

/-- The name of a leaf in its section. -/
def name : Leaf → String
  | .siteUrl => "site_url"
  | .listenAddress => "listen_address"
  | .enableDeveloper => "enable_developer"
  | .allowCookiesForSubdomains => "allow_cookies_for_subdomains"
  | .maximumLoginAttempts => "maximum_login_attempts"
  | .sessionLengthWebInDays => "session_length_web_in_days"
  | .trustedProxyIpHeader => "trusted_proxy_ip_header"
  | .sqlDriver => "driver_name"
  | .dataSource => "data_source"
  | .dataSourceReplicas => "data_source_replicas"
  | .maxIdleConns => "max_idle_conns"
  | .maxOpenConns => "max_open_conns"
  | .queryTimeout => "query_timeout"
  | .minimumLength => "minimum_length"
  | .lowercase => "lowercase"
  | .number => "number"
  | .uppercase => "uppercase"
  | .symbol => "symbol"
  | .fileDriver => "driver_name"
  | .fileDirectory => "directory"
  | .maxFileSize => "max_file_size"
  | .publicLinkSalt => "public_link_salt"
  | .enableSignUpWithEmail => "enable_sign_up_with_email"
  | .feedbackName => "feedback_name"
  | .smtpServer => "smtp_server"
  | .smtpPort => "smtp_port"
  | .smtpPassword => "smtp_password"
  | .defaultServerLocale => "default_server_locale"
  | .defaultClientLocale => "default_client_locale"
  | .availableLocales => "available_locales"
  | .enableRateLimit => "enable"
  | .perSec => "per_sec"
  | .maxBurst => "max_burst"
  | .enableConsole => "enable_console"
  | .consoleLevel => "console_level"
  | .fileLocation => "file_location"
  | .restrictSystemAdmin => "restrict_system_admin"
  | .clientSideCertEnable => "client_side_cert_enable"
  | .enablePlugins => "enable"
  | .enableUploads => "enable_uploads"
  | .pluginDirectory => "directory"

def type : Leaf → LeafType
  | .siteUrl | .listenAddress | .sqlDriver | .fileDriver | .fileDirectory | .feedbackName
  | .smtpServer | .smtpPort | .smtpPassword | .availableLocales | .consoleLevel
  | .fileLocation | .pluginDirectory => .str
  | .dataSource | .publicLinkSalt | .defaultServerLocale | .defaultClientLocale => .optStr
  | .enableDeveloper | .allowCookiesForSubdomains | .lowercase | .number | .uppercase
  | .symbol | .enableSignUpWithEmail | .enableRateLimit | .enableConsole
  | .restrictSystemAdmin | .clientSideCertEnable | .enablePlugins | .enableUploads => .bool
  | .maximumLoginAttempts | .sessionLengthWebInDays | .maxIdleConns | .maxOpenConns
  | .queryTimeout | .minimumLength | .perSec | .maxBurst => .word32
  | .maxFileSize => .int64
  | .trustedProxyIpHeader | .dataSourceReplicas => .strList

/-- The leaves of one section, in order. -/
def ofSection (s : Section) : List Leaf := all.filter (·.home = s)

/-- The dotted path of a leaf. -/
def path (l : Leaf) : String := l.home.key ++ "." ++ l.name

end Leaf

namespace Document

/-- The value of a leaf. -/
def get (d : Document) : (l : Leaf) → l.type.Value
  | .siteUrl => d.service.siteUrl
  | .listenAddress => d.service.listenAddress
  | .enableDeveloper => d.service.enableDeveloper
  | .allowCookiesForSubdomains => d.service.allowCookiesForSubdomains
  | .maximumLoginAttempts => d.service.maximumLoginAttempts
  | .sessionLengthWebInDays => d.service.sessionLengthWebInDays
  | .trustedProxyIpHeader => d.service.trustedProxyIpHeader
  | .sqlDriver => d.sql.driverName
  | .dataSource => d.sql.dataSource
  | .dataSourceReplicas => d.sql.dataSourceReplicas
  | .maxIdleConns => d.sql.maxIdleConns
  | .maxOpenConns => d.sql.maxOpenConns
  | .queryTimeout => d.sql.queryTimeout
  | .minimumLength => d.password.minimumLength
  | .lowercase => d.password.lowercase
  | .number => d.password.number
  | .uppercase => d.password.uppercase
  | .symbol => d.password.symbol
  | .fileDriver => d.files.driverName
  | .fileDirectory => d.files.directory
  | .maxFileSize => d.files.maxFileSize
  | .publicLinkSalt => d.files.publicLinkSalt
  | .enableSignUpWithEmail => d.email.enableSignUpWithEmail
  | .feedbackName => d.email.feedbackName
  | .smtpServer => d.email.smtpServer
  | .smtpPort => d.email.smtpPort
  | .smtpPassword => d.email.smtpPassword
  | .defaultServerLocale => d.localization.defaultServerLocale
  | .defaultClientLocale => d.localization.defaultClientLocale
  | .availableLocales => d.localization.availableLocales
  | .enableRateLimit => d.rateLimit.enable
  | .perSec => d.rateLimit.perSec
  | .maxBurst => d.rateLimit.maxBurst
  | .enableConsole => d.log.enableConsole
  | .consoleLevel => d.log.consoleLevel
  | .fileLocation => d.log.fileLocation
  | .restrictSystemAdmin => d.experimental.restrictSystemAdmin
  | .clientSideCertEnable => d.experimental.clientSideCertEnable
  | .enablePlugins => d.plugins.enable
  | .enableUploads => d.plugins.enableUploads
  | .pluginDirectory => d.plugins.directory

/-- The document with another value of a leaf. -/
def set (d : Document) : (l : Leaf) → l.type.Value → Document
  | .siteUrl, v => { d with service.siteUrl := v }
  | .listenAddress, v => { d with service.listenAddress := v }
  | .enableDeveloper, v => { d with service.enableDeveloper := v }
  | .allowCookiesForSubdomains, v => { d with service.allowCookiesForSubdomains := v }
  | .maximumLoginAttempts, v => { d with service.maximumLoginAttempts := v }
  | .sessionLengthWebInDays, v => { d with service.sessionLengthWebInDays := v }
  | .trustedProxyIpHeader, v => { d with service.trustedProxyIpHeader := v }
  | .sqlDriver, v => { d with sql.driverName := v }
  | .dataSource, v => { d with sql.dataSource := v }
  | .dataSourceReplicas, v => { d with sql.dataSourceReplicas := v }
  | .maxIdleConns, v => { d with sql.maxIdleConns := v }
  | .maxOpenConns, v => { d with sql.maxOpenConns := v }
  | .queryTimeout, v => { d with sql.queryTimeout := v }
  | .minimumLength, v => { d with password.minimumLength := v }
  | .lowercase, v => { d with password.lowercase := v }
  | .number, v => { d with password.number := v }
  | .uppercase, v => { d with password.uppercase := v }
  | .symbol, v => { d with password.symbol := v }
  | .fileDriver, v => { d with files.driverName := v }
  | .fileDirectory, v => { d with files.directory := v }
  | .maxFileSize, v => { d with files.maxFileSize := v }
  | .publicLinkSalt, v => { d with files.publicLinkSalt := v }
  | .enableSignUpWithEmail, v => { d with email.enableSignUpWithEmail := v }
  | .feedbackName, v => { d with email.feedbackName := v }
  | .smtpServer, v => { d with email.smtpServer := v }
  | .smtpPort, v => { d with email.smtpPort := v }
  | .smtpPassword, v => { d with email.smtpPassword := v }
  | .defaultServerLocale, v => { d with localization.defaultServerLocale := v }
  | .defaultClientLocale, v => { d with localization.defaultClientLocale := v }
  | .availableLocales, v => { d with localization.availableLocales := v }
  | .enableRateLimit, v => { d with rateLimit.enable := v }
  | .perSec, v => { d with rateLimit.perSec := v }
  | .maxBurst, v => { d with rateLimit.maxBurst := v }
  | .enableConsole, v => { d with log.enableConsole := v }
  | .consoleLevel, v => { d with log.consoleLevel := v }
  | .fileLocation, v => { d with log.fileLocation := v }
  | .restrictSystemAdmin, v => { d with experimental.restrictSystemAdmin := v }
  | .clientSideCertEnable, v => { d with experimental.clientSideCertEnable := v }
  | .enablePlugins, v => { d with plugins.enable := v }
  | .enableUploads, v => { d with plugins.enableUploads := v }
  | .pluginDirectory, v => { d with plugins.directory := v }

@[simp] theorem get_set_self (d : Document) (l : Leaf) (v : l.type.Value) :
    (d.set l v).get l = v := by
  cases l <;> rfl

@[simp] theorem set_get_self (d : Document) (l : Leaf) : d.set l (d.get l) = d := by
  cases l <;> rfl

@[simp] theorem set_set_self (d : Document) (l : Leaf) (v w : l.type.Value) :
    (d.set l v).set l w = d.set l w := by
  cases l <;> rfl

theorem get_set_of_ne {l m : Leaf} (h : m ≠ l) (d : Document) (v : l.type.Value) :
    (d.set l v).get m = d.get m := by
  cases l <;> cases m <;> first | rfl | exact absurd rfl h

/-- A document is determined by its leaves. -/
theorem ext_get {d e : Document} (h : ∀ l, d.get l = e.get l) : d = e := by
  obtain ⟨⟨⟩, ⟨⟩, ⟨⟩, ⟨⟩, ⟨⟩, ⟨⟩, ⟨⟩, ⟨⟩, ⟨⟩, ⟨⟩⟩ := d
  obtain ⟨⟨⟩, ⟨⟩, ⟨⟩, ⟨⟩, ⟨⟩, ⟨⟩, ⟨⟩, ⟨⟩, ⟨⟩, ⟨⟩⟩ := e
  have hsiteUrl := h .siteUrl
  have hlistenAddress := h .listenAddress
  have henableDeveloper := h .enableDeveloper
  have hallowCookiesForSubdomains := h .allowCookiesForSubdomains
  have hmaximumLoginAttempts := h .maximumLoginAttempts
  have hsessionLengthWebInDays := h .sessionLengthWebInDays
  have htrustedProxyIpHeader := h .trustedProxyIpHeader
  have hsqlDriver := h .sqlDriver
  have hdataSource := h .dataSource
  have hdataSourceReplicas := h .dataSourceReplicas
  have hmaxIdleConns := h .maxIdleConns
  have hmaxOpenConns := h .maxOpenConns
  have hqueryTimeout := h .queryTimeout
  have hminimumLength := h .minimumLength
  have hlowercase := h .lowercase
  have hnumber := h .number
  have huppercase := h .uppercase
  have hsymbol := h .symbol
  have hfileDriver := h .fileDriver
  have hfileDirectory := h .fileDirectory
  have hmaxFileSize := h .maxFileSize
  have hpublicLinkSalt := h .publicLinkSalt
  have henableSignUpWithEmail := h .enableSignUpWithEmail
  have hfeedbackName := h .feedbackName
  have hsmtpServer := h .smtpServer
  have hsmtpPort := h .smtpPort
  have hsmtpPassword := h .smtpPassword
  have hdefaultServerLocale := h .defaultServerLocale
  have hdefaultClientLocale := h .defaultClientLocale
  have havailableLocales := h .availableLocales
  have henableRateLimit := h .enableRateLimit
  have hperSec := h .perSec
  have hmaxBurst := h .maxBurst
  have henableConsole := h .enableConsole
  have hconsoleLevel := h .consoleLevel
  have hfileLocation := h .fileLocation
  have hrestrictSystemAdmin := h .restrictSystemAdmin
  have hclientSideCertEnable := h .clientSideCertEnable
  have henablePlugins := h .enablePlugins
  have henableUploads := h .enableUploads
  have hpluginDirectory := h .pluginDirectory
  simp only [get] at *
  simp_all

/-- Writes values into leaves, one after the other. -/
def setAll (f : (l : Leaf) → l.type.Value) (d : Document) (ls : List Leaf) : Document :=
  ls.foldl (fun d l => d.set l (f l)) d

theorem get_setAll (f : (l : Leaf) → l.type.Value) (d : Document) (ls : List Leaf) (m : Leaf) :
    (setAll f d ls).get m = if m ∈ ls then f m else d.get m := by
  induction ls generalizing d with
  | nil => simp [setAll]
  | cons l ls ih =>
    have h := ih (d.set l (f l))
    simp only [setAll, List.foldl_cons] at h ⊢
    rw [h]
    by_cases hm : m ∈ ls
    · simp [hm]
    · by_cases hl : m = l
      · subst hl; simp [hm]
      · simp [hm, hl, get_set_of_ne hl]

/-- The document with given values of its leaves. -/
def ofLeaves (f : (l : Leaf) → l.type.Value) : Document := setAll f default Leaf.all

@[simp] theorem get_ofLeaves (f : (l : Leaf) → l.type.Value) (l : Leaf) :
    (ofLeaves f).get l = f l := by
  simp [ofLeaves, get_setAll, Leaf.mem_all]

/-- The document with the leaves of one document where `p` holds, and of another elsewhere. -/
def choose (p : Leaf → Bool) (d e : Document) : Document :=
  ofLeaves fun l => if p l then d.get l else e.get l

@[simp] theorem get_choose (p : Leaf → Bool) (d e : Document) (l : Leaf) :
    (choose p d e).get l = if p l then d.get l else e.get l := by
  simp [choose]

end Document

end SettingsStore
