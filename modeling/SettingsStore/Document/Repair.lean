import SettingsStore.Document.Leaf
import SettingsStore.Text.Blank

/-!
# Completing and repairing documents

`fill` gives the optional settings their values and `inherit` takes a generated value from an
earlier document instead. `repair` brings a document into normal form and says whether it had to
change anything: no slash at the end of the site's address, one at the end of a local directory,
and only supported locales, among which clients can choose the default one.
-/

namespace SettingsStore

namespace Locale

def default : String := "en"

def supported : List String :=
  ["de", "en", "es", "fr", "it", "ja", "ko", "nl", "pl", "pt-BR", "ro", "ru", "tr", "uk", "zh-CN",
    "zh-TW"]

def isSupported (locale : String) : Bool := supported.contains locale

end Locale

namespace Document

/-! ## Completing -/

/-- Fills the settings that are unset; `salt` is used if there is none. -/
def fill (salt : String) (d : Document) : Document :=
  { d with
    sql.dataSource := some (d.sql.dataSource.getD "app.db")
    files.publicLinkSalt := some (d.files.publicLinkSalt.getD salt)
    localization.defaultServerLocale :=
      some (d.localization.defaultServerLocale.getD Locale.default)
    localization.defaultClientLocale :=
      some (d.localization.defaultClientLocale.getD Locale.default) }

/-- Keeps the salt of an earlier document if there is no other. -/
def inherit (d previous : Document) : Document :=
  { d with files.publicLinkSalt := d.files.publicLinkSalt <|> previous.files.publicLinkSalt }

/-! ## Repairing -/

def endsWithSlash (s : String) : Bool := s.toList.getLast? == some '/'

def withoutSlashes (s : String) : String :=
  String.ofList (s.toList.reverse.dropWhile (· == '/')).reverse

/-- A repaired value and whether it is another one. -/
abbrev Repaired (α : Type) := α × Bool

def repairSiteUrl (s : String) : Repaired String :=
  if endsWithSlash s then (withoutSlashes s, true) else (s, false)

def repairDirectory (driver directory : String) : Repaired String :=
  if driver = "local" ∧ !endsWithSlash directory then (directory ++ "/", true)
  else (directory, false)

def repairLocale (locale : Option String) : Repaired (Option String) :=
  match locale with
  | none => (none, false)
  | some l => if Locale.isSupported l then (some l, false) else (some Locale.default, true)

/-- A list of locales, if it is not empty, contains the one that clients start with. -/
def repairAvailable (client : Option String) (available : String) : Repaired String :=
  let listed := Text.entries available
  match listed, client with
  | [], _ => (available, false)
  | _, none => (available, false)
  | listed, some c =>
    if listed.contains c then (available, false)
    else (Text.join "," listed ++ "," ++ c, true)

def repair (d : Document) : Repaired Document :=
  let siteUrl := repairSiteUrl d.service.siteUrl
  let directory := repairDirectory d.files.driverName d.files.directory
  let server := repairLocale d.localization.defaultServerLocale
  let client := repairLocale d.localization.defaultClientLocale
  let available := repairAvailable client.1 d.localization.availableLocales
  ({ d with
      service.siteUrl := siteUrl.1
      files.directory := directory.1
      localization := ⟨server.1, client.1, available.1⟩ },
    siteUrl.2 || directory.2 || server.2 || client.2 || available.2)

def repaired (d : Document) : Document := d.repair.1

def restrictsSystemAdmin (d : Document) : Bool := d.experimental.restrictSystemAdmin

end Document

end SettingsStore
