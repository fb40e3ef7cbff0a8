import SettingsStore.Medium.Database
import SettingsStore.Text.Lossy
import SettingsStore.Url.Basic

/-!
# Data source names

A data source name says where a store keeps its document: in memory, in a file, or in a database.
What is not the URL of a file or a database is the path of a file as it stands.
-/

namespace SettingsStore

inductive Dsn where
  | memory
  | file (path : String)
  | database (target : Target)
deriving DecidableEq, Repr

namespace Dsn

/-- The path of a database URL. A relative path begins where other URLs have a host. -/
def databasePath (url : Url) : String :=
  String.ofList ((url.host.map Url.Host.text).getD [] ++ url.path)

/-- Where a URL points, or why it points nowhere. -/
def ofUrl (url : Url) : Except String Dsn :=
  if url.scheme = "sqlite" then
    let path := databasePath url
    if path.isEmpty then .error "missing database path" else .ok (.database (.named path))
  else if url.scheme = "file" then
    match url.filePath? with
    | some bytes => .ok (.file (Text.lossy bytes))
    | none => .error "not a local file path"
  else .error ("unsupported scheme " ++ Text.quoted url.scheme)

def ofText (text : String) : Except String Dsn :=
  if text.isEmpty then .error "empty"
  else if text = "memory:" ∨ text = "memory://" then .ok .memory
  else if text = "sqlite::memory:" ∨ text = "sqlite://:memory:" then .ok (.database .memory)
  else if !text.contains "://" && !text.startsWith "sqlite:" then .ok (.file text)
  else match Url.parse text with
    | .ok url => ofUrl url
    | .error fault => .error fault.message

/-- Reads a data source name, with blanks around it left out. -/
def parse (text : String) : Except StoreError Dsn :=
  let text := Text.trim text
  (ofText text).mapError (.invalidDsn text)

end Dsn

end SettingsStore
