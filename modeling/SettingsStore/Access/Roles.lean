import SettingsStore.Access.Permission
import SettingsStore.Entries

/-!
# Roles

Roles are granted permissions by identifier, and a session holds what any of its roles was granted.
A role comes into being with its first grant, and stays when everything is taken from it again. A
caller is all that access control needs to know of a session: which permissions it holds.
-/

namespace SettingsStore

/-- Which permissions somebody holds. -/
abbrev Caller := Permission → Bool

structure Roles where
  /-- Identifiers of permissions, by the role that was granted them. -/
  granted : Entries (List String)
deriving DecidableEq, Repr

namespace Roles

def systemAdmin : String := "system_admin"

def readOnlyAdmin : String := "system_read_only_admin"

def systemUser : String := "system_user"

def empty : Roles := ⟨[]⟩

def holds (r : Roles) (role id : String) : Bool := (r.granted.find? role).any (·.contains id)

/-- What a role was granted, which is nothing if there is no such role. -/
def idsOf (r : Roles) (role : String) : List String := (r.granted.find? role).getD []

/-- Makes a role, unless it is there. -/
def addRole (r : Roles) (role : String) : Roles := ⟨r.granted.put role (r.idsOf role)⟩

def grant (r : Roles) (role id : String) : Roles :=
  ⟨r.granted.put role ((r.idsOf role).insert id)⟩

/-- Takes a permission from a role, and says whether the role held it. -/
def revoke (r : Roles) (role id : String) : Roles × Bool :=
  match r.granted.find? role with
  | none => (r, false)
  | some ids => (⟨r.granted.put role (ids.filter (· ≠ id))⟩, ids.contains id)

def grantAll (r : Roles) (role : String) (ps : List Permission) : Roles :=
  ps.foldl (fun r p => r.grant role p.id) r

/-- System administrators hold everything, read-only administrators may read the console, and
system users hold nothing. -/
def builtin (c : Catalog) : Roles :=
  ((empty.grantAll systemAdmin c.permissions).grantAll readOnlyAdmin (c.console .read)).addRole
    systemUser

/-- What a session with some roles holds. -/
def caller (r : Roles) (session : List String) : Caller :=
  fun p => session.any fun role => r.holds role p.id

def isAdmin (r : Roles) (session : List String) : Bool :=
  session.any fun role => r.holds role manageSystem

end Roles

end SettingsStore
