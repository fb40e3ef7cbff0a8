/-!
# Permissions

A permission has an identifier and a scope. The permissions of the system console come in pairs, one
to read and one to write each area. A catalog lists the permissions that exist, one for each
identifier, in ascending order.
-/

namespace SettingsStore

structure Permission where
  id : String
  scope : String
deriving DecidableEq, Repr

inductive Access where
  | read
  | write
deriving DecidableEq, Repr

namespace Access

def name : Access → String
  | .read => "read"
  | .write => "write"

/-- How the identifiers of console permissions begin. -/
def idStart (a : Access) : String := "sysconsole_" ++ a.name ++ "_"

/-- The identifier of the permission for one area of the console. -/
def permissionId (a : Access) (area : String) : String := a.idStart ++ area

end Access

/-- The permission to do everything. -/
def manageSystem : String := "manage_system"

def consoleAreas : List String :=
  ["about", "reporting", "user_management_users", "user_management_groups",
    "user_management_teams", "user_management_channels", "user_management_permissions",
    "environment", "site", "authentication", "plugins", "integrations", "compliance",
    "experimental"]

structure Catalog where
  permissions : List Permission
deriving DecidableEq, Repr

namespace Catalog

/-- Adds a permission in the place of one with its identifier, or in order. -/
def insertInto (p : Permission) : List Permission → List Permission
  | [] => [p]
  | q :: qs =>
    if q.id = p.id then p :: qs
    else if p.id < q.id then p :: q :: qs
    else q :: insertInto p qs

/-- Of several permissions with one identifier, the last is listed. -/
def ofList (ps : List Permission) : Catalog := ⟨ps.foldl (fun qs p => insertInto p qs) []⟩

def find? (c : Catalog) (id : String) : Option Permission := c.permissions.find? (·.id = id)

def manageSystem? (c : Catalog) : Option Permission := c.find? manageSystem

/-- The console permissions of one kind. -/
def console (c : Catalog) (a : Access) : List Permission :=
  c.permissions.filter fun p => a.idStart.toList.isPrefixOf p.id.toList

def standard : Catalog :=
  ofList ([⟨manageSystem, "system_scope"⟩, ⟨"manage_team", "team_scope"⟩,
      ⟨"manage_public_channel_properties", "channel_scope"⟩]
    ++ [Access.read, Access.write].flatMap fun a =>
      consoleAreas.map fun area => ⟨a.permissionId area, "system_scope"⟩)

end Catalog

end SettingsStore
