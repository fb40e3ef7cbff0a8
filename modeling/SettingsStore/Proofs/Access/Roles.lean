import Mathlib.Data.List.Basic
import Mathlib.Data.List.Induction
import SettingsStore.Access.Roles

/-!
# What roles were granted

A grant or a revocation decides about one permission of one role, and leaves alone what this role
was granted besides and what the other roles were granted. That holds also where the role is made by
the grant, where it has the permission already, and where there is no role to take it from. So
whether a role holds a permission is told by the last change to just that, or by what the roles had
before if there was none. What a session holds and what each revocation answered follow from it.
-/

namespace SettingsStore

/-- Grants a permission to a role, or takes it from the role. -/
inductive RoleChange where
  | grant (role id : String)
  | revoke (role id : String)
deriving DecidableEq, Repr

namespace RoleChange

def concerns (role id : String) : RoleChange → Bool
  | .grant role' id' | .revoke role' id' => role' = role ∧ id' = id

def last? (role id : String) (changes : List RoleChange) : Option RoleChange :=
  (changes.filter (concerns role id)).getLast?

end RoleChange

namespace Roles

variable {r : Roles} {role id : String} {c : Catalog} {session : List String}

theorem holds_iff : r.holds role id = true ↔ id ∈ r.idsOf role := by
  unfold holds idsOf
  cases r.granted.find? role with
  | none => simp
  | some ids => simp

theorem caller_iff {p : Permission} :
    r.caller session p = true ↔ ∃ role ∈ session, r.holds role p.id = true := by
  rw [caller, List.any_eq_true]

/-! ## One change -/

theorem idsOf_put (granted : Entries (List String)) (role other : String) (ids : List String) :
    idsOf ⟨granted.put other ids⟩ role = if role = other then ids else idsOf ⟨granted⟩ role := by
  unfold idsOf
  by_cases h : role = other
  · subst h
    rw [if_pos rfl, Entries.find?_put_self, Option.getD_some]
  · rw [if_neg h, Entries.find?_put_of_ne h]

theorem idsOf_addRole (r : Roles) (role other : String) :
    (r.addRole other).idsOf role = r.idsOf role := by
  rw [addRole, idsOf_put]
  split
  · next h => rw [h]
  · rfl

theorem holds_addRole (r : Roles) (role other id : String) :
    (r.addRole other).holds role id = r.holds role id := by
  rw [Bool.eq_iff_iff, holds_iff, holds_iff, idsOf_addRole]

theorem holds_grant_iff {role' id' : String} :
    (r.grant role' id').holds role id = true ↔
      (role = role' ∧ id = id') ∨ r.holds role id = true := by
  rw [holds_iff, holds_iff, grant, idsOf_put]
  split
  · next h => rw [List.mem_insert_iff, h, and_iff_right rfl]
  · next h => rw [or_iff_right fun hsame => h hsame.1]

theorem revoke_snd (r : Roles) (role id : String) : (r.revoke role id).2 = r.holds role id := by
  unfold revoke holds
  cases r.granted.find? role <;> rfl

theorem idsOf_revoke (r : Roles) (role other id : String) :
    (r.revoke other id).1.idsOf role =
      if role = other then (r.idsOf role).filter (· ≠ id) else r.idsOf role := by
  unfold revoke
  split
  · next hnone =>
      -- nothing is taken from a role that there is not, and it is not made for that either
      split
      · next h => rw [h, idsOf, hnone, Option.getD_none, List.filter_nil]
      · rfl
  · next ids hsome =>
      rw [idsOf_put]
      split
      · next h => rw [h, idsOf, hsome, Option.getD_some]
      · rfl

theorem holds_revoke_iff {role' id' : String} :
    (r.revoke role' id').1.holds role id = true ↔
      ¬(role = role' ∧ id = id') ∧ r.holds role id = true := by
  rw [holds_iff, holds_iff, idsOf_revoke]
  split
  · next h => rw [List.mem_filter, decide_eq_true_eq, and_iff_right h, and_comm]
  · next h => rw [and_iff_right fun hsame => h hsame.1]

/-! ## Built-in roles -/

theorem holds_grantAll_iff {role' : String} {ps : List Permission} :
    (r.grantAll role' ps).holds role id = true ↔
      (role = role' ∧ ∃ p ∈ ps, p.id = id) ∨ r.holds role id = true := by
  induction ps generalizing r with
  | nil => simp [grantAll]
  | cons p ps ih =>
      change ((r.grant role' p.id).grantAll role' ps).holds role id = true ↔ _
      rw [ih, holds_grant_iff, ← or_assoc, ← and_or_left, List.exists_mem_cons_iff,
        or_comm (a := ∃ q ∈ ps, q.id = id), eq_comm (a := id)]

/-- What the built-in roles are granted of a catalog. -/
def IsBuiltin (c : Catalog) (role id : String) : Prop :=
  (role = readOnlyAdmin ∧ ∃ p ∈ c.console .read, p.id = id) ∨
    (role = systemAdmin ∧ ∃ p ∈ c.permissions, p.id = id)

theorem not_holds_empty (role id : String) : ¬empty.holds role id = true := Bool.false_ne_true

theorem holds_builtin_iff : (builtin c).holds role id = true ↔ IsBuiltin c role id := by
  rw [builtin, holds_addRole, holds_grantAll_iff, holds_grantAll_iff,
    or_iff_left (not_holds_empty role id), IsBuiltin]

/-! ## Runs of changes -/

/-- The roles after a change, with its answer: a revocation says whether the role held it. -/
def change (r : Roles) : RoleChange → Roles × Option Bool
  | .grant role id => (r.grant role id, none)
  | .revoke role id => ((r.revoke role id).1, some (r.revoke role id).2)

def run (r : Roles) (changes : List RoleChange) : Roles :=
  changes.foldl (fun r change => (r.change change).1) r

def answers (r : Roles) : List RoleChange → List (Option Bool)
  | [] => []
  | change :: changes => (r.change change).2 :: (r.change change).1.answers changes

/-- What changes tell of a permission of a role: the last change to it was a grant, or it was never
changed and granted before. -/
def HeldAfter (before : String → String → Prop) (changes : List RoleChange) (role id : String) :
    Prop :=
  RoleChange.last? role id changes = some (.grant role id) ∨
    (RoleChange.last? role id changes = none ∧ before role id)

variable {before : String → String → Prop} {changes : List RoleChange}

theorem holds_change_iff (change : RoleChange) :
    (r.change change).1.holds role id = true ↔
      if change.concerns role id then change = .grant role id else r.holds role id = true := by
  cases change with
  | grant role' id' =>
      rw [Roles.change, holds_grant_iff]
      simp only [RoleChange.concerns, decide_eq_true_eq, RoleChange.grant.injEq]
      split
      · next h => exact iff_of_true (Or.inl ⟨h.1.symm, h.2.symm⟩) h
      · next h => exact or_iff_right fun hsame => h ⟨hsame.1.symm, hsame.2.symm⟩
  | revoke role' id' =>
      rw [Roles.change, holds_revoke_iff]
      simp only [RoleChange.concerns, decide_eq_true_eq]
      split
      · next h =>
          refine iff_of_false (fun hkept => ?_) RoleChange.noConfusion
          exact hkept.1 ⟨h.1.symm, h.2.symm⟩
      · next h => exact and_iff_right fun hsame => h ⟨hsame.1.symm, hsame.2.symm⟩

theorem heldAfter_append_singleton (change : RoleChange) :
    HeldAfter before (changes ++ [change]) role id ↔
      if change.concerns role id then change = .grant role id
      else HeldAfter before changes role id := by
  unfold HeldAfter RoleChange.last?
  rw [List.filter_append]
  split
  · next h => simp [List.filter_cons_of_pos h]
  · next h => rw [List.filter_cons_of_neg h, List.filter_nil, List.append_nil]

theorem holds_run_iff (hbefore : ∀ role id, r.holds role id = true ↔ before role id)
    (changes : List RoleChange) :
    (r.run changes).holds role id = true ↔ HeldAfter before changes role id := by
  induction changes using List.reverseRecOn with
  | nil => simp [run, HeldAfter, RoleChange.last?, hbefore]
  | append_singleton changes change ih =>
      rw [run, List.foldl_append, heldAfter_append_singleton, ← ih]
      exact holds_change_iff change

theorem answers_revoke (r : Roles) (earlier later : List RoleChange) (role id : String) :
    (r.answers (earlier ++ .revoke role id :: later))[earlier.length]? =
      some (some ((r.run earlier).holds role id)) := by
  induction earlier generalizing r with
  | nil =>
      rw [List.nil_append, answers, List.length_nil, List.getElem?_cons_zero, change, revoke_snd]
      rfl
  | cons change earlier ih =>
      rw [List.cons_append, answers, List.length_cons, List.getElem?_cons_succ, ih]
      rfl

/-- The changes tell all there is to know after a run: what sessions hold, what the revocations
answered, and who manages the system. -/
structure IsToldBy (r : Roles) (before : String → String → Prop) (changes : List RoleChange) :
    Prop where
  caller : ∀ session (p : Permission), (r.run changes).caller session p = true ↔
    ∃ role ∈ session, HeldAfter before changes role p.id
  answer : ∀ earlier later role id, changes = earlier ++ .revoke role id :: later →
    ∃ held, (r.answers changes)[earlier.length]? = some (some held) ∧
      (held = true ↔ HeldAfter before earlier role id)
  isAdmin : ∀ session scope, (r.run changes).isAdmin session =
    (r.run changes).caller session ⟨manageSystem, scope⟩

theorem isToldBy (hbefore : ∀ role id, r.holds role id = true ↔ before role id)
    (changes : List RoleChange) : r.IsToldBy before changes where
  caller session p := by simp only [caller_iff, holds_run_iff hbefore]
  answer earlier later role id h := by
    subst h
    exact ⟨_, r.answers_revoke earlier later role id, holds_run_iff hbefore earlier⟩
  isAdmin _ _ := rfl

/-- Whatever changes are made to roles, the last one to a permission of a role decides whether the
role holds it, and what was never changed is as at the start. -/
theorem last_change_decides (c : Catalog) (changes : List RoleChange) :
    empty.IsToldBy (fun _ _ => False) changes ∧ (builtin c).IsToldBy (IsBuiltin c) changes := by
  constructor
  · exact isToldBy (fun role id => iff_false_intro (not_holds_empty role id)) changes
  · exact isToldBy (fun _ _ => holds_builtin_iff) changes

/-- What was granted twice is gone when it is revoked once, and a role that there is not has nothing
to be taken away. -/
example : empty.answers [.grant "editors" "write", .grant "editors" "write",
    .revoke "editors" "write", .revoke "editors" "write", .revoke "guests" "write"] =
      [none, none, some true, some false, some false] := by
  decide

end Roles

end SettingsStore
