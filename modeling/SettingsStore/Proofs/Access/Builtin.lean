import SettingsStore.Proofs.Access.Monotone
import SettingsStore.Proofs.Access.Roles

/-!
# Built-in roles

A session holds a permission if one of its roles was granted its identifier. Of the built-in roles,
system administrators were granted every identifier of the catalog, so nobody may access more than
they may. Read-only administrators were granted identifiers that begin as those for reading the
console, and none of these begins as those for writing it or is the one for managing the system. So
whatever a catalog calls its permissions, only system administrators may write anything.
-/

namespace SettingsStore

namespace Roles

variable {c : Catalog} {session : List String}

theorem caller_builtin_of_mem (h : systemAdmin ∈ session) {p : Permission}
    (hp : p ∈ c.permissions) : (builtin c).caller session p = true :=
  caller_iff.mpr ⟨systemAdmin, h, holds_builtin_iff.mpr (Or.inr ⟨rfl, p, hp, rfl⟩)⟩

/-- Everybody else holds what is for reading the console, at most. -/
theorem idStart_prefix_of_caller_builtin (h : systemAdmin ∉ session) {p : Permission}
    (hp : (builtin c).caller session p = true) : Access.read.idStart.toList <+: p.id.toList := by
  obtain ⟨role, hrole, hholds⟩ := caller_iff.mp hp
  rcases holds_builtin_iff.mp hholds with ⟨_, q, hq, hid⟩ | ⟨rfl, _⟩
  · exact hid ▸ (Catalog.mem_console_iff.mp hq).2
  · exact absurd hrole h

end Roles

theorem Access.not_idStart_prefix_of_write {id : List Char}
    (h : Access.write.idStart.toList <+: id) : ¬Access.read.idStart.toList <+: id := by
  intro hread
  have hprefix := List.prefix_of_prefix_length_le hread h (by decide)
  exact absurd hprefix (by decide)

namespace Filter

open Roles

variable {c : Catalog} {session : List String}

theorem canWriteAny_builtin (h : systemAdmin ∉ session) :
    canWriteAny ⟨c, (builtin c).caller session⟩ = false := by
  rw [canWriteAny, holdsAny, Bool.or_eq_false_iff]
  constructor
  · rw [Bool.eq_false_iff]
    intro hmanages
    obtain ⟨p, _, hid, hp⟩ := exists_of_holds hmanages
    have hread := idStart_prefix_of_caller_builtin h hp
    rw [hid] at hread
    exact absurd hread (by decide)
  · rw [List.any_eq_false]
    intro p hp hcaller
    exact Access.not_idStart_prefix_of_write (Catalog.mem_console_iff.mp hp).2
      (idStart_prefix_of_caller_builtin h hcaller)

/-- With the built-in roles, a session without system administrators may write no setting and has no
patch accepted that changes one, and one with them may access whatever anybody could. -/
theorem builtin_exact (c : Catalog) (session : List String) :
    (systemAdmin ∉ session →
      (∀ (field : Field) (restricted : Bool),
        isAllowed ⟨c, (builtin c).caller session⟩ field .write restricted = false) ∧
      ∀ base patch d, applyPatch ⟨c, (builtin c).caller session⟩ base patch = .ok d →
        d = base) ∧
    (systemAdmin ∈ session →
      ∀ (caller : Caller) (field : Field) (access : Access) (restricted : Bool),
        isAllowed ⟨c, caller⟩ field access restricted = true →
          isAllowed ⟨c, (builtin c).caller session⟩ field access restricted = true) := by
  refine ⟨fun h => ⟨fun field restricted => ?_, fun base patch d => ?_⟩, fun h caller _ _ _ => ?_⟩
  · exact isAllowed_of_holdsAny (canWriteAny_builtin h) field restricted
  · exact eq_of_applyPatch_of_canWriteAny (canWriteAny_builtin h)
  · exact isAllowed_mono fun p hp _ => caller_builtin_of_mem h hp

/-- An auditor may not write about the site, and has nothing accepted but what is there already. A
system administrator may write all that one could who holds everything. -/
theorem builtin_exact_of_auditor :
    let c : Catalog := .ofList [⟨manageSystem, "system_scope"⟩, ⟨"sysconsole_read_", "odd_scope"⟩,
      ⟨"sysconsole_read_site", "system_scope"⟩, ⟨"sysconsole_write_site", "system_scope"⟩]
    let auditor := [readOnlyAdmin, systemUser, "auditor"]
    let admin := ["auditor", systemAdmin]
    let field : Field := ⟨"mail.name", " site ,,write_restrictable", .str, false⟩
    let base : Document := { email := { feedbackName := "Ops" } }
    let patch := Json.ofSettings [.feedbackName] fun l => l.type.toJson (base.get l)
    systemAdmin ∉ auditor ∧
      isAllowed ⟨c, (builtin c).caller auditor⟩ field .write false = false ∧
      (∃ d, applyPatch ⟨c, (builtin c).caller auditor⟩ base patch = .ok d ∧ d = base) ∧
      systemAdmin ∈ admin ∧ isAllowed ⟨c, fun _ => true⟩ field .write false = true ∧
      isAllowed ⟨c, (builtin c).caller admin⟩ field .write false = true := by
  intro c auditor admin field base patch
  have hauditor : systemAdmin ∉ auditor := by decide
  have hadmin : systemAdmin ∈ admin := by decide
  have hanybody : isAllowed ⟨c, fun _ => true⟩ field .write false = true := by decide +kernel
  have hpatch : applyPatch ⟨c, (builtin c).caller auditor⟩ base patch = .ok base :=
    applyPatch_ofSettings_get _ base (List.nodup_singleton _)
  obtain ⟨hnone, hkept⟩ := (builtin_exact c auditor).1 hauditor
  exact ⟨hauditor, hnone field false, ⟨base, hpatch, hkept base patch base hpatch⟩, hadmin,
    hanybody, (builtin_exact c admin).2 hadmin _ field .write false hanybody⟩

end Filter

end SettingsStore
