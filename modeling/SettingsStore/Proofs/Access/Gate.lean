import SettingsStore.Proofs.Access.Change
import SettingsStore.Proofs.Access.Patch
import SettingsStore.Proofs.Access.Projection

/-!
# Gates

Before a caller is shown settings or changes them, a gate asks whether it holds any permission of
the console for that at all. The gate looks through the catalog for identifiers that begin as those
of the console, and access to a setting looks up the identifiers that are made of its scopes. All of
these begin in that way, whatever stands in the access tag, so nobody who may access some setting is
turned away. And one who is turned away would see nothing but empty sections, and change nothing.
-/

namespace SettingsStore

namespace Catalog

variable {c : Catalog} {id : String} {p : Permission}

theorem mem_of_find? (h : c.find? id = some p) : p ∈ c.permissions := List.mem_of_find?_eq_some h

theorem id_of_find? (h : c.find? id = some p) : p.id = id :=
  of_decide_eq_true (List.find?_some (p := fun p : Permission => decide (p.id = id)) h)

theorem mem_console_iff {a : Access} :
    p ∈ c.console a ↔ p ∈ c.permissions ∧ a.idStart.toList <+: p.id.toList := by
  rw [console, List.mem_filter, List.isPrefixOf_iff_prefix]

end Catalog

theorem Access.idStart_prefix_permissionId (a : Access) (area : String) :
    a.idStart.toList <+: (a.permissionId area).toList := by
  rw [permissionId, String.toList_append]
  exact List.prefix_append _ _

namespace Filter

variable {f : Filter} {field : Field} {access : Access} {restricted : Bool}

theorem exists_of_holds {id : String} (h : f.holds id = true) :
    ∃ p ∈ f.catalog.permissions, p.id = id ∧ f.caller p = true := by
  obtain ⟨p, hp, hcaller⟩ := (Option.any_eq_true _ _).mp h
  exact ⟨p, Catalog.mem_of_find? hp, Catalog.id_of_find? hp, hcaller⟩

/-- Access is not barred, and given by a scope or to all who manage the system. -/
theorem isAllowed_eq_true_iff :
    f.isAllowed field access restricted = true ↔
      ¬(access = .write ∧ restricted = true ∧ field.isWriteRestrictable = true) ∧
        ((∃ scope ∈ scopes field, f.holds (access.permissionId scope) = true) ∨
          f.holds manageSystem = true) := by
  unfold isAllowed
  split
  · next hbarred => exact iff_of_false Bool.false_ne_true fun h => h.1 hbarred
  · next hfree => rw [Bool.or_eq_true, List.any_eq_true, and_iff_right hfree]

theorem holdsAny_of_isAllowed (h : f.isAllowed field access restricted = true) :
    f.holdsAny access = true := by
  rw [holdsAny, Bool.or_eq_true, List.any_eq_true]
  rcases (isAllowed_eq_true_iff.mp h).2 with ⟨scope, _, hscope⟩ | hmanages
  · obtain ⟨p, hp, hid, hcaller⟩ := exists_of_holds hscope
    refine Or.inr ⟨p, Catalog.mem_console_iff.mpr ⟨hp, ?_⟩, hcaller⟩
    rw [hid]
    exact access.idStart_prefix_permissionId scope
  · exact Or.inl hmanages

theorem isAllowed_of_holdsAny (h : f.holdsAny access = false) (field : Field) (restricted : Bool) :
    f.isAllowed field access restricted = false :=
  Bool.eq_false_iff.mpr fun hallowed =>
    Bool.false_ne_true (h.symm.trans (holdsAny_of_isAllowed hallowed))

theorem project_of_canReadAny (h : f.canReadAny = false) (d : Document) :
    f.project d = emptySections := by
  have hnone : f.readable d = [] := by
    refine List.filter_eq_nil_iff.mpr fun l _ => ?_
    rw [isAllowed_of_holdsAny h]
    exact Bool.false_ne_true
  rw [project, hnone]
  rfl

theorem eq_of_applyPatch_of_canWriteAny {base d : Document} {patch : Json}
    (h : f.canWriteAny = false) (hpatch : f.applyPatch base patch = .ok d) : d = base :=
  eq_of_applyPatch hpatch fun l => isAllowed_of_holdsAny h l.field _

/-- Whoever may access a setting passes the gate, and whoever does not pass it is shown no setting,
and has no patch accepted that changes one. -/
theorem gates_agree (f : Filter) :
    (∀ (field : Field) (restricted : Bool),
      (f.isAllowed field .read restricted = true → f.canReadAny = true) ∧
        (f.isAllowed field .write restricted = true → f.canWriteAny = true)) ∧
    (f.canReadAny = false → ∀ d, f.project d = emptySections) ∧
    (f.canWriteAny = false → ∀ base patch d, f.applyPatch base patch = .ok d → d = base) := by
  refine ⟨fun field restricted => ⟨?_, ?_⟩, fun h d => ?_, fun h base patch d hpatch => ?_⟩
  · exact holdsAny_of_isAllowed
  · exact holdsAny_of_isAllowed
  · exact project_of_canReadAny h d
  · exact eq_of_applyPatch_of_canWriteAny h hpatch

/-- One who may only read about the site passes one gate, for a scope among odd ones too, and can
send back what is there already. One who holds nothing passes no gate. -/
theorem gates_agree_of_reader :
    let catalog : Catalog := .ofList [⟨manageSystem, "system_scope"⟩,
      ⟨"sysconsole_read_site", "system_scope"⟩, ⟨"sysconsole_write_site", "system_scope"⟩]
    let reader : Filter := ⟨catalog, fun p => p.id = "sysconsole_read_site"⟩
    let nobody : Filter := ⟨catalog, fun _ => false⟩
    let field : Field := ⟨"mail.name", "write_restrictable, ,no such scope, site ", .str, false⟩
    let base : Document := { email := { feedbackName := "Ops" } }
    let patch := Json.ofSettings [.feedbackName] fun l => l.type.toJson (base.get l)
    reader.isAllowed field .read true = true ∧ reader.canReadAny = true ∧
      reader.canWriteAny = false ∧ (∃ d, reader.applyPatch base patch = .ok d ∧ d = base) ∧
      nobody.canReadAny = false ∧ nobody.project base = emptySections := by
  intro catalog reader nobody field base patch
  have hallowed : reader.isAllowed field .read true = true := by decide +kernel
  have hwrite : reader.canWriteAny = false := by decide +kernel
  have hread : nobody.canReadAny = false := by decide +kernel
  have hpatch : reader.applyPatch base patch = .ok base :=
    reader.applyPatch_ofSettings_get base (List.nodup_singleton _)
  obtain ⟨hpasses, _, hkept⟩ := gates_agree reader
  obtain ⟨_, hshown, _⟩ := gates_agree nobody
  exact ⟨hallowed, (hpasses field true).1 hallowed, hwrite,
    ⟨base, hpatch, hkept hwrite base patch base hpatch⟩, hread, hshown hread base⟩

end Filter

end SettingsStore
