import SettingsStore.Document.Overrides
import SettingsStore.Proofs.Document.Fitting
import SettingsStore.Proofs.Document.Value

/-!
# What an environment overrides

Whether a variable fits its leaf, and which value it gives it, depends neither on the document nor
on the other variables, although each variable is tried on a document that has the overrides before
it. So the pass over the variables finds exactly what is wrong with each of them, and if there is
nothing, it gives exactly the leaves that have a variable their values. Putting back the values that
another document has of these leaves never fails, and takes the overrides away whatever else has
changed.
-/

namespace SettingsStore

open Json

variable {env : Environment} {lead : String} {l : Leaf}

/-! ## A single variable -/

theorem Field.accepts_of_parseVariable {f : Field} {raw : String} {value : Json}
    (h : f.parseVariable raw = .ok value) : f.kind.accepts value = true := by
  unfold parseVariable at h
  cases hkind : f.kind with
  | str | optStr =>
      rw [hkind] at h
      cases h
      rfl
  | bool =>
      simp only [hkind] at h
      split_ifs at h <;> cases h <;> rfl
  | int =>
      simp only [hkind] at h
      split at h <;> cases h
      rfl
  | strList =>
      rw [hkind] at h
      cases h
      change ((Text.words raw).map Json.str).all isString = true
      rw [List.all_map]
      exact List.all_eq_true.mpr fun _ _ => rfl

namespace Leaf

/-- The value of a leaf that a variable's text gives. -/
def ofVariable (l : Leaf) (raw : String) : Except String l.type.Value := do
  let value ← l.field.parseVariable raw
  match l.type.read value.toTree with
  | .ok v => .ok v
  | .error fault => .error fault.message

theorem tryVariable_toJson (l : Leaf) (raw : String) (d : Document) :
    l.tryVariable raw d.toJson = (l.ofVariable raw).map fun v => (d.set l v).toJson := by
  unfold tryVariable ofVariable
  cases hvalue : l.field.parseVariable raw with
  | error cause => rfl
  | ok value =>
      simp only [bind, Except.bind, d.ofJson_write l value]
      cases hread : l.type.read value.toTree with
      | error fault => rfl
      | ok v =>
          have hjson : l.type.toJson v = value :=
            LeafType.toJson_eq_of_read (Field.accepts_of_parseVariable hvalue) hread
          change Except.ok (l.field.write value d.toJson) = Except.ok _
          rw [← hjson, d.write_toJson]

def fitsVariable (l : Leaf) (raw : String) : Bool :=
  match l.field.parseVariable raw with
  | .ok value => l.type.inRange value
  | .error _ => false

theorem isOk_ofVariable (l : Leaf) (raw : String) :
    (l.ofVariable raw).isOk = l.fitsVariable raw := by
  unfold ofVariable fitsVariable
  cases hvalue : l.field.parseVariable raw with
  | error cause => rfl
  | ok value =>
      refine Eq.trans ?_ (LeafType.isOk_read (Field.accepts_of_parseVariable hvalue))
      simp only [bind, Except.bind]
      cases l.type.read value.toTree <;> rfl

theorem parseVariable_of_ofVariable {raw : String} {v : l.type.Value}
    (h : l.ofVariable raw = .ok v) : l.field.parseVariable raw = .ok (l.type.toJson v) := by
  unfold ofVariable at h
  cases hvalue : l.field.parseVariable raw with
  | error cause =>
      rw [hvalue] at h
      cases h
  | ok value =>
      simp only [hvalue, bind, Except.bind] at h
      cases hread : l.type.read value.toTree with
      | error fault =>
          rw [hread] at h
          cases h
      | ok w =>
          rw [hread] at h
          cases h
          rw [LeafType.toJson_eq_of_read (Field.accepts_of_parseVariable hvalue) hread]

theorem copy_toJson (kept d : Document) (l : Leaf) :
    copy kept.toJson d.toJson l = (d.set l (kept.get l)).toJson := by
  rw [copy, kept.find?_toJson]
  exact d.write_toJson l _

end Leaf

/-- What an environment does to a leaf: nothing, a value, or a violation. -/
inductive Override (l : Leaf) where
  | absent
  | value (v : l.type.Value)
  | invalid (violation : Violation)

namespace Environment

def override (env : Environment) (lead : String) (l : Leaf) : Override l :=
  match env.find? (l.variableName lead) with
  | none => .absent
  | some raw => match l.ofVariable raw with
    | .ok v => .value v
    | .error cause => .invalid ⟨some l, .variable (l.variableName lead) cause⟩

def violation? (env : Environment) (lead : String) (l : Leaf) : Option Violation :=
  match env.override lead l with
  | .invalid v => some v
  | _ => none

def value? (env : Environment) (lead : String) (l : Leaf) : Option l.type.Value :=
  match env.override lead l with
  | .value v => some v
  | _ => none

theorem value?_eq_some {v : l.type.Value} (h : env.value? lead l = some v) :
    ∃ raw, env.find? (l.variableName lead) = some raw ∧ l.ofVariable raw = .ok v := by
  unfold value? override at h
  cases hraw : env.find? (l.variableName lead) with
  | none => simp [hraw] at h
  | some raw =>
      refine ⟨raw, rfl, ?_⟩
      cases hv : l.ofVariable raw with
      | error cause => simp [hraw, hv] at h
      | ok w =>
          simp only [hraw, hv, Option.some.injEq] at h
          rw [h]

theorem isSome_value? (h : env.violation? lead l = none) :
    (env.value? lead l).isSome = (env.find? (l.variableName lead)).isSome := by
  unfold violation? override at h
  unfold value? override
  cases hraw : env.find? (l.variableName lead) with
  | none => rfl
  | some raw =>
      cases hv : l.ofVariable raw with
      | error cause => simp [hraw, hv] at h
      | ok v => simp [hv]

/-- A leaf is overridden exactly if it has a value from the environment, unless it violates it. -/
theorem mem_overridden_iff (h : env.violation? lead l = none) :
    l ∈ env.overridden lead ↔ (env.value? lead l).isSome := by
  rw [overridden, List.mem_filter, and_iff_right l.mem_all, isSome_value? h]

/-- The variable of a leaf is present and does not fit it. -/
def isFaulty (env : Environment) (lead : String) (l : Leaf) : Bool :=
  (env.find? (l.variableName lead)).any fun raw => !l.fitsVariable raw

theorem isSome_violation? (env : Environment) (lead : String) (l : Leaf) :
    (env.violation? lead l).isSome = env.isFaulty lead l := by
  unfold violation? override isFaulty
  cases env.find? (l.variableName lead) with
  | none => rfl
  | some raw =>
      rw [Option.any_some, ← l.isOk_ofVariable raw]
      cases hv : l.ofVariable raw <;> simp [hv, Except.isOk, Except.toBool]

theorem violation?_eq_none_iff : env.violation? lead l = none ↔ env.isFaulty lead l = false := by
  rw [← isSome_violation?, Option.isSome_eq_false_iff, Option.isNone_iff_eq_none]

theorem leaf_of_violation? {v : Violation} (h : env.violation? lead l = some v) :
    v.leaf = some l := by
  unfold violation? override at h
  cases hraw : env.find? (l.variableName lead) with
  | none => simp [hraw] at h
  | some raw =>
      cases hv : l.ofVariable raw with
      | ok w => simp [hraw, hv] at h
      | error cause =>
          simp only [hraw, hv, Option.some.injEq] at h
          rw [← h]

/-- What is wrong with an environment is said of one leaf after the other. -/
theorem map_leaf_violations (env : Environment) (lead : String) (ls : List Leaf) :
    (ls.filterMap (env.violation? lead)).map (·.leaf) =
      (ls.filter (env.isFaulty lead)).map some := by
  induction ls with
  | nil => rfl
  | cons l ls ih =>
      rw [List.filterMap_cons, List.filter_cons, ← isSome_violation?]
      cases hv : env.violation? lead l with
      | none => exact ih
      | some violation =>
          rw [Option.isSome_some, if_pos rfl, List.map_cons, List.map_cons, leaf_of_violation? hv,
            ih]

/-! ## An environment with one variable -/

theorem variableName_ne_of_number (l : Leaf) : l.type = .word32 ∨ l.type = .int64 →
    l.variableName "CS" ≠ "CS_SERVICE_SETTINGS_ENABLE_DEVELOPER" := by
  cases l <;> decide +kernel

/-- What is a flag is also a text and a list of texts. -/
theorem isOk_ofVariable_flag (l : Leaf) (flag : Bool) : ¬(l.type = .word32 ∨ l.type = .int64) →
    (l.ofVariable (toString flag)).isOk = true := by
  cases l <;> cases flag <;> decide +kernel

theorem violation?_flag (flag : Bool) (l : Leaf) :
    violation? [("CS_SERVICE_SETTINGS_ENABLE_DEVELOPER", toString flag)] "CS" l = none := by
  rw [violation?_eq_none_iff, isFaulty]
  cases hfind : find? [("CS_SERVICE_SETTINGS_ENABLE_DEVELOPER", toString flag)]
      (l.variableName "CS") with
  | none => rfl
  | some raw =>
      obtain ⟨hname, rfl⟩ : "CS_SERVICE_SETTINGS_ENABLE_DEVELOPER" = l.variableName "CS" ∧
          toString flag = raw :=
        (Option.ite_none_right_eq_some.mp ((Entries.find?_cons ..).symm.trans hfind)).imp_right
          Option.some.inj
      have hok := isOk_ofVariable_flag l flag fun hnumber =>
        variableName_ne_of_number l hnumber hname.symm
      rw [Option.any_some, ← l.isOk_ofVariable, hok]
      rfl

/-! ## The pass over the variables -/

/-- The leaves that are given values, and what is wrong, after one more variable. -/
def account (env : Environment) (lead : String) (l : Leaf) (b : List Leaf × List Violation) :
    List Leaf × List Violation :=
  (b.1 ++ if (env.value? lead l).isSome then [l] else [], b.2 ++ (env.violation? lead l).toList)

theorem foldl_account (env : Environment) (lead : String) (ls : List Leaf)
    (b : List Leaf × List Violation) :
    ls.foldl (fun b l => env.account lead l b) b =
      (b.1 ++ ls.filter fun l => (env.value? lead l).isSome,
        b.2 ++ ls.filterMap (env.violation? lead)) := by
  induction ls generalizing b with
  | nil => simp
  | cons l ls ih =>
      rw [List.foldl_cons, ih, account, List.filter_cons, List.filterMap_cons]
      cases (env.value? lead l).isSome <;> cases env.violation? lead l <;> simp

end Environment

/-- One variable gives its leaf a value, or something to say of it, or neither. -/
theorem Overriding.visit_toJson (env : Environment) (lead : String) (d : Document)
    (b : List Leaf × List Violation) (l : Leaf) :
    visit env lead ⟨d.toJson, b.1, b.2⟩ l =
      ⟨(d.set l ((env.value? lead l).getD (d.get l))).toJson,
        (env.account lead l b).1, (env.account lead l b).2⟩ := by
  have hvisit : visit env lead ⟨d.toJson, b.1, b.2⟩ l = match env.override lead l with
      | .absent => ⟨d.toJson, b.1, b.2⟩
      | .value v => ⟨(d.set l v).toJson, b.1 ++ [l], b.2⟩
      | .invalid violation => ⟨d.toJson, b.1, b.2 ++ [violation]⟩ := by
    unfold visit Environment.override
    cases env.find? (l.variableName lead) with
    | none => rfl
    | some raw =>
        simp only [l.tryVariable_toJson raw d]
        cases l.ofVariable raw <;> rfl
  rw [hvisit]
  unfold Environment.account Environment.value? Environment.violation?
  cases env.override lead l <;> simp

namespace Document

variable {d kept : Document}

/-- The document with the values that an environment gives its leaves. -/
def overlaid (env : Environment) (lead : String) (d : Document) : Document :=
  ofLeaves fun l => (env.value? lead l).getD (d.get l)

@[simp] theorem get_overlaid (env : Environment) (lead : String) (d : Document) (l : Leaf) :
    (d.overlaid env lead).get l = (env.value? lead l).getD (d.get l) := by
  rw [overlaid, get_ofLeaves]

theorem foldl_visit (env : Environment) (lead : String) (d : Document) :
    Leaf.all.foldl (Overriding.visit env lead) ⟨d.toJson, [], []⟩ =
      ⟨(d.overlaid env lead).toJson, Leaf.all.filter fun l => (env.value? lead l).isSome,
        Leaf.all.filterMap (env.violation? lead)⟩ := by
  have hfold := foldl_eq_setAll
    (fun d (b : List Leaf × List Violation) => (⟨d.toJson, b.1, b.2⟩ : Overriding))
    (fun l v => (env.value? lead l).getD v) (fun l _ b => env.account lead l b)
    (Overriding.visit_toJson env lead) Leaf.nodup_all d ([], [])
  have hset : setAll (fun l => (env.value? lead l).getD (d.get l)) d Leaf.all =
      d.overlaid env lead := by
    refine ext_get fun l => ?_
    rw [get_setAll, if_pos l.mem_all, get_overlaid]
  rw [env.foldl_account, hset] at hfold
  exact hfold

theorem ofValue_toJson (d : Document) : ofValue d.toJson = .ok d := by
  rw [ofValue, ofJson_toJson]
  rfl

theorem overlaid_of_forall (h : ∀ l, env.value? lead l = none) (d : Document) :
    d.overlaid env lead = d :=
  ext_get fun l => by rw [get_overlaid, h l, Option.getD_none]

/-- The values of the environment, or everything that is wrong with it. -/
theorem applyOverrides_eq (env : Environment) (lead : String) (d : Document) :
    d.applyOverrides env lead =
      match Leaf.all.filterMap (env.violation? lead) with
      | [] => .ok (d.overlaid env lead, env.overridden lead)
      | violations => .error violations := by
  unfold applyOverrides
  by_cases hempty : env.isEmpty = true
  · rw [if_pos hempty, List.isEmpty_iff.mp hempty, overlaid_of_forall fun l => rfl]
    rfl
  rw [if_neg hempty, foldl_visit]
  cases hviolations : Leaf.all.filterMap (env.violation? lead) with
  | cons violation violations => rfl
  | nil =>
      have hvalue (l : Leaf) :
          (env.value? lead l).isSome = (env.find? (l.variableName lead)).isSome :=
        Environment.isSome_value? (List.filterMap_eq_nil_iff.mp hviolations l l.mem_all)
      have hfilter : (Leaf.all.filter fun l => (env.value? lead l).isSome) = env.overridden lead :=
        List.filter_congr fun l _ => hvalue l
      rw [hfilter]
      simp only [ofValue_toJson]
      cases hoverridden : env.overridden lead with
      | cons l ls => rfl
      | nil =>
          have hnone : ∀ l, env.value? lead l = none := by
            intro l
            rw [Environment.overridden, List.filter_eq_nil_iff] at hoverridden
            rw [← Option.not_isSome_iff_eq_none, hvalue]
            exact hoverridden l l.mem_all
          rw [overlaid_of_forall hnone]
          rfl

theorem applyOverrides_of_forall (h : ∀ l, env.violation? lead l = none) (d : Document) :
    d.applyOverrides env lead = .ok (d.overlaid env lead, env.overridden lead) := by
  rw [applyOverrides_eq, List.filterMap_eq_nil_iff.mpr fun l _ => h l]

theorem applyOverrides_of_not (h : ¬∀ l, env.violation? lead l = none) (d : Document) :
    d.applyOverrides env lead = .error (Leaf.all.filterMap (env.violation? lead)) := by
  have hsome : Leaf.all.filterMap (env.violation? lead) ≠ [] := fun hnone =>
    h fun l => List.filterMap_eq_nil_iff.mp hnone l l.mem_all
  obtain ⟨v, vs, hv⟩ := List.exists_cons_of_ne_nil hsome
  rw [applyOverrides_eq, hv]

theorem applyOverrides_eq_ok_iff {laid : Document × List Leaf} :
    d.applyOverrides env lead = .ok laid ↔
      (∀ l, env.violation? lead l = none) ∧ laid = (d.overlaid env lead, env.overridden lead) := by
  by_cases hfits : ∀ l, env.violation? lead l = none
  · rw [applyOverrides_of_forall hfits, Except.ok.injEq, eq_comm, and_iff_right hfits]
  · rw [applyOverrides_of_not hfits]
    exact iff_of_false nofun fun h => hfits h.1

theorem applyOverrides_eq_error_iff {violations : List Violation} :
    d.applyOverrides env lead = .error violations ↔
      (¬∀ l, env.violation? lead l = none) ∧
        violations = Leaf.all.filterMap (env.violation? lead) := by
  by_cases hfits : ∀ l, env.violation? lead l = none
  · rw [applyOverrides_of_forall hfits]
    exact iff_of_false nofun fun h => h.1 hfits
  · rw [applyOverrides_of_not hfits, Except.error.injEq, eq_comm, and_iff_right hfits]

theorem overrideWith_of_forall (h : ∀ l, env.violation? lead l = none) (d : Document) :
    d.overrideWith env lead = .ok (d.overlaid env lead) := by
  rw [overrideWith, applyOverrides_of_forall h]
  rfl

/-! ## Overrides that are removed -/

/-- Overrides are removed from every document, whatever else is in it. -/
theorem removeOverrides_eq (d kept : Document) (overridden : List Leaf) :
    d.removeOverrides kept overridden = .ok (choose (overridden.contains ·) kept d) := by
  unfold removeOverrides
  by_cases hempty : overridden.isEmpty = true
  · rw [if_pos hempty, List.isEmpty_iff.mp hempty]
    exact congrArg Except.ok (ext_get fun l => by rw [get_choose]; rfl)
  · have hfold := foldl_toJson_eq (fun l _ => kept.get l) (Leaf.copy_toJson kept)
      (Leaf.nodup_all.filter fun l => overridden.contains l) d
    rw [if_neg hempty]
    simp only [hfold, ofValue_toJson]
    refine congrArg Except.ok (ext_get fun l => ?_)
    rw [get_setAll, get_choose]
    exact if_congr (by rw [List.mem_filter, and_iff_right l.mem_all]) rfl rfl

@[simp] theorem get_restore (d kept : Document) (leaves : List Leaf) (l : Leaf) :
    (d.restore kept leaves).get l = if l ∈ leaves then kept.get l else d.get l := by
  rw [restore, removeOverrides_eq, get_choose]
  exact if_congr List.contains_iff_mem rfl rfl

/-- Overrides are applied unless a variable does not fit its leaf, and all that do not fit are told.
They are the values of the variables that are present, and nothing else. They are removed from any
document, also from one that has been changed since. -/
theorem overrides_exact (env : Environment) (lead : String) (c : Document) :
    ((∃ violations, c.applyOverrides env lead = .error violations) ↔
      ∃ l, env.isFaulty lead l = true) ∧
    (∀ violations, c.applyOverrides env lead = .error violations →
      violations.map (·.leaf) = (Leaf.all.filter (env.isFaulty lead)).map some) ∧
    ∀ d overridden, c.applyOverrides env lead = .ok (d, overridden) →
      (∀ l, l ∈ overridden ↔ (env.find? (l.variableName lead)).isSome = true) ∧
      (∀ (l : Leaf) raw, env.find? (l.variableName lead) = some raw →
        l.field.parseVariable raw = .ok (l.type.toJson (d.get l))) ∧
      (∀ l, l ∉ overridden → d.get l = c.get l) ∧
      (∀ e : Document, ∃ e', e.removeOverrides c overridden = .ok e' ∧
        ∀ l, e'.get l = if l ∈ overridden then c.get l else e.get l) ∧
      d.removeOverrides c overridden = .ok c := by
  refine ⟨?_, ?_, ?_⟩
  · simp only [applyOverrides_eq_error_iff, exists_and_left, exists_eq, and_true, not_forall,
      Environment.violation?_eq_none_iff, Bool.not_eq_false]
  · intro violations h
    rw [(applyOverrides_eq_error_iff.mp h).2]
    exact env.map_leaf_violations lead Leaf.all
  · intro d overridden h
    obtain ⟨hfits, hlaid⟩ := applyOverrides_eq_ok_iff.mp h
    obtain ⟨rfl, rfl⟩ := Prod.mk.inj hlaid
    have hmem (l : Leaf) : l ∈ env.overridden lead ↔ (env.value? lead l).isSome :=
      Environment.mem_overridden_iff (hfits l)
    have hother (l : Leaf) (hl : l ∉ env.overridden lead) :
        (c.overlaid env lead).get l = c.get l := by
      rw [hmem, Option.not_isSome_iff_eq_none] at hl
      rw [get_overlaid, hl, Option.getD_none]
    refine ⟨fun l => ?_, fun l raw hraw => ?_, hother, fun e => ?_, ?_⟩
    · rw [hmem, Environment.isSome_value? (hfits l)]
    · obtain ⟨v, hv⟩ := Option.isSome_iff_exists.mp
        ((Environment.isSome_value? (hfits l)).trans (congrArg Option.isSome hraw))
      obtain ⟨raw', hraw', hread⟩ := Environment.value?_eq_some hv
      obtain rfl := Option.some.inj (hraw.symm.trans hraw')
      rw [get_overlaid, hv, Option.getD_some]
      exact Leaf.parseVariable_of_ofVariable hread
    · exact ⟨_, e.removeOverrides_eq c _, fun l =>
        (get_choose _ c e l).trans (if_congr List.contains_iff_mem rfl rfl)⟩
    · rw [removeOverrides_eq]
      refine congrArg Except.ok (ext_get fun l => ?_)
      rw [get_choose]
      split
      · rfl
      · next hl => exact hother l fun hmem => hl (List.contains_iff_mem.mpr hmem)

/-- A number that is out of range beside a flag that fits, and the flag alone: the first overrides
nothing, and the other one is removed from a document that was edited. -/
theorem overrides_exact_of_flag :
    let flag := ("CS_SERVICE_SETTINGS_ENABLE_DEVELOPER", "true")
    let number := ("CS_SERVICE_SETTINGS_MAXIMUM_LOGIN_ATTEMPTS", "-1")
    (∃ violations, default.applyOverrides [flag, number] "CS" = .error violations ∧
      some .maximumLoginAttempts ∈ violations.map (·.leaf)) ∧
    ∃ d overridden, default.applyOverrides [flag] "CS" = .ok (d, overridden) ∧
      d.service.enableDeveloper = true ∧ d.removeOverrides default overridden = .ok default ∧
      ∃ e, removeOverrides { d with service.siteUrl := "https://example.com" } default overridden =
        .ok e ∧ e.service.siteUrl = "https://example.com" := by
  intro flag number
  obtain ⟨hfaulty, hnamed, _⟩ := overrides_exact [flag, number] "CS" default
  obtain ⟨_, _, hexact⟩ := overrides_exact [flag] "CS" default
  have hnumber : Environment.isFaulty [flag, number] "CS" .maximumLoginAttempts = true := by
    decide +kernel
  obtain ⟨violations, herror⟩ := hfaulty.mpr ⟨_, hnumber⟩
  have hviolation : some .maximumLoginAttempts ∈ violations.map (·.leaf) := by
    rw [hnamed violations herror]
    exact List.mem_map_of_mem (List.mem_filter.mpr ⟨Leaf.mem_all _, hnumber⟩)
  have happly : default.applyOverrides [flag] "CS" =
      .ok (overlaid [flag] "CS" default, Environment.overridden [flag] "CS") :=
    applyOverrides_of_forall (Environment.violation?_flag true) default
  obtain ⟨hmem, hvalue, _, hremoved, hback⟩ := hexact _ _ happly
  have hflag := Except.ok.inj (hvalue .enableDeveloper "true" (by decide +kernel))
  have hsite : .siteUrl ∉ Environment.overridden [flag] "CS" := by
    rw [hmem]
    decide +kernel
  obtain ⟨e, he, hget⟩ := hremoved
    { overlaid [flag] "CS" default with service.siteUrl := "https://example.com" }
  exact ⟨⟨violations, herror, hviolation⟩, _, _, happly, (Json.bool.inj hflag).symm, hback, e, he,
    (hget .siteUrl).trans (if_neg hsite)⟩

end Document

end SettingsStore
