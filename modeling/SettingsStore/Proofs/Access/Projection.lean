import SettingsStore.Access.Filter
import SettingsStore.Proofs.Document.Masking

/-!
# What a caller is shown

A caller is shown every section of a document, and in it the settings that it may read and nothing
else. Of a secret it is shown the mask, which tells only whether a text is there, whether it is
empty, and how many texts a list has. So documents that agree on what a caller may read, and have
secrets of the same shapes there, look the same to it.
-/

namespace SettingsStore

open Json

namespace LeafType

/-- Whether two values of a secret have all in common that a mask shows. -/
def SameShape : (t : LeafType) → t.Value → t.Value → Prop
  | .str, (s : String), (s' : String) => s = "" ↔ s' = ""
  | .optStr, (s : Option String), (s' : Option String) =>
    (s = none ↔ s' = none) ∧ (s = some "" ↔ s' = some "")
  | .strList, (ss : List String), (ss' : List String) => ss.length = ss'.length
  | .bool, b, b' | .word32, b, b' | .int64, b, b' => b = b'

instance {t : LeafType} (v v' : t.Value) : Decidable (t.SameShape v v') :=
  match t with
  | .str => inferInstanceAs (Decidable ((v : String) = "" ↔ (v' : String) = ""))
  | .optStr => inferInstanceAs (Decidable
      (((v : Option String) = none ↔ (v' : Option String) = none) ∧
        ((v : Option String) = some "" ↔ (v' : Option String) = some "")))
  | .strList => inferInstanceAs (Decidable ((v : List String).length = (v' : List String).length))
  | .bool => inferInstanceAs (Decidable ((v : Bool) = v'))
  | .word32 => inferInstanceAs (Decidable ((v : UInt32) = v'))
  | .int64 => inferInstanceAs (Decidable ((v : Int64) = v'))

theorem mask_ne_empty : mask ≠ "" := by decide

theorem masked_str_eq_iff {s s' : String} :
    masked .str s = masked .str s' ↔ (s = "" ↔ s' = "") := by
  by_cases hs : s = "" <;> by_cases hs' : s' = "" <;>
    simp [masked, hs, hs', mask_ne_empty, mask_ne_empty.symm]

theorem masked_eq_iff {t : LeafType} {v v' : t.Value} :
    t.masked v = t.masked v' ↔ t.SameShape v v' := by
  cases t with
  | str => exact masked_str_eq_iff
  | optStr =>
      change Option String at v v'
      cases v with
      | none => cases v' <;> simp [masked, SameShape]
      | some s =>
          cases v' with
          | none => simp [masked, SameShape]
          | some s' =>
              have hsome : masked .optStr (some s) = masked .optStr (some s') ↔
                  masked .str s = masked .str s' := Option.some_inj
              rw [hsome, masked_str_eq_iff]
              simp [SameShape]
  | strList =>
      change List String at v v'
      change v.map (fun _ => mask) = v'.map (fun _ => mask) ↔ v.length = v'.length
      rw [List.map_const', List.map_const', List.replicate_left_inj]
  | bool | word32 | int64 => exact Iff.rfl

end LeafType

def Leaf.shown (l : Leaf) (d : Document) : Json :=
  l.type.toJson (if l.isSecret then l.type.masked (d.get l) else d.get l)

namespace Filter

variable {f : Filter} {d e : Document}

/-- What may be read does not depend on whether system administrators are restricted. -/
theorem isAllowed_read (f : Filter) (field : Field) (restricted restricted' : Bool) :
    f.isAllowed field .read restricted = f.isAllowed field .read restricted' := by
  simp [isAllowed]

theorem mem_readable {l : Leaf} :
    l ∈ f.readable d ↔ f.isAllowed l.field .read d.restrictsSystemAdmin = true := by
  simp [readable, Leaf.mem_all]

theorem nodup_readable (f : Filter) (d : Document) : (f.readable d).Nodup :=
  Leaf.nodup_all.filter _

theorem project_eq_ofSettings (f : Filter) (d : Document) :
    f.project d = ofSettings (f.readable d) (·.shown d) := by
  have hshown (l : Leaf) : l.type.toJson (d.masked.get l) = l.shown d :=
    congrArg l.type.toJson (d.get_masked l)
  have hempty : emptySections = ofSettings [] (·.shown d) := rfl
  rw [project, hempty]
  simp only [hshown]
  exact Leaf.foldl_write_ofSettings (·.shown d) [] (f.readable d)

/-- A setting that may be read is shown at its path, and no other one is there. -/
theorem find?_project (f : Filter) (d : Document) (l : Leaf) :
    l.field.find? (f.project d) =
      if f.isAllowed l.field .read d.restrictsSystemAdmin then some (l.shown d) else none := by
  rw [project_eq_ofSettings, Leaf.find?_ofSettings (f.nodup_readable d)]
  exact if_congr mem_readable rfl rfl

/-- Documents look the same if they agree on the settings that can be read, up to the shape of
secrets. -/
theorem project_congr
    (h : ∀ l : Leaf, f.isAllowed l.field .read d.restrictsSystemAdmin = true →
      if l.isSecret then l.type.SameShape (d.get l) (e.get l) else d.get l = e.get l) :
    f.project d = f.project e := by
  have hreadable : f.readable d = f.readable e :=
    List.filter_congr fun l _ => f.isAllowed_read l.field _ _
  rw [project_eq_ofSettings, project_eq_ofSettings, ← hreadable]
  refine Leaf.ofSettings_congr fun l hl => congrArg l.type.toJson ?_
  have hl := h l (mem_readable.mp hl)
  by_cases hsecret : l.isSecret = true
  · rw [if_pos hsecret] at hl ⊢
    rw [if_pos hsecret]
    exact LeafType.masked_eq_iff.mpr hl
  · rw [if_neg hsecret] at hl ⊢
    rw [if_neg hsecret]
    exact hl

/-- A caller is shown all sections and in them exactly the settings that it may read, with secrets
masked, and nothing that it is shown depends on more of a document than that. -/
theorem project_exact (f : Filter) :
    (∀ d : Document, ∃ sections : List (String × Json), f.project d = .obj sections ∧
      (sections.map Prod.fst).Perm (Section.all.map Section.key) ∧
      ∀ s : Section, ∃ members, (s.key, .obj members) ∈ sections ∧
        members.Perm (((Leaf.ofSection s).filter fun l =>
          f.isAllowed l.field .read d.restrictsSystemAdmin).map fun l => (l.name, l.shown d))) ∧
    (∀ (d : Document) (l : Leaf), l.field.find? (f.project d) =
      if f.isAllowed l.field .read d.restrictsSystemAdmin then some (l.shown d) else none) ∧
    ∀ d e : Document, (∀ l : Leaf, f.isAllowed l.field .read d.restrictsSystemAdmin = true →
        if l.isSecret then l.type.SameShape (d.get l) (e.get l) else d.get l = e.get l) →
      f.project d = f.project e := by
  refine ⟨fun d => ?_, fun d l => ?_, fun d e => project_congr⟩
  · obtain ⟨ss, order, hss, horder, hproject⟩ :=
      Leaf.exists_ofSettings (f.nodup_readable d) (·.shown d)
    refine ⟨_, (f.project_eq_ofSettings d).trans hproject, ?_, fun s => ?_⟩
    · rw [List.map_map]
      exact hss.map Section.key
    · have hfilter : (Leaf.ofSection s).filter
          (fun l => f.isAllowed l.field .read d.restrictsSystemAdmin) =
          (f.readable d).filter (·.home = s) := List.filter_comm _ _ _
      rw [hfilter]
      exact ⟨_, List.mem_map.mpr ⟨s, hss.mem_iff.mpr s.mem_all, rfl⟩, (horder s).map _⟩
  · rw [project_eq_ofSettings, Leaf.find?_ofSettings (f.nodup_readable d)]
    exact if_congr mem_readable rfl rfl

/-- One who may read about the environment sees neither which password there is nor what the site
is called. -/
theorem project_of_reader :
    let f : Filter := ⟨⟨[⟨"sysconsole_read_environment", "system_scope"⟩]⟩, fun _ => true⟩
    let d : Document := { email := { smtpPassword := "hunter2", feedbackName := "Ops" } }
    let e : Document := { email := { smtpPassword := "correct horse" } }
    (∀ l : Leaf, f.isAllowed l.field .read d.restrictsSystemAdmin = true →
      if l.isSecret then l.type.SameShape (d.get l) (e.get l) else d.get l = e.get l) ∧
    Leaf.smtpPassword ∈ f.readable d ∧ d ≠ e ∧ f.project d = f.project e := by
  intro f d e
  have hagree : ∀ l : Leaf, f.isAllowed l.field .read d.restrictsSystemAdmin = true →
      if l.isSecret then l.type.SameShape (d.get l) (e.get l) else d.get l = e.get l := by
    intro l hl
    have hhidden : f.isAllowed Leaf.feedbackName.field .read d.restrictsSystemAdmin = false := by
      decide +kernel
    have hne : l ≠ .feedbackName := by
      rintro rfl
      rw [hhidden] at hl
      cases hl
    clear hl
    revert hne
    cases l <;> decide
  have hread : Leaf.smtpPassword ∈ f.readable d := mem_readable.mpr (by decide +kernel)
  exact ⟨hagree, hread, by decide, f.project_exact.2.2 d e hagree⟩

end Filter

end SettingsStore
