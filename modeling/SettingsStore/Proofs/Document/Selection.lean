import Mathlib.Data.List.Nodup
import SettingsStore.Document.Field
import SettingsStore.Proofs.Document.Reading
import SettingsStore.Proofs.Json.Members

/-!
# Values with some of the settings

The value of a document has all settings, what a caller is shown has some, and the value without
settings still has the sections. Writing a setting adds it to those that a value has, or gives it
another value in its place. What stands at the path of a setting is its value, if it is there.
-/

namespace SettingsStore

open Json

namespace Json

def ofSettings (ls : List Leaf) (value : Leaf → Json) : Json :=
  .ofMembers (Section.all.map fun s =>
    (s.key, .ofMembers ((ls.filter (·.home = s)).map fun l => (l.name, value l))))

end Json

namespace Leaf

variable {ls : List Leaf} {value : Leaf → Json}

theorem eq_of_name {l m : Leaf} (hhome : l.home = m.home) (hname : l.name = m.name) : l = m := by
  apply eq_of_segments
  rw [segments_field, segments_field, hhome, hname]

theorem nodup_names_filter (h : ls.Nodup) (s : Section) :
    ((ls.filter (·.home = s)).map name).Nodup := by
  refine (h.filter _).map_on fun l hl m hm hname => ?_
  have hhome {l : Leaf} (hl : l ∈ ls.filter (·.home = s)) : l.home = s :=
    of_decide_eq_true (List.mem_filter.mp hl).2
  exact eq_of_name ((hhome hl).trans (hhome hm).symm) hname

theorem find?_section (ls : List Leaf) (value : Leaf → Json) (s : Section) :
    Members.find? s.key (ofSettings ls value).members =
      some (.ofMembers ((ls.filter (·.home = s)).map fun l => (l.name, value l))) := by
  have hnodup : ((Section.all.map fun s => (s.key, Json.ofMembers
      ((ls.filter (·.home = s)).map fun l => (l.name, value l)))).map Prod.fst).Nodup := by
    rw [List.map_map]
    exact Section.nodup_keys
  rw [ofSettings, ofMembers, members_obj]
  exact Members.find?_ofList hnodup (List.mem_map.mpr ⟨s, s.mem_all, rfl⟩)

theorem find?_eq (l : Leaf) (j : Json) :
    l.field.find? j =
      (Members.find? l.home.key j.members).bind fun s => Members.find? l.name s.members := by
  rw [Field.find?, segments_field, get?_cons]
  refine congrArg (Option.bind _) (funext fun s => ?_)
  rw [get?_cons]
  exact Option.bind_fun_some _

theorem write_eq (l : Leaf) (value j : Json) :
    l.field.write value j = .obj (Members.insert l.home.key
      (.obj (Members.insert l.name value
        ((Members.find? l.home.key j.members).getD (.obj [])).members)) j.members) := by
  rw [Field.write, segments_field, put, put, put]

theorem ofSettings_congr {value' : Leaf → Json} (h : ∀ l ∈ ls, value l = value' l) :
    ofSettings ls value = ofSettings ls value' := by
  refine congrArg Json.ofMembers (List.map_congr_left fun s _ => ?_)
  refine congrArg (s.key, Json.ofMembers ·) (List.map_congr_left fun l hl => ?_)
  rw [h l (List.mem_of_mem_filter hl)]

/-- A setting that is there is found at its path, and no other one. -/
theorem find?_ofSettings (h : ls.Nodup) (l : Leaf) :
    l.field.find? (ofSettings ls value) = if l ∈ ls then some (value l) else none := by
  rw [find?_eq, find?_section, Option.bind_some, ofMembers, members_obj]
  have hnodup : (((ls.filter (·.home = l.home)).map fun l => (l.name, value l)).map
      Prod.fst).Nodup := by
    rw [List.map_map]
    exact nodup_names_filter h l.home
  by_cases hl : l ∈ ls
  · rw [if_pos hl]
    refine Members.find?_ofList hnodup (List.mem_map.mpr ⟨l, ?_, rfl⟩)
    exact List.mem_filter.mpr ⟨hl, decide_eq_true rfl⟩
  · rw [if_neg hl]
    refine Members.find?_foldl_of_notMem [] fun hm => hl ?_
    rw [List.map_map] at hm
    obtain ⟨m, hm, hname⟩ := List.mem_map.mp hm
    obtain ⟨hm, hhome⟩ := List.mem_filter.mp hm
    exact eq_of_name (of_decide_eq_true hhome) hname ▸ hm

theorem exists_ofSettings (h : ls.Nodup) (value : Leaf → Json) :
    ∃ (ss : List Section) (order : Section → List Leaf), ss.Perm Section.all ∧
      (∀ s, (order s).Perm (ls.filter (·.home = s))) ∧
      ofSettings ls value =
        .obj (ss.map fun s => (s.key, .obj ((order s).map fun l => (l.name, value l)))) := by
  choose order horder hmembers using fun s =>
    Members.exists_ofList_map name value (nodup_names_filter h s)
  obtain ⟨ss, hss, hsections⟩ := Members.exists_ofList_map Section.key
    (fun s => .obj ((order s).map fun l => (l.name, value l))) Section.nodup_keys
  refine ⟨ss, order, hss, horder, ?_⟩
  simp only [ofSettings, ofMembers, hmembers, hsections]

/-- Whatever stands in such a value and is no object stands at the path of one of the settings. -/
theorem exists_of_get?_ofSettings (h : ls.Nodup) (hplain : ∀ l, (value l).isObject = false)
    {path : List String} {v : Json} (hv : (ofSettings ls value).get? path = some v)
    (hv' : v.isObject = false) : ∃ l ∈ ls, path = l.field.segments ∧ v = value l := by
  obtain ⟨ss, order, _, horder, hvalue⟩ := exists_ofSettings h value
  rw [hvalue] at hv
  -- The first key of a path leads to a section, the second to a setting, and there is no third.
  match path with
  | [] =>
      cases hv
      cases hv'
  | key :: keys =>
      rw [get?_cons] at hv
      obtain ⟨inner, hinner, hv⟩ := Option.bind_eq_some_iff.mp hv
      obtain ⟨s, _, hs⟩ := List.mem_map.mp (Members.mem_of_find? hinner)
      cases hs
      match keys with
      | [] =>
          cases hv
          cases hv'
      | name :: names =>
          rw [get?_cons] at hv
          obtain ⟨w, hw, hv⟩ := Option.bind_eq_some_iff.mp hv
          obtain ⟨l, hl, hlw⟩ := List.mem_map.mp (Members.mem_of_find? hw)
          cases hlw
          obtain ⟨rfl, rfl⟩ := eq_of_get?_of_not_isObject (hplain l) hv
          obtain ⟨hl, hhome⟩ := List.mem_filter.mp ((horder s).mem_iff.mp hl)
          refine ⟨l, hl, ?_, rfl⟩
          rw [segments_field, of_decide_eq_true hhome]

theorem flatMap_perm (h : ls.Nodup) {ss : List Section} {order : Section → List Leaf}
    (hss : ss.Perm Section.all) (horder : ∀ s, (order s).Perm (ls.filter (·.home = s))) :
    (ss.flatMap order).Perm ls := by
  have hmem (s : Section) (l : Leaf) : l ∈ order s ↔ l ∈ ls ∧ l.home = s := by
    rw [(horder s).mem_iff, List.mem_filter, decide_eq_true_eq]
  refine (List.perm_ext_iff_of_nodup (List.nodup_flatMap.mpr ⟨fun s _ => ?_, ?_⟩) h).mpr
    fun l => ?_
  · exact (horder s).nodup_iff.mpr (h.filter _)
  · refine (hss.nodup_iff.mpr (by decide)).imp fun hne => ?_
    exact List.disjoint_left.mpr fun l hl hl' =>
      hne (((hmem _ l).mp hl).2.symm.trans ((hmem _ l).mp hl').2)
  · rw [List.mem_flatMap]
    constructor
    · rintro ⟨s, _, hl⟩
      exact ((hmem s l).mp hl).1
    · intro hl
      exact ⟨l.home, hss.mem_iff.mpr l.home.mem_all, (hmem l.home l).mpr ⟨hl, rfl⟩⟩

theorem write_ofSettings (ls : List Leaf) (value : Leaf → Json) (l : Leaf) :
    l.field.write (value l) (ofSettings ls value) = ofSettings (ls ++ [l]) value := by
  have hsection (s : Section) : (if s = l.home then
        Json.obj (Members.insert l.name (value l)
          (Members.ofList ((ls.filter (·.home = l.home)).map fun l => (l.name, value l))))
      else .ofMembers ((ls.filter (·.home = s)).map fun l => (l.name, value l))) =
      .ofMembers (((ls ++ [l]).filter (·.home = s)).map fun l => (l.name, value l)) := by
    by_cases hs : s = l.home
    · subst hs
      simp [ofMembers, Members.ofList]
    · simp [hs, Ne.symm hs]
  rw [write_eq, find?_section, Option.getD_some, ofMembers, members_obj, ofSettings, ofMembers,
    members_obj, Members.insert_ofList_map Section.key _ Section.nodup_keys l.home.mem_all]
  simp only [hsection]
  rfl

theorem foldl_write_ofSettings (value : Leaf → Json) (earlier ls : List Leaf) :
    ls.foldl (fun j l => l.field.write (value l) j) (ofSettings earlier value) =
      ofSettings (earlier ++ ls) value := by
  induction ls generalizing earlier with
  | nil => rw [List.append_nil]; rfl
  | cons l ls ih => rw [List.foldl_cons, write_ofSettings, ih, List.append_assoc]; rfl

theorem write_ofSettings_of_mem (h : ls.Nodup) {l : Leaf} (hl : l ∈ ls) (v : Json) :
    l.field.write v (ofSettings ls value) =
      ofSettings ls fun m => if m = l then v else value m := by
  have hl' : l ∈ ls.filter (·.home = l.home) := List.mem_filter.mpr ⟨hl, decide_eq_true rfl⟩
  have hsection (s : Section) : (if s = l.home then
        Json.obj (Members.ofList ((ls.filter (·.home = l.home)).map fun m =>
          (m.name, if m = l then v else value m)))
      else .ofMembers ((ls.filter (·.home = s)).map fun m => (m.name, value m))) =
      .ofMembers ((ls.filter (·.home = s)).map fun m =>
        (m.name, if m = l then v else value m)) := by
    by_cases hs : s = l.home
    · rw [if_pos hs, hs, ofMembers]
    · rw [if_neg hs]
      refine congrArg Json.ofMembers (List.map_congr_left fun m hm => ?_)
      have hhome : m.home = s := of_decide_eq_true (List.mem_filter.mp hm).2
      have hne : m ≠ l := fun heq => hs (hhome.symm.trans (congrArg home heq))
      rw [if_neg hne]
  rw [write_eq, find?_section, Option.getD_some, ofMembers, members_obj,
    Members.insert_ofList_map name value (nodup_names_filter h l.home) hl', ofSettings, ofMembers,
    members_obj, Members.insert_ofList_map Section.key _ Section.nodup_keys l.home.mem_all]
  simp only [hsection]
  rfl

end Leaf

namespace Document

theorem toJson_eq_ofSettings (d : Document) :
    d.toJson = ofSettings Leaf.all fun l => l.type.toJson (d.get l) := rfl

theorem find?_toJson (d : Document) (l : Leaf) :
    l.field.find? d.toJson = some (l.type.toJson (d.get l)) := by
  rw [toJson_eq_ofSettings, Leaf.find?_ofSettings Leaf.nodup_all, if_pos l.mem_all]

theorem write_toJson (d : Document) (l : Leaf) (v : l.type.Value) :
    l.field.write (l.type.toJson v) d.toJson = (d.set l v).toJson := by
  rw [toJson_eq_ofSettings, toJson_eq_ofSettings,
    Leaf.write_ofSettings_of_mem Leaf.nodup_all l.mem_all]
  refine congrArg (ofSettings Leaf.all) (funext fun m => ?_)
  by_cases hm : m = l
  · subst hm
    rw [if_pos rfl, get_set_self]
  · rw [if_neg hm, get_set_of_ne hm]

end Document

end SettingsStore
