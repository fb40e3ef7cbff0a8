import SettingsStore.Proofs.Access.Overlay
import SettingsStore.Proofs.Json.Keys

/-!
# Patches that are sent again

Where no key of a patch has a dot, there is one way only to spell the path of a setting: an object
under the key of its section, and in it the name of the setting. If no object has a key twice
either, a setting is given one value at most. Once such a patch is applied, each of its values is a
mask or what the document has. So nothing in it is new when it is sent again, and permissions are
only asked for what is new: whoever sends it, and whatever the patch itself has barred, it is
accepted and changes nothing.
-/

namespace SettingsStore

open Json

theorem Leaf.splitAt_path (l : Leaf) : Text.splitAt '.' l.path = [l.home.key, l.name] :=
  l.segments_field

theorem Leaf.path_ne_of_dot_notMem {key : String} (h : '.' ∉ key.toList) (l : Leaf) :
    l.path ≠ key := by
  rintro rfl
  have hpieces := Text.splitAt_of_notMem h
  rw [l.splitAt_path, List.cons.injEq] at hpieces
  exact List.cons_ne_nil _ _ hpieces.2

namespace Filter

variable {f : Filter} {restricted : Bool}

/-! ## The walk over a patch without dots -/

theorem splitAt_of_isSectionPath {path : String} (h : isSectionPath path = true) :
    ∃ s : Section, Text.splitAt '.' path = [s.key] := by
  obtain ⟨field, hfield, hstart⟩ := List.any_eq_true.mp h
  obtain ⟨l, _, rfl⟩ := List.mem_map.mp hfield
  obtain ⟨rest, hrest⟩ := List.isPrefixOf_iff_prefix.mp hstart
  have hpath : path ++ '.'.toString ++ String.ofList rest = l.path := by
    apply String.toList_inj.mp
    rw [String.toList_append, String.toList_ofList]
    exact hrest
  have hpieces : Text.splitAt '.' path ++ Text.splitAt '.' (String.ofList rest) =
      [l.home.key] ++ [l.name] := by
    rw [← Text.splitAt_append, hpath, l.splitAt_path]
    rfl
  -- Both texts have a piece at least, and there are two pieces in all.
  have hcount := congrArg List.length hpieces
  have hfirst := List.length_pos_of_ne_nil (Text.splitAt_ne_nil '.' path)
  have hlast := List.length_pos_of_ne_nil (Text.splitAt_ne_nil '.' (String.ofList rest))
  simp only [List.length_append, List.length_singleton] at hcount
  exact ⟨l.home, (List.append_inj hpieces (by rw [List.length_singleton]; omega)).1⟩

theorem splitAt_extendPath {s : Section} {name : String} (h : '.' ∉ name.toList) :
    Text.splitAt '.' (extendPath s.key name) = [s.key, name] := by
  rw [extendPath, if_neg s.key_ne_empty]
  exact (Text.splitAt_append '.' s.key name).trans (by
    rw [Text.splitAt_of_notMem s.dot_notMem_key, Text.splitAt_of_notMem h]
    rfl)

theorem exists_of_collect_obj {key : String} {inner : Members} {leaves : List (String × Json)}
    (hkey : '.' ∉ key.toList) (h : collect key (.obj inner) = .ok leaves) :
    ∃ s : Section, s.key = key ∧ collectMembers key inner = .ok leaves := by
  rw [collect] at h
  split at h
  · next hfield =>
      obtain ⟨field, hfield⟩ := Option.isSome_iff_exists.mp hfield
      obtain ⟨l, _, rfl⟩ := List.mem_map.mp (List.mem_of_find?_eq_some hfield)
      have hpath := List.find?_some hfield
      rw [decide_eq_true_eq] at hpath
      exact absurd hpath (l.path_ne_of_dot_notMem hkey)
  split at h
  · next hsection =>
      obtain ⟨s, hs⟩ := splitAt_of_isSectionPath hsection
      rw [Text.splitAt_of_notMem hkey] at hs
      exact ⟨s, (List.head_eq_of_cons_eq hs).symm, h⟩
  · cases h

theorem eq_of_collect_extendPath {s : Section} {name : String} {value : Json}
    {leaves : List (String × Json)} (hname : '.' ∉ name.toList)
    (h : collect (extendPath s.key name) value = .ok leaves) :
    leaves = [(extendPath s.key name, value)] := by
  cases value with
  | obj inner =>
      rw [collect] at h
      split at h
      · exact (Except.ok.inj h).symm
      split at h
      · next hsection =>
          obtain ⟨t, ht⟩ := splitAt_of_isSectionPath hsection
          rw [splitAt_extendPath hname, List.cons.injEq] at ht
          exact absurd ht.2 (List.cons_ne_nil _ _)
      · cases h
  | null | bool | num | str | arr => exact (Except.ok.inj h).symm

theorem exists_of_mem_collectMembers {base path : String} {value : Json} {members : Members}
    {leaves : List (String × Json)} (h : collectMembers base members = .ok leaves)
    (hmem : (path, value) ∈ leaves) :
    ∃ key v first, (key, v) ∈ members ∧ collect (extendPath base key) v = .ok first ∧
      (path, value) ∈ first := by
  induction members generalizing leaves with
  | nil =>
      cases h
      cases hmem
  | cons m members ih =>
      obtain ⟨key, v⟩ := m
      rw [collectMembers] at h
      obtain ⟨first, hfirst, h⟩ := bind_eq_ok_iff.mp h
      obtain ⟨others, hothers, h⟩ := bind_eq_ok_iff.mp h
      cases h
      rcases List.mem_append.mp hmem with hmem | hmem
      · exact ⟨key, v, first, List.mem_cons_self, hfirst, hmem⟩
      · obtain ⟨key', v', first', hm, hcollect, hmem⟩ := ih hothers hmem
        exact ⟨key', v', first', List.mem_cons_of_mem _ hm, hcollect, hmem⟩

/-- No key has a dot, and none is there twice. -/
def IsPlainKeys (keys : List String) : Prop :=
  keys.Nodup ∧ ∀ key ∈ keys, '.' ∉ key.toList

/-- In what is read from a text no key is there twice. -/
theorem allKeys_isPlainKeys_of_parse {bytes : Bytes} {patch : Json}
    (h : Json.parse bytes = .ok patch)
    (hdots : patch.AllKeys fun keys => ∀ key ∈ keys, '.' ∉ key.toList) :
    patch.AllKeys IsPlainKeys :=
  (allKeys_of_parse h).combine (fun _ hkeys hdot => ⟨hkeys.imp ne_of_lt, hdot⟩) hdots

theorem find?_of_mem_collectMembers {members : Members} {leaves : List (String × Json)}
    {l : Leaf} {value : Json} (hkeys : (Json.obj members).AllKeys IsPlainKeys)
    (h : collectMembers "" members = .ok leaves) (hmem : (l.path, value) ∈ leaves) :
    l.field.find? (.obj members) = some value := by
  obtain ⟨key, v, first, hv, hfirst, hmem⟩ := exists_of_mem_collectMembers h hmem
  have htop : IsPlainKeys (members.map Prod.fst) := hkeys.1
  have hdot := htop.2 key (List.mem_map_of_mem hv)
  change collect key v = .ok first at hfirst
  cases v with
  | obj inner =>
      obtain ⟨s, rfl, hfirst⟩ := exists_of_collect_obj hdot hfirst
      obtain ⟨name, w, leaves', hw, hcollect, hmem⟩ := exists_of_mem_collectMembers hfirst hmem
      have hinner : IsPlainKeys (inner.map Prod.fst) := (hkeys.of_mem hv).1
      have hname := hinner.2 name (List.mem_map_of_mem hw)
      rw [eq_of_collect_extendPath hname hcollect, List.mem_singleton, Prod.mk.injEq] at hmem
      obtain ⟨hpath, rfl⟩ := hmem
      have hpieces := congrArg (Text.splitAt '.') hpath
      rw [l.splitAt_path, splitAt_extendPath hname, List.cons.injEq, List.cons.injEq] at hpieces
      obtain ⟨hhome, rfl, _⟩ := hpieces
      rw [Leaf.find?_eq, hhome, members_obj, Members.find?_of_mem htop.1 hv, Option.bind_some,
        members_obj, Members.find?_of_mem hinner.1 hw]
  | null | bool | num | str | arr =>
      rw [← Except.ok.inj hfirst, List.mem_singleton, Prod.mk.injEq] at hmem
      exact absurd hmem.1 (l.path_ne_of_dot_notMem hdot)

/-! ## The second time -/

/-- If all that is given for a setting is one value, the last of it is that value. -/
theorem getLast?_given {l : Leaf} {value : Json} {leaves : List (String × Json)}
    (hmask : (l.isSecret && value.isMask) = false) (hmem : (l.path, value) ∈ leaves)
    (hone : ∀ value', (l.path, value') ∈ leaves → value' = value) :
    (l.given leaves).getLast? = some value := by
  have htaken : l.taken? l.path value = some value := if_pos ⟨rfl, hmask⟩
  have hgiven : value ∈ l.given leaves := List.mem_filterMap.mpr ⟨_, hmem, htaken⟩
  have hne := List.ne_nil_of_mem hgiven
  rw [List.getLast?_eq_some_getLast hne]
  obtain ⟨⟨path, value'⟩, hleaf, hlast⟩ := List.mem_filterMap.mp (List.getLast_mem hne)
  obtain ⟨⟨rfl, _⟩, hvalue⟩ := Option.ite_none_right_eq_some.mp hlast
  rw [← Option.some.inj hvalue, hone value' hleaf]

/-- What is a mask of a secret, or what a document has, is no change of it. -/
theorem applyLeaf_eq_self {d : Document} {l : Leaf} {value : Json}
    (h : (l.isSecret && value.isMask) = true ∨ l.type.toJson (d.get l) = value) :
    f.applyLeaf restricted d.toJson l.path value = .ok d.toJson := by
  rw [applyLeaf, l.ofPath?_path]
  dsimp only
  split
  · rfl
  next hplain =>
  obtain rfl := h.resolve_left hplain
  rw [d.find?_toJson, Option.any_some, LeafType.same_toJson, decide_eq_true rfl, if_pos rfl]

theorem foldlM_applyLeaf_eq_self {d : Document} {leaves : List (String × Json)}
    (h : ∀ path value, (path, value) ∈ leaves →
      f.applyLeaf restricted d.toJson path value = .ok d.toJson) :
    leaves.foldlM (fun doc (path, value) => f.applyLeaf restricted doc path value) d.toJson =
      .ok d.toJson := by
  induction leaves with
  | nil => rfl
  | cons leaf leaves ih =>
      rw [List.foldlM_cons]
      dsimp only
      rw [h _ _ List.mem_cons_self]
      exact ih fun path value hmem => h path value (List.mem_cons_of_mem _ hmem)

/-- A patch whose keys have no dots, once it was applied, is accepted from everybody and changes
nothing any more. One that was read from a text has no key twice anyway. -/
theorem applyPatch_again {base d : Document} {patch : Json} (h : f.applyPatch base patch = .ok d)
    (f' : Filter) :
    (patch.AllKeys IsPlainKeys → f'.applyPatch d patch = .ok d) ∧
    ∀ bytes, Json.parse bytes = .ok patch →
      (patch.AllKeys fun keys => ∀ key ∈ keys, '.' ∉ key.toList) →
        f'.applyPatch d patch = .ok d := by
  obtain ⟨members, rfl, hleaves, hpaths, hlast⟩ := toJson_get_of_applyPatch h
  have hagain (hkeys : (Json.obj members).AllKeys IsPlainKeys) :
      f'.applyPatch d (.obj members) = .ok d := by
    have hsame : ∀ path value, (path, value) ∈ flattenMembers "" members →
        f'.applyLeaf d.restrictsSystemAdmin d.toJson path value = .ok d.toJson := by
      intro path value hmem
      obtain ⟨l, rfl⟩ := hpaths path value hmem
      refine applyLeaf_eq_self ?_
      cases hmask : l.isSecret && value.isMask with
      | true => exact Or.inl rfl
      | false =>
          have hfound := find?_of_mem_collectMembers hkeys hleaves hmem
          rw [hlast, getLast?_given hmask hmem fun value' hmem' => ?_, Option.getD_some]
          · exact Or.inr rfl
          · rw [find?_of_mem_collectMembers hkeys hleaves hmem'] at hfound
            exact Option.some.inj hfound
    simp only [applyPatch, hleaves, bind, Except.bind, foldlM_applyLeaf_eq_self hsame,
      Document.ofJson_toJson]
    rfl
  exact ⟨hagain, fun bytes hparse hdots => hagain (allKeys_isPlainKeys_of_parse hparse hdots)⟩

/-- Somebody who holds everything bars system administrators from writing, and sets what they may
not write any more. Somebody who holds nothing sends this again. -/
theorem applyPatch_again_of_restricting :
    let f : Filter := ⟨.standard, fun _ => true⟩
    let nobody : Filter := ⟨.standard, fun _ => false⟩
    let members : Members := [
      ("experimental_settings", .obj [("restrict_system_admin", .bool true)]),
      ("sql_settings", .obj [("data_source", .str mask), ("driver_name", .str "postgres")])]
    (Json.obj members).AllKeys IsPlainKeys ∧
      ∃ d, f.applyPatch .default (.obj members) = .ok d ∧ d.restrictsSystemAdmin = true ∧
        f.isAllowed Leaf.sqlDriver.field .write d.restrictsSystemAdmin = false ∧
        nobody.applyPatch d (.obj members) = .ok d := by
  intro f nobody members
  have hkeys : (Json.obj members).AllKeys IsPlainKeys := by
    simp [members, AllKeys, AllKeysMembers, IsPlainKeys]
  have hmanages : f.holds manageSystem = true := by decide +kernel
  have htakes (l : Leaf) (value : Json) (haccepted : l.type.kind.accepts value = true)
      (hrange : l.type.inRange value = true) : f.Takes false l.path value := by
    refine ⟨l, rfl, ?_, haccepted, hrange⟩
    rw [isAllowed, if_neg (by simp), hmanages, Bool.or_true]
  have hadmits : f.Admits false "" members := by
    rw [admits_cons_obj_iff, admits_cons_obj_iff, admits_cons_iff rfl, admits_cons_iff rfl,
      admits_cons_iff rfl]
    exact ⟨⟨.experimental, rfl⟩, ⟨htakes .restrictSystemAdmin _ rfl rfl, admits_nil⟩,
      ⟨.sql, rfl⟩, ⟨htakes .dataSource _ rfl rfl, htakes .sqlDriver _ rfl rfl, admits_nil⟩,
      admits_nil⟩
  obtain ⟨d, hd⟩ : ∃ d, f.applyPatch .default (.obj members) = .ok d := exists_applyPatch hadmits
  obtain ⟨_, hmembers, _, _, hlast⟩ := toJson_get_of_applyPatch hd
  cases hmembers
  have hrestricts : d.restrictsSystemAdmin = true := Json.bool.inj (hlast .restrictSystemAdmin)
  refine ⟨hkeys, d, hd, hrestricts, ?_, (applyPatch_again hd nobody).1 hkeys⟩
  rw [hrestricts]
  decide +kernel

end Filter

end SettingsStore
