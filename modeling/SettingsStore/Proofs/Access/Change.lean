import SettingsStore.Access.Filter
import SettingsStore.Proofs.Document.Masking

/-!
# Patches that fit

A patch whose values are values of their settings never fails to fit: each of them is passed over,
because it is a mask or what the document has already, or it is set, if its setting may be written.
So such a patch is a list of changes of a document, made one after the other.
-/

namespace SettingsStore

open Json

/-! ## What is collected -/

theorem Leaf.ofPath?_path (l : Leaf) : ofPath? l.path = some l := by
  obtain ⟨m, hm⟩ : ∃ m, all.find? (·.path = l.path) = some m :=
    Option.isSome_iff_exists.mp (List.find?_isSome.mpr ⟨l, l.mem_all, decide_eq_true rfl⟩)
  have hpath := List.find?_some hm
  rw [decide_eq_true_eq] at hpath
  rw [ofPath?, hm, eq_of_segments (congrArg (Text.splitAt '.') hpath)]

namespace Section

theorem key_ne_empty (s : Section) : s.key ≠ "" := by
  cases s <;> decide

theorem exists_home (s : Section) : ∃ l : Leaf, l.home = s := by
  cases s
  exacts [⟨.siteUrl, rfl⟩, ⟨.sqlDriver, rfl⟩, ⟨.symbol, rfl⟩, ⟨.fileDriver, rfl⟩,
    ⟨.smtpServer, rfl⟩, ⟨.availableLocales, rfl⟩, ⟨.perSec, rfl⟩, ⟨.fileLocation, rfl⟩,
    ⟨.clientSideCertEnable, rfl⟩, ⟨.enablePlugins, rfl⟩]

/-- No setting has the name of a section for a path, since paths have a dot. -/
theorem ofPath?_key (s : Section) : Field.ofPath? s.key = none := by
  refine List.find?_eq_none.mpr fun field hfield => ?_
  obtain ⟨l, _, rfl⟩ := List.mem_map.mp hfield
  have hdot : '.' ∈ l.field.path.toList := by
    change '.' ∈ (l.home.key ++ "." ++ l.name).toList
    simp
  rw [decide_eq_true_eq]
  exact fun hpath => s.dot_notMem_key (hpath ▸ hdot)

theorem isSectionPath_key (s : Section) : Filter.isSectionPath s.key = true := by
  obtain ⟨l, rfl⟩ := s.exists_home
  refine List.any_eq_true.mpr ⟨l.field, List.mem_map.mpr ⟨l, l.mem_all, rfl⟩, ?_⟩
  change (l.home.key ++ ".").toList.isPrefixOf (l.home.key ++ "." ++ l.name).toList = true
  rw [List.isPrefixOf_iff_prefix, String.toList_append (s := l.home.key ++ ".")]
  exact List.prefix_append _ _

end Section

namespace Filter

variable {value : Leaf → Json}

theorem collect_of_not_isObject {path : String} {j : Json} (h : j.isObject = false) :
    collect path j = .ok [(path, j)] := by
  cases j with
  | obj members => cases h
  | null | bool | num | str | arr => rfl

theorem collect_section (s : Section) (members : Members) :
    collect s.key (.obj members) = collectMembers s.key members := by
  rw [collect, s.ofPath?_key, s.isSectionPath_key, Option.isSome_none, if_neg Bool.false_ne_true,
    if_pos rfl]

theorem collectMembers_leaves {s : Section} {ls : List Leaf} (hhome : ∀ l ∈ ls, l.home = s)
    (hvalue : ∀ l, (value l).isObject = false) :
    collectMembers s.key (ls.map fun l => (l.name, value l)) =
      .ok (ls.map fun l => (l.path, value l)) := by
  induction ls with
  | nil => rfl
  | cons l ls ih =>
      have hpath : extendPath s.key l.name = l.path := by
        rw [extendPath, if_neg s.key_ne_empty, Leaf.path, hhome l List.mem_cons_self]
      rw [List.map_cons, collectMembers, hpath, collect_of_not_isObject (hvalue l),
        ih fun m hm => hhome m (List.mem_cons_of_mem l hm)]
      rfl

theorem collectMembers_sections {ss : List Section} {order : Section → List Leaf}
    (hhome : ∀ s, ∀ l ∈ order s, l.home = s) (hvalue : ∀ l, (value l).isObject = false) :
    collectMembers "" (ss.map fun s => (s.key, .obj ((order s).map fun l => (l.name, value l)))) =
      .ok ((ss.flatMap order).map fun l => (l.path, value l)) := by
  induction ss with
  | nil => rfl
  | cons s ss ih =>
      have hpath : extendPath "" s.key = s.key := if_pos rfl
      rw [List.map_cons, collectMembers, hpath, collect_section,
        collectMembers_leaves (hhome s) hvalue, ih]
      rw [List.flatMap_cons, List.map_append]
      rfl

/-! ## What is changed -/

/-- A document with another value of a setting, if there is something to change that the caller may
write. -/
def change (f : Filter) (restricted : Bool) (d : Document) (l : Leaf) (v : l.type.Value) :
    Except StoreError Document :=
  if (l.isSecret && (l.type.toJson v).isMask) = true ∨ d.get l = v then .ok d
  else if f.isAllowed l.field .write restricted then .ok (d.set l v)
  else .error (.permissionDenied l.path)

variable {f : Filter} {restricted : Bool} {d : Document}

theorem get_of_change {d' : Document} {l m : Leaf} {v : l.type.Value} (hm : m ≠ l)
    (h : f.change restricted d l v = .ok d') : d'.get m = d.get m := by
  unfold change at h
  split_ifs at h <;> cases h
  · rfl
  · exact Document.get_set_of_ne hm d v

theorem foldlM_change_eq_self {v : (l : Leaf) → l.type.Value} {ls : List Leaf}
    (h : ∀ l ∈ ls, f.change restricted d l (v l) = .ok d) :
    ls.foldlM (fun d l => f.change restricted d l (v l)) d = .ok d := by
  induction ls with
  | nil => rfl
  | cons l ls ih =>
      rw [List.foldlM_cons, h l List.mem_cons_self]
      exact ih fun m hm => h m (List.mem_cons_of_mem l hm)

theorem applyLeaf_toJson (l : Leaf) (v : l.type.Value) :
    f.applyLeaf restricted d.toJson l.path (l.type.toJson v) =
      (f.change restricted d l v).map Document.toJson := by
  unfold applyLeaf change
  simp only [l.ofPath?_path, d.find?_toJson, Option.any_some, LeafType.same_toJson,
    LeafType.accepts_toJson, d.write_toJson, decide_eq_true_eq]
  by_cases hmask : (l.isSecret && (l.type.toJson v).isMask) = true
  · simp [hmask, Except.map]
  by_cases hsame : d.get l = v
  · simp [hsame, Except.map]
  by_cases hallowed : f.isAllowed l.field .write restricted = true
  · simp [hmask, hsame, hallowed, Except.map]
  · simp [hmask, hsame, hallowed, Except.map]

theorem foldlM_applyLeaf (v : (l : Leaf) → l.type.Value) (ls : List Leaf) :
    (ls.map fun l => (l.path, l.type.toJson (v l))).foldlM
        (fun doc (path, value) => f.applyLeaf restricted doc path value) d.toJson =
      (ls.foldlM (fun d l => f.change restricted d l (v l)) d).map Document.toJson := by
  induction ls generalizing d with
  | nil => rfl
  | cons l ls ih =>
      rw [List.map_cons, List.foldlM_cons, List.foldlM_cons]
      dsimp only
      rw [applyLeaf_toJson]
      cases f.change restricted d l (v l) with
      | error cause => rfl
      | ok d' => exact ih

/-- A patch of values that fit makes its changes in some order. -/
theorem exists_applyPatch_ofSettings (f : Filter) (base : Document) {ls : List Leaf}
    (h : ls.Nodup) (v : (l : Leaf) → l.type.Value) :
    ∃ order : List Leaf, order.Nodup ∧ (∀ l, l ∈ order ↔ l ∈ ls) ∧
      f.applyPatch base (ofSettings ls fun l => l.type.toJson (v l)) =
        order.foldlM (fun d l => f.change base.restrictsSystemAdmin d l (v l)) base := by
  obtain ⟨ss, order, hss, horder, hvalue⟩ :=
    Leaf.exists_ofSettings h fun l => l.type.toJson (v l)
  have hhome (s : Section) (l : Leaf) (hl : l ∈ order s) : l.home = s :=
    of_decide_eq_true (List.mem_filter.mp ((horder s).mem_iff.mp hl)).2
  -- The patch is walked section by section, so its settings come in the order of both names.
  have hperm := Leaf.flatMap_perm h hss horder
  refine ⟨ss.flatMap order, hperm.nodup_iff.mpr h, fun l => hperm.mem_iff, ?_⟩
  rw [hvalue, applyPatch]
  simp only [collectMembers_sections hhome fun l => LeafType.isObject_toJson (v l),
    foldlM_applyLeaf, bind, Except.bind]
  cases (ss.flatMap order).foldlM
    (fun d l => f.change base.restrictsSystemAdmin d l (v l)) base with
  | error cause => rfl
  | ok d => simp only [Except.map, Document.ofJson_toJson]; rfl

/-- What repeats values of a document is accepted from everybody and changes nothing. -/
theorem applyPatch_ofSettings_get (f : Filter) (base : Document) {ls : List Leaf} (h : ls.Nodup) :
    f.applyPatch base (ofSettings ls fun l => l.type.toJson (base.get l)) = .ok base := by
  obtain ⟨order, -, -, happly⟩ := f.exists_applyPatch_ofSettings base h base.get
  rw [happly]
  exact foldlM_change_eq_self fun _ _ => if_pos (Or.inr rfl)

end Filter

end SettingsStore
