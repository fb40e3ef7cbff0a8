import SettingsStore.Proofs.Access.Change
import SettingsStore.Proofs.Access.Patch

/-!
# Patches as overlays

A patch is laid over the value of a document, one collected value after the other. As long as this
succeeds, every setting in the value is of its kind, and it is what the patch gave it last, if it
gave it anything: what is passed over as nothing new is the value that is there already. A number
may be out of its range in between, if a later value of the patch replaces it. So the document that
is read in the end has the last values, however the patch spells and nests its paths. No setting is
an object, so all objects of such a patch were walked.

A patch that has objects only for sections, and elsewhere values that fit and that the caller may
write, is never refused.
-/

namespace SettingsStore

open Json

/-- What a value at a path gives a setting, if the path is its own and the value is no mask. -/
def Leaf.taken? (l : Leaf) (path : String) (value : Json) : Option Json :=
  if l.path = path ∧ (l.isSecret && value.isMask) = false then some value else none

def Leaf.given (l : Leaf) (leaves : List (String × Json)) : List Json :=
  leaves.filterMap fun (path, value) => l.taken? path value

theorem Leaf.taken?_of_ne {l m : Leaf} (h : m ≠ l) (value : Json) :
    m.taken? l.path value = none :=
  if_neg fun htaken => h (path_injective htaken.1)

/-- One more value in front of others counts if it is taken and there is no other. -/
theorem Leaf.getLast?_given_cons (l : Leaf) (path : String) (value : Json)
    (leaves : List (String × Json)) :
    (l.given ((path, value) :: leaves)).getLast? =
      (l.given leaves).getLast?.or (l.taken? path value) := by
  unfold given
  rw [List.filterMap_cons]
  cases htaken : l.taken? path value with
  | none => simp [htaken]
  | some v => simp [htaken, List.getLast?_cons]

namespace Filter

variable {f : Filter} {restricted : Bool} {doc doc' : Json}

/-! ## Values that are laid over a document -/

def HasKinds (doc : Json) : Prop :=
  ∀ l : Leaf, ∃ value, l.field.find? doc = some value ∧ l.type.kind.accepts value = true

theorem hasKinds_toJson (d : Document) : HasKinds d.toJson := fun l =>
  ⟨_, d.find?_toJson l, LeafType.accepts_toJson _⟩

theorem HasKinds.find?_eq_of_same (h : HasKinds doc) {l : Leaf} {value : Json}
    (hsame : (l.field.find? doc).any (·.same value) = true) :
    l.field.find? doc = some value := by
  obtain ⟨old, hold, haccepted⟩ := h l
  rw [hold, Option.any_some] at hsame
  rw [hold, LeafType.eq_of_same haccepted hsame]

/-- A value that is laid over a document replaces that of its setting, unless it is a mask, and no
other one. -/
theorem find?_applyLeaf {path : String} {value : Json} (hkinds : HasKinds doc)
    (h : f.applyLeaf restricted doc path value = .ok doc') (m : Leaf) :
    m.field.find? doc' = (m.taken? path value).or (m.field.find? doc) := by
  obtain ⟨l, rfl, hcases⟩ := applyLeaf_cases h
  by_cases hm : m = l
  · subst hm
    obtain ⟨hmask, rfl⟩ | ⟨hplain, hsame, rfl⟩ | ⟨hplain, _, _, rfl⟩ := hcases
    · rw [Leaf.taken?, if_neg fun htaken => Bool.false_ne_true (htaken.2.symm.trans hmask),
        Option.none_or]
    · rw [Leaf.taken?, if_pos ⟨rfl, hplain⟩, hkinds.find?_eq_of_same hsame]
      rfl
    · rw [Leaf.taken?, if_pos ⟨rfl, hplain⟩]
      exact get?_put_self ..
  · rw [Leaf.taken?_of_ne hm, Option.none_or]
    obtain ⟨_, rfl⟩ | ⟨_, _, rfl⟩ | ⟨_, _, _, rfl⟩ := hcases
    · rfl
    · rfl
    · exact Leaf.field_find?_write hm value doc

theorem hasKinds_applyLeaf {path : String} {value : Json} (hkinds : HasKinds doc)
    (h : f.applyLeaf restricted doc path value = .ok doc') : HasKinds doc' := by
  obtain ⟨l, _, ⟨_, rfl⟩ | ⟨_, _, rfl⟩ | ⟨_, haccepted, _, rfl⟩⟩ := applyLeaf_cases h
  · exact hkinds
  · exact hkinds
  · intro m
    by_cases hm : m = l
    · subst hm
      exact ⟨value, get?_put_self .., haccepted⟩
    · rw [Leaf.field_find?_write hm]
      exact hkinds m

theorem exists_path_of_applyLeaf {path : String} {value : Json} (hkinds : HasKinds doc)
    (h : f.applyLeaf restricted doc path value = .ok doc') :
    (∃ l : Leaf, l.path = path) ∧ value.isObject = false := by
  obtain ⟨l, hl, hcases⟩ := applyLeaf_cases h
  refine ⟨⟨l, hl⟩, ?_⟩
  obtain ⟨hmask, _⟩ | ⟨_, hsame, _⟩ | ⟨_, haccepted, _⟩ := hcases
  · rw [Bool.and_eq_true] at hmask
    cases value with
    | obj members => cases hmask.2
    | null | bool | num | str | arr => rfl
  · obtain ⟨old, hold, haccepted⟩ := hkinds l
    rw [hkinds.find?_eq_of_same hsame] at hold
    cases hold
    exact Kind.isObject_of_accepts haccepted
  · exact Kind.isObject_of_accepts haccepted

/-- Values laid over a document are for its settings, and each setting has the last one for it. -/
theorem find?_foldlM_applyLeaf {leaves : List (String × Json)} (hkinds : HasKinds doc)
    (h : leaves.foldlM (fun doc (path, value) => f.applyLeaf restricted doc path value) doc =
      .ok doc') :
    HasKinds doc' ∧
      (∀ path value, (path, value) ∈ leaves →
        (∃ l : Leaf, l.path = path) ∧ value.isObject = false) ∧
      ∀ l : Leaf, l.field.find? doc' = (l.given leaves).getLast?.or (l.field.find? doc) := by
  induction leaves generalizing doc with
  | nil =>
      cases h
      exact ⟨hkinds, fun _ _ hmem => (List.not_mem_nil hmem).elim, fun _ => rfl⟩
  | cons leaf leaves ih =>
      obtain ⟨path, value⟩ := leaf
      rw [List.foldlM_cons] at h
      obtain ⟨doc₁, hleaf, h⟩ := bind_eq_ok_iff.mp h
      obtain ⟨hkinds', hpaths, hlast⟩ := ih (hasKinds_applyLeaf hkinds hleaf) h
      refine ⟨hkinds', fun path' value' hmem => ?_, fun l => ?_⟩
      · rcases List.mem_cons.mp hmem with heq | hmem
        · cases heq
          exact exists_path_of_applyLeaf hkinds hleaf
        · exact hpaths path' value' hmem
      · rw [hlast, find?_applyLeaf hkinds hleaf, Leaf.getLast?_given_cons, Option.or_assoc]

/-! ## The walk over a patch -/

mutual
/-- The values of a patch that are no objects, with their paths, in the order of the walk. -/
def flatten (path : String) : Json → List (String × Json)
  | .obj members => flattenMembers path members
  | value => [(path, value)]

def flattenMembers (base : String) : List (String × Json) → List (String × Json)
  | [] => []
  | (key, value) :: rest => flatten (extendPath base key) value ++ flattenMembers base rest
end

mutual
/-- If nothing that is collected is an object, all objects were walked. -/
theorem eq_flatten_of_collect {path : String} : {value : Json} →
    {leaves : List (String × Json)} → collect path value = .ok leaves →
    (∀ path value, (path, value) ∈ leaves → value.isObject = false) → leaves = flatten path value
  | .obj members, _, h, hplain => by
      rw [collect] at h
      rw [flatten]
      split at h
      -- An object that stands at the path of a setting is collected itself.
      · cases h
        cases hplain _ _ List.mem_cons_self
      · split at h
        · exact eq_flattenMembers_of_collectMembers h hplain
        · cases h
  | .null, _, h, _ | .bool _, _, h, _ | .num _, _, h, _ | .str _, _, h, _ | .arr _, _, h, _ =>
      (Except.ok.inj h).symm

theorem eq_flattenMembers_of_collectMembers {base : String} : {members : Members} →
    {leaves : List (String × Json)} → collectMembers base members = .ok leaves →
    (∀ path value, (path, value) ∈ leaves → value.isObject = false) →
    leaves = flattenMembers base members
  | [], _, h, _ => (Except.ok.inj h).symm
  | (_, _) :: _, _, h, hplain => by
      rw [collectMembers] at h
      obtain ⟨first, hfirst, h⟩ := bind_eq_ok_iff.mp h
      obtain ⟨others, hothers, h⟩ := bind_eq_ok_iff.mp h
      cases h
      rw [flattenMembers, ← eq_flatten_of_collect hfirst fun path value hmem =>
          hplain path value (List.mem_append_left others hmem),
        ← eq_flattenMembers_of_collectMembers hothers fun path value hmem =>
          hplain path value (List.mem_append_right first hmem)]
end

/-- A document to which a patch was applied has the last values of the patch. -/
theorem toJson_get_of_applyPatch {base d : Document} {patch : Json}
    (h : f.applyPatch base patch = .ok d) :
    ∃ members, patch = .obj members ∧
      collectMembers "" members = .ok (flattenMembers "" members) ∧
      (∀ path value, (path, value) ∈ flattenMembers "" members → ∃ l : Leaf, l.path = path) ∧
      ∀ l : Leaf, l.type.toJson (d.get l) =
        (l.given (flattenMembers "" members)).getLast?.getD (l.type.toJson (base.get l)) := by
  obtain ⟨members, leaves, doc, hpatch, hleaves, hdoc, hd⟩ := applyPatch_cases h
  obtain ⟨hkinds, hpaths, hlast⟩ := find?_foldlM_applyLeaf (hasKinds_toJson base) hdoc
  obtain rfl := eq_flattenMembers_of_collectMembers hleaves fun path value hmem =>
    (hpaths path value hmem).2
  refine ⟨members, hpatch, hleaves, fun path value hmem => (hpaths path value hmem).1,
    fun l => ?_⟩
  obtain ⟨value, hvalue, haccepted⟩ := hkinds l
  rw [LeafType.toJson_eq_of_read haccepted (Document.read_of_ofJson hd hvalue)]
  rw [hlast, base.find?_toJson, Option.or_some] at hvalue
  exact (Option.some.inj hvalue).symm

/-! ## Patches that are not refused -/

/-- A patch has a value at a path: as one of its members, or in an object that is one of them. -/
inductive HasEntry : String → Members → String → Json → Prop
  | member {base key : String} {members : Members} {value : Json} (h : (key, value) ∈ members) :
      HasEntry base members (extendPath base key) value
  | inner {base key path : String} {members inner : Members} {value : Json}
      (h : (key, .obj inner) ∈ members) (hinner : HasEntry (extendPath base key) inner path value) :
      HasEntry base members path value

/-- A value for a setting that the caller may write, of its kind and in its range. -/
def Takes (f : Filter) (restricted : Bool) (path : String) (value : Json) : Prop :=
  ∃ l : Leaf, l.path = path ∧ f.isAllowed l.field .write restricted = true ∧
    l.type.kind.accepts value = true ∧ l.type.inRange value = true

/-- Objects stand for sections only, and all other values are taken. -/
structure Admits (f : Filter) (restricted : Bool) (base : String) (members : Members) : Prop where
  sections : ∀ path inner, HasEntry base members path (.obj inner) → ∃ s : Section, s.key = path
  settings : ∀ path value, HasEntry base members path value → value.isObject = false →
    f.Takes restricted path value

theorem hasEntry_cons_iff {base key path : String} {v value : Json} {rest : Members} :
    HasEntry base ((key, v) :: rest) path value ↔
      (path = extendPath base key ∧ value = v) ∨
        (∃ inner, v = .obj inner ∧ HasEntry (extendPath base key) inner path value) ∨
        HasEntry base rest path value := by
  constructor
  · intro h
    cases h with
    | member hmem =>
        rcases List.mem_cons.mp hmem with heq | hmem
        · cases heq
          exact Or.inl ⟨rfl, rfl⟩
        · exact Or.inr (Or.inr (.member hmem))
    | inner hmem hinner =>
        rcases List.mem_cons.mp hmem with heq | hmem
        · cases heq
          exact Or.inr (Or.inl ⟨_, rfl, hinner⟩)
        · exact Or.inr (Or.inr (.inner hmem hinner))
  · rintro (⟨rfl, rfl⟩ | ⟨inner, rfl, hinner⟩ | hrest)
    · exact .member List.mem_cons_self
    · exact .inner List.mem_cons_self hinner
    · cases hrest with
      | member hmem => exact .member (List.mem_cons_of_mem _ hmem)
      | inner hmem hinner => exact .inner (List.mem_cons_of_mem _ hmem) hinner

section

variable {base key : String} {rest : Members}

theorem admits_nil : f.Admits restricted base [] := by
  have hnone {path : String} {value : Json} : ¬HasEntry base [] path value := by
    rintro (hmem | hmem) <;> cases hmem
  exact ⟨fun _ _ he => (hnone he).elim, fun _ _ he => (hnone he).elim⟩

theorem Admits.tail {v : Json} (h : f.Admits restricted base ((key, v) :: rest)) :
    f.Admits restricted base rest :=
  ⟨fun path inner he => h.sections path inner (hasEntry_cons_iff.mpr (Or.inr (Or.inr he))),
    fun path value he => h.settings path value (hasEntry_cons_iff.mpr (Or.inr (Or.inr he)))⟩

theorem admits_cons_obj_iff {inner : Members} :
    f.Admits restricted base ((key, .obj inner) :: rest) ↔
      (∃ s : Section, s.key = extendPath base key) ∧
        f.Admits restricted (extendPath base key) inner ∧ f.Admits restricted base rest := by
  constructor
  · intro h
    refine ⟨h.sections _ inner (.member List.mem_cons_self), ⟨?_, ?_⟩, h.tail⟩
    · exact fun path inner' he => h.sections path inner' (.inner List.mem_cons_self he)
    · exact fun path value he => h.settings path value (.inner List.mem_cons_self he)
  · rintro ⟨hsection, hinner, hrest⟩
    constructor
    · intro path inner' he
      rcases hasEntry_cons_iff.mp he with ⟨rfl, _⟩ | ⟨_, heq, he⟩ | he
      · exact hsection
      · cases heq
        exact hinner.sections path inner' he
      · exact hrest.sections path inner' he
    · intro path value he hplain
      rcases hasEntry_cons_iff.mp he with ⟨_, rfl⟩ | ⟨_, heq, he⟩ | he
      · cases hplain
      · cases heq
        exact hinner.settings path value he hplain
      · exact hrest.settings path value he hplain

theorem admits_cons_iff {v : Json} (hplain : v.isObject = false) :
    f.Admits restricted base ((key, v) :: rest) ↔
      f.Takes restricted (extendPath base key) v ∧ f.Admits restricted base rest := by
  constructor
  · exact fun h => ⟨h.settings _ v (.member List.mem_cons_self) hplain, h.tail⟩
  · rintro ⟨htakes, hrest⟩
    constructor
    · intro path inner' he
      rcases hasEntry_cons_iff.mp he with ⟨_, rfl⟩ | ⟨_, rfl, _⟩ | he
      · cases hplain
      · cases hplain
      · exact hrest.sections path inner' he
    · intro path value he hvalue
      rcases hasEntry_cons_iff.mp he with ⟨rfl, rfl⟩ | ⟨_, rfl, _⟩ | he
      · exact htakes
      · cases hplain
      · exact hrest.settings path value he hvalue

end

/-- All that is collected of an admitted patch is taken. -/
theorem exists_collectMembers {base : String} : (members : Members) →
    f.Admits restricted base members →
    ∃ leaves, collectMembers base members = .ok leaves ∧
      ∀ path value, (path, value) ∈ leaves → f.Takes restricted path value
  -- The recursion is that of collecting: into an object, and on to the members after it.
  | [], _ => ⟨[], rfl, fun _ _ hmem => (List.not_mem_nil hmem).elim⟩
  | (key, value) :: rest, h => by
      have hparts : (∃ first, collect (extendPath base key) value = .ok first ∧
          ∀ path value, (path, value) ∈ first → f.Takes restricted path value) ∧
            f.Admits restricted base rest := by
        match value with
        | .obj inner =>
            obtain ⟨⟨s, hs⟩, hinner, hrest⟩ := admits_cons_obj_iff.mp h
            obtain ⟨first, hfirst, htakes⟩ := exists_collectMembers inner hinner
            refine ⟨⟨first, ?_, htakes⟩, hrest⟩
            rw [← hs, collect_section, hs, hfirst]
        | .null | .bool _ | .num _ | .str _ | .arr _ =>
            obtain ⟨htakes, hrest⟩ := (admits_cons_iff rfl).mp h
            refine ⟨⟨_, collect_of_not_isObject rfl, fun path value hmem => ?_⟩, hrest⟩
            cases List.mem_singleton.mp hmem
            exact htakes
      obtain ⟨⟨first, hfirst, htakes⟩, hadmits⟩ := hparts
      obtain ⟨leaves, hleaves, htakes'⟩ := exists_collectMembers rest hadmits
      refine ⟨first ++ leaves, ?_, fun path value hmem => ?_⟩
      · rw [collectMembers, hfirst, hleaves]
        rfl
      · exact (List.mem_append.mp hmem).elim (htakes path value) (htakes' path value)

/-- Values that are taken can be laid over every document. -/
theorem exists_foldlM_applyLeaf {leaves : List (String × Json)} (d : Document)
    (h : ∀ path value, (path, value) ∈ leaves → f.Takes restricted path value) :
    ∃ d' : Document, leaves.foldlM
      (fun doc (path, value) => f.applyLeaf restricted doc path value) d.toJson =
        .ok d'.toJson := by
  induction leaves generalizing d with
  | nil => exact ⟨d, rfl⟩
  | cons leaf leaves ih =>
      obtain ⟨path, value⟩ := leaf
      obtain ⟨l, rfl, hallowed, haccepted, hrange⟩ := h path value List.mem_cons_self
      obtain ⟨v, rfl⟩ := LeafType.exists_toJson_eq haccepted hrange
      obtain ⟨d₁, hd₁⟩ : ∃ d₁, f.change restricted d l v = .ok d₁ := by
        unfold change
        rw [hallowed]
        split
        · exact ⟨d, rfl⟩
        · exact ⟨d.set l v, rfl⟩
      obtain ⟨d', hd'⟩ := ih d₁ fun path value hmem => h path value (List.mem_cons_of_mem _ hmem)
      refine ⟨d', ?_⟩
      rw [List.foldlM_cons]
      dsimp only
      rw [applyLeaf_toJson, hd₁]
      exact hd'

theorem exists_applyPatch {base : Document} {members : Members}
    (h : f.Admits base.restrictsSystemAdmin "" members) :
    ∃ d, f.applyPatch base (.obj members) = .ok d := by
  obtain ⟨leaves, hleaves, htakes⟩ := exists_collectMembers members h
  obtain ⟨d, hd⟩ := exists_foldlM_applyLeaf base htakes
  refine ⟨d, ?_⟩
  simp only [applyPatch, hleaves, bind, Except.bind, hd, Document.ofJson_toJson]
  rfl

/-- A patch that is applied is laid over the document: its values, in whatever objects they stand,
are at paths of settings, each setting has the last value that is given for it and is no mask of a
secret, or the one that it had, and what is changed may be written. A patch that is admitted is
applied. -/
theorem applyPatch_overlay (f : Filter) (base : Document) (patch : Json) :
    (∀ d, f.applyPatch base patch = .ok d →
      ∃ members, patch = .obj members ∧
        collectMembers "" members = .ok (flattenMembers "" members) ∧
        (∀ path value, (path, value) ∈ flattenMembers "" members → ∃ l : Leaf, l.path = path) ∧
        (∀ l : Leaf, l.type.toJson (d.get l) =
          (l.given (flattenMembers "" members)).getLast?.getD (l.type.toJson (base.get l))) ∧
        ∀ l : Leaf, d.get l ≠ base.get l →
          f.isAllowed l.field .write base.restrictsSystemAdmin = true) ∧
    ∀ members, patch = .obj members → f.Admits base.restrictsSystemAdmin "" members →
      ∃ d, f.applyPatch base patch = .ok d := by
  refine ⟨fun d h => ?_, ?_⟩
  · obtain ⟨members, hpatch, hleaves, hpaths, hlast⟩ := toJson_get_of_applyPatch h
    refine ⟨members, hpatch, hleaves, hpaths, hlast, fun l hl => ?_⟩
    by_contra hnot
    exact hl (get_of_applyPatch h (Bool.eq_false_iff.mpr hnot))
  · rintro members rfl hadmits
    exact exists_applyPatch hadmits

/-- A patch that spells a path in two ways, and sends back the mask of a secret. -/
theorem applyPatch_overlay_of_dotted :
    let f : Filter := ⟨.standard, fun _ => true⟩
    let nested : Members := [("site_url", .str "https://one.example")]
    let members : Members := [("service_settings", .obj nested),
      ("service_settings.site_url", .str "https://two.example"),
      ("sql_settings.data_source", .str mask)]
    let base : Document := { sql.dataSource := some "postgres://primary" }
    f.Admits false "" members ∧ ∃ d, f.applyPatch base (.obj members) = .ok d ∧
      d.service.siteUrl = "https://two.example" ∧ d.sql.dataSource = some "postgres://primary" := by
  intro f nested members base
  have hmanages : f.holds manageSystem = true := by decide +kernel
  have htakes (l : Leaf) (value : Json) (haccepted : l.type.kind.accepts value = true)
      (hrange : l.type.inRange value = true) : f.Takes false l.path value := by
    refine ⟨l, rfl, ?_, haccepted, hrange⟩
    rw [isAllowed, if_neg (by simp), hmanages, Bool.or_true]
  have hadmits : f.Admits false "" members := by
    rw [admits_cons_obj_iff, admits_cons_iff rfl, admits_cons_iff rfl, admits_cons_iff rfl]
    exact ⟨⟨.service, rfl⟩, ⟨htakes .siteUrl _ rfl rfl, admits_nil⟩, htakes .siteUrl _ rfl rfl,
      htakes .dataSource _ rfl rfl, admits_nil⟩
  obtain ⟨happlied, hadmitted⟩ := applyPatch_overlay f base (.obj members)
  obtain ⟨d, hd⟩ := hadmitted members rfl hadmits
  obtain ⟨_, hmembers, _, _, hlast, _⟩ := happlied d hd
  cases hmembers
  exact ⟨hadmits, d, hd, Json.str.inj (hlast .siteUrl),
    LeafType.toJson_injective (t := .optStr) (hlast .dataSource)⟩

end Filter

end SettingsStore
