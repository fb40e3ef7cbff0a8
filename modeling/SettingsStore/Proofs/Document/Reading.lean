import SettingsStore.Document.Codec
import SettingsStore.Proofs.Json.Path
import SettingsStore.Proofs.Text.CommaList

/-!
# What is read of a document

A member of an object that is read is the only one of its name, and what it says of its field stays:
reading the other members changes other fields. So each leaf of a document has the value that stands
at its path. Reading members that have different names and fit their fields succeeds, in any
selection, and the leaves that no member is about keep their values.
-/

namespace SettingsStore

open Json

theorem bind_eq_ok_iff {ε α β : Type} {x : Except ε α} {f : α → Except ε β} {b : β} :
    x >>= f = .ok b ↔ ∃ a, x = .ok a ∧ f a = .ok b := by
  cases x with
  | error e => simp [bind, Except.bind]
  | ok a => simp [bind, Except.bind]

/-! ## Records -/

namespace Record

variable {φ α : Type} {r : Record φ} {obs : Document → α} {f : φ}

/-- Reading a field does not change what is observed of a document. -/
def Leaves (r : Record φ) (obs : Document → α) (f : φ) : Prop :=
  ∀ t d d', r.read f t d = .ok d' → obs d' = obs d

theorem readItems_leaves {surplus : Surplus} {count : Nat} {stop : Option Stop}
    {fields : List (String × φ)} (h : ∀ kf ∈ fields, r.Leaves obs kf.2) {ts : List Tree}
    {d d' : Document} (hd : r.readItems surplus count stop fields ts d = .ok d') :
    obs d' = obs d := by
  induction fields generalizing ts d with
  | nil =>
      cases ts with
      | nil =>
          cases stop with
          | none =>
              cases hd
              rfl
          | some stop => cases hd
      | cons t ts =>
          rw [readItems] at hd
          obtain ⟨_, _, hd⟩ := bind_eq_ok_iff.mp hd
          cases hd
          rfl
  | cons kf fields ih =>
      cases ts with
      | nil =>
          cases stop with
          | none =>
              cases hd
              rfl
          | some stop => cases hd
      | cons t ts =>
          rw [readItems] at hd
          obtain ⟨d₁, hread, hd⟩ := bind_eq_ok_iff.mp hd
          rw [ih (fun kf hkf => h kf (List.mem_cons_of_mem _ hkf)) hd]
          exact h kf List.mem_cons_self t d d₁ hread

theorem mem_of_lookup {fields : List (String × φ)} {key : String}
    (h : fields.lookup key = some f) :
    (key, f) ∈ fields := by
  obtain ⟨l₁, l₂, rfl, _⟩ := List.lookup_eq_some_iff.mp h
  exact List.mem_append_right _ List.mem_cons_self

variable [DecidableEq φ] {seen : List φ} {ms : List (Key × Tree)} {key : String} {t : Tree}
  {d d' : Document}

theorem readMembers_cons_cases {m : Key × Tree}
    (h : r.readMembers seen (m :: ms) d = .ok d') :
    (∃ k, m.1 = .ok k ∧ r.fields.lookup k = none ∧ r.readMembers seen ms d = .ok d') ∨
    ∃ k g d₁, m.1 = .ok k ∧ r.fields.lookup k = some g ∧ g ∉ seen ∧
      r.read g m.2 d = .ok d₁ ∧ r.readMembers (g :: seen) ms d₁ = .ok d' := by
  obtain ⟨key, t⟩ := m
  rw [readMembers] at h
  obtain ⟨k, hk, h⟩ := bind_eq_ok_iff.mp h
  have hkey : key = .ok k := by
    cases key with
    | error fault => cases hk
    | ok key =>
        cases hk
        rfl
  cases hg : r.fields.lookup k with
  | none =>
      rw [hg] at h
      obtain ⟨_, _, h⟩ := bind_eq_ok_iff.mp h
      exact Or.inl ⟨k, hkey, hg, h⟩
  | some g =>
      rw [hg] at h
      dsimp only at h
      by_cases hseen : g ∈ seen
      · rw [if_pos hseen] at h
        cases h
      · rw [if_neg hseen] at h
        obtain ⟨d₁, hread, h⟩ := bind_eq_ok_iff.mp h
        exact Or.inr ⟨k, g, d₁, hkey, hg, hseen, hread, h⟩

theorem readMembers_leaves (hobs : ∀ kf ∈ r.fields, kf.2 ∉ seen → r.Leaves obs kf.2)
    (h : r.readMembers seen ms d = .ok d') : obs d' = obs d := by
  induction ms generalizing seen d with
  | nil =>
      cases h
      rfl
  | cons m ms ih =>
      rcases readMembers_cons_cases h with ⟨_, _, _, h⟩ | ⟨k, g, d₁, _, hg, hseen, hread, h⟩
      · exact ih hobs h
      · rw [ih (fun kf hkf hnot => hobs kf hkf fun hmem => hnot (List.mem_cons_of_mem g hmem)) h]
        exact hobs (k, g) (mem_of_lookup hg) hseen m.2 d d₁ hread

theorem readTree_leaves (obs : Document → α) {surplus : Surplus}
    (hobs : ∀ kf ∈ r.fields, r.Leaves obs kf.2) (h : r.readTree surplus t d = .ok d') :
    obs d' = obs d := by
  cases t with
  | object members stop =>
      rw [readTree] at h
      obtain ⟨d₁, hd, h⟩ := bind_eq_ok_iff.mp h
      obtain ⟨_, _, h⟩ := bind_eq_ok_iff.mp h
      cases h
      exact readMembers_leaves (fun kf hkf _ => hobs kf hkf) hd
  | list items stop => exact readItems_leaves hobs h
  | literal | num | str | broken => cases h

/-- What a member says of its field is what is observed in the end. -/
theorem readMembers_of_mem (obs : Document → α)
    (hobs : ∀ kf ∈ r.fields, kf.2 ≠ f → r.Leaves obs kf.2)
    (hkey : r.fields.lookup key = some f) (hm : (.ok key, t) ∈ ms)
    (h : r.readMembers seen ms d = .ok d') :
    ∃ d₀ d₁, r.read f t d₀ = .ok d₁ ∧ obs d' = obs d₁ := by
  induction ms generalizing seen d with
  | nil => cases hm
  | cons m ms ih =>
      rcases readMembers_cons_cases h with ⟨k, hk, hnone, h⟩ |
        ⟨k, g, d₁, hk, hg, hseen, hread, h⟩
      · rcases List.mem_cons.mp hm with rfl | hm
        · cases hk
          rw [hkey] at hnone
          cases hnone
        · exact ih hm h
      · rcases List.mem_cons.mp hm with rfl | hm
        · cases hk
          rw [hkey] at hg
          cases hg
          refine ⟨d, d₁, hread, readMembers_leaves (fun kf hkf hnot => hobs kf hkf ?_) h⟩
          exact fun heq => hnot (heq ▸ List.mem_cons_self)
        · exact ih hm h

end Record

/-! ## Leaves -/

/-- Paths have their only dot between the section and the name. -/
theorem Section.dot_notMem_key (s : Section) : '.' ∉ s.key.toList := by
  cases s <;> decide

namespace Leaf

theorem mem_ofSection {l : Leaf} {s : Section} : l ∈ ofSection s ↔ l.home = s := by
  simp [ofSection, mem_all]

theorem lookup_name (l : Leaf) : l.home.record.fields.lookup l.name = some l := by
  have h : Leaf.all.all (fun l => l.home.record.fields.lookup l.name == some l) = true := by
    decide +kernel
  exact beq_iff_eq.mp (List.all_eq_true.mp h l l.mem_all)

theorem snd_mem_fields {s : Section} {kf : String × Leaf} (h : kf ∈ s.record.fields) :
    kf.2.home = s := by
  obtain ⟨l, hl, rfl⟩ := List.mem_map.mp h
  exact mem_ofSection.mp hl

theorem dot_notMem_name (l : Leaf) : '.' ∉ l.name.toList := by
  have h : Leaf.all.all (fun l => !l.name.toList.contains '.') = true := by decide +kernel
  have hl := List.all_eq_true.mp h l l.mem_all
  simpa using hl

theorem segments_field (l : Leaf) : l.field.segments = [l.home.key, l.name] := by
  have hpath : l.field.path = l.home.key ++ '.'.toString ++ l.name := rfl
  rw [Field.segments, hpath, Text.splitAt_append, Text.splitAt_of_notMem l.home.dot_notMem_key,
    Text.splitAt_of_notMem l.dot_notMem_name]
  rfl

theorem eq_of_segments {l m : Leaf} (h : l.field.segments = m.field.segments) : l = m := by
  rw [segments_field, segments_field, List.cons.injEq, List.cons.injEq] at h
  have hhome : l.home = m.home := by
    revert h
    cases l.home <;> cases m.home <;> simp [Section.key]
  have hl := l.lookup_name
  rw [hhome, h.2.1, m.lookup_name] at hl
  exact (Option.some.inj hl).symm

theorem path_injective : Function.Injective path := fun _ _ h =>
  eq_of_segments (congrArg (Text.splitAt '.') h)

end Leaf

theorem Section.nodup_keys : (Section.all.map Section.key).Nodup := by decide

theorem Section.nodup_names (s : Section) : ((Leaf.ofSection s).map Leaf.name).Nodup := by
  cases s <;> decide

theorem Section.lookup_key (surplus : Surplus) (s : Section) :
    (Document.record surplus).fields.lookup s.key = some s := by
  cases s <;> rfl

theorem Section.leaves_record {s : Section} {l m : Leaf} (h : l ≠ m) :
    s.record.Leaves (·.get m) l := by
  intro t d d' hread
  obtain ⟨v, _, hread⟩ := bind_eq_ok_iff.mp hread
  cases hread
  exact Document.get_set_of_ne h.symm d v

theorem Document.leaves_record {surplus : Surplus} {s : Section} {l : Leaf} (h : s ≠ l.home) :
    (record surplus).Leaves (·.get l) s := by
  intro t d d' hread
  refine Record.readTree_leaves (·.get l) (fun kf hkf => ?_) hread
  apply Section.leaves_record
  rintro rfl
  exact h (Leaf.snd_mem_fields hkf).symm

namespace Document

theorem read_of_ofTree {surplus : Surplus} {sections members : List (Key × Tree)}
    {stop stop' : Option Stop} {l : Leaf} {t : Tree} {d : Document}
    (h : ofTree surplus (.object sections stop) = .ok d)
    (hsection : (.ok l.home.key, .object members stop') ∈ sections)
    (hmember : (.ok l.name, t) ∈ members) : l.type.read t = .ok (d.get l) := by
  rw [ofTree, Record.readTree] at h
  obtain ⟨d₁, hd, h⟩ := bind_eq_ok_iff.mp h
  obtain ⟨_, _, h⟩ := bind_eq_ok_iff.mp h
  cases h
  obtain ⟨d₂, d₃, hread, hget⟩ := Record.readMembers_of_mem (·.get l)
    (fun kf _ hne => leaves_record hne) (Section.lookup_key surplus l.home) hsection hd
  change l.home.record.readTree surplus (.object members stop') d₂ = .ok d₃ at hread
  rw [Record.readTree] at hread
  obtain ⟨d₄, hd, hread⟩ := bind_eq_ok_iff.mp hread
  obtain ⟨_, _, hread⟩ := bind_eq_ok_iff.mp hread
  cases hread
  obtain ⟨d₅, d₆, hread, hget'⟩ := Record.readMembers_of_mem (·.get l)
    (fun kf _ hne => Section.leaves_record hne) l.lookup_name hmember hd
  obtain ⟨v, hv, hread⟩ := bind_eq_ok_iff.mp hread
  cases hread
  rw [hget, hget', hv, get_set_self]

end Document

/-! ## Values -/

namespace LeafType

theorem readStrings_toTree (ss : List String) :
    (treesOfItems (ss.map .str)).mapM readString = .ok ss := by
  induction ss with
  | nil => rfl
  | cons s ss ih =>
      rw [List.map_cons, treesOfItems, List.mapM_cons, ih]
      rfl

theorem read_toJson {t : LeafType} (v : t.Value) : t.read (t.toJson v).toTree = .ok v := by
  cases t with
  | str | bool => rfl
  | optStr => cases v <;> rfl
  | word32 =>
      change UInt32 at v
      have hrange : (0 : Int) ≤ v.toNat ∧ (v.toNat : Int) < Word.count 32 := by
        have hlt := v.toNat_lt
        have hcount : Word.count 32 = 2 ^ 32 := rfl
        rw [hcount]
        omega
      simp only [toJson, toTree, read, readWord32]
      rw [if_pos hrange, Int.toNat_natCast, UInt32.ofNat_toNat]
  | int64 =>
      change Int64 at v
      have hrange : Word.isSigned64 v.toInt = true := by
        have hle := v.le_toInt
        have hlt := v.toInt_lt
        have hcount : Word.count 63 = 2 ^ 63 := rfl
        simp only [Word.isSigned64, Bool.and_eq_true, decide_eq_true_eq, hcount]
        omega
      simp only [toJson, toTree, read, readInt64]
      rw [if_pos hrange, Int64.ofInt_toInt]
  | strList =>
      change List String at v
      change (do
        let strings ← (treesOfItems (v.map .str)).mapM readString
        checkStop none
        return strings) = Except.ok v
      rw [readStrings_toTree]
      rfl

end LeafType

namespace Document

theorem mem_treesOfMembers {key : String} {value : Json} {ms : List (String × Json)}
    (h : (key, value) ∈ ms) : (.ok key, value.toTree) ∈ treesOfMembers ms := by
  induction ms with
  | nil => cases h
  | cons m ms ih =>
      rw [treesOfMembers]
      rcases List.mem_cons.mp h with rfl | h
      · exact List.mem_cons_self
      · exact List.mem_cons_of_mem _ (ih h)

/-- A leaf has the value that stands at its path. -/
theorem read_of_ofJson {j value : Json} {d : Document} {l : Leaf} (h : ofJson j = .ok d)
    (hvalue : l.field.find? j = some value) : l.type.read value.toTree = .ok (d.get l) := by
  rw [Field.find?, Leaf.segments_field, get?_cons, Option.bind_eq_some_iff] at hvalue
  obtain ⟨section', hsection, hvalue⟩ := hvalue
  rw [get?_cons, Option.bind_eq_some_iff] at hvalue
  obtain ⟨value', hmember, hvalue⟩ := hvalue
  cases hvalue
  cases j with
  | obj sections =>
      cases section' with
      | obj members =>
          exact read_of_ofTree h
            (mem_treesOfMembers (Members.mem_of_find? hsection))
            (mem_treesOfMembers (Members.mem_of_find? hmember))
      | null | bool | num | str | arr => cases hmember
  | null | bool | num | str | arr => cases hsection

end Document

/-! ## Members with different names -/

/-- Members that have different names are read one after the other. -/
theorem Record.readMembers_eq_foldlM {φ : Type} [DecidableEq φ] {r : Record φ} (key : φ → String)
    (tree : φ → Tree) {fs seen : List φ} (hkey : ∀ f ∈ fs, r.fields.lookup (key f) = some f)
    (hnodup : fs.Nodup) (hseen : ∀ f ∈ fs, f ∉ seen) (d : Document) :
    r.readMembers seen (fs.map fun f => (.ok (key f), tree f)) d =
      fs.foldlM (fun d f => r.read f (tree f) d) d := by
  induction fs generalizing seen d with
  | nil => rfl
  | cons f fs ih =>
      rw [List.nodup_cons] at hnodup
      have hseen' : ∀ g ∈ fs, g ∉ f :: seen := by
        intro g hg hmem
        rcases List.mem_cons.mp hmem with rfl | hmem
        · exact hnodup.1 hg
        · exact hseen g (List.mem_cons_of_mem f hg) hmem
      rw [List.map_cons, readMembers, List.foldlM_cons]
      simp only [readKey, bind, Except.bind, hkey f List.mem_cons_self,
        if_neg (hseen f List.mem_cons_self)]
      cases r.read f (tree f) d with
      | error fault => rfl
      | ok d' => exact ih (fun g hg => hkey g (List.mem_cons_of_mem f hg)) hnodup.2 hseen' d'

section Selection

variable {f : (l : Leaf) → l.type.Value} {tree : Leaf → Tree}

def Leaf.readInto (tree : Leaf → Tree) (d : Document) (l : Leaf) : Except Fault Document := do
  return d.set l (← l.type.read (tree l))

theorem Leaf.foldlM_readInto {ls : List Leaf}
    (hread : ∀ l ∈ ls, l.type.read (tree l) = .ok (f l)) (d : Document) :
    ls.foldlM (readInto tree) d = .ok (Document.setAll f d ls) := by
  induction ls generalizing d with
  | nil => rfl
  | cons l ls ih =>
      have hset : readInto tree d l = .ok (d.set l (f l)) := by
        rw [readInto, hread l List.mem_cons_self]
        rfl
      rw [List.foldlM_cons, hset]
      exact ih (fun m hm => hread m (List.mem_cons_of_mem l hm)) (d.set l (f l))

def sectionMembers (tree : Leaf → Tree) (ls : Section → List Leaf) (s : Section) : Key × Tree :=
  (.ok s.key, .object ((ls s).map fun l => (.ok l.name, tree l)) none)

/-- A choice of leaves for each section, in any order. -/
structure Section.Selects (ls : Section → List Leaf) : Prop where
  home : ∀ s, ∀ l ∈ ls s, l.home = s
  nodup : ∀ s, (ls s).Nodup

variable {ls : Section → List Leaf}

theorem Section.Selects.of_sublist (h : ∀ s, (ls s).Sublist (Leaf.ofSection s)) :
    Selects ls where
  home s _ hl := Leaf.mem_ofSection.mp ((h s).subset hl)
  nodup s := (Leaf.nodup_all.filter _).sublist (h s)

theorem Section.Selects.of_perm (h : ∀ s, (ls s).Perm (Leaf.ofSection s)) : Selects ls where
  home s _ hl := Leaf.mem_ofSection.mp ((h s).subset hl)
  nodup s := (h s).nodup_iff.mpr (Leaf.nodup_all.filter _)

theorem Section.read_sectionMembers (surplus : Surplus) (hls : Selects ls) (s : Section)
    (d : Document) : (Document.record surplus).read s (sectionMembers tree ls s).2 d =
      (ls s).foldlM (Leaf.readInto tree) d := by
  have hmembers := Record.readMembers_eq_foldlM (r := s.record) Leaf.name tree
    (fun l hl => hls.home s l hl ▸ l.lookup_name) (hls.nodup s) (fun _ _ => List.not_mem_nil) d
  change s.record.readTree surplus (.object _ none) d = _
  rw [Record.readTree, hmembers]
  change _ = (ls s).foldlM (fun d l => s.record.read l (tree l) d) d
  cases (ls s).foldlM (fun d l => s.record.read l (tree l) d) d <;> rfl

theorem Section.foldlM_sectionMembers (surplus : Surplus) (hls : Selects ls) (ss : List Section)
    (d : Document) :
    ss.foldlM (fun d s => (Document.record surplus).read s (sectionMembers tree ls s).2 d) d =
      (ss.flatMap ls).foldlM (Leaf.readInto tree) d := by
  induction ss generalizing d with
  | nil => rfl
  | cons s ss ih =>
      rw [List.foldlM_cons, List.flatMap_cons, List.foldlM_append,
        read_sectionMembers surplus hls]
      exact bind_congr ih

/-- Leaves that have members are read from them one after the other, section by section. -/
theorem Document.ofTree_eq_foldlM (surplus : Surplus) {ss : List Section}
    (hls : Section.Selects ls) (hnodup : ss.Nodup) :
    ofTree surplus (.object (ss.map (sectionMembers tree ls)) none) =
      (ss.flatMap ls).foldlM (Leaf.readInto tree) default := by
  have hmembers := Record.readMembers_eq_foldlM (r := record surplus) Section.key
    (fun s => (sectionMembers tree ls s).2) (fun s _ => s.lookup_key surplus) hnodup
    (fun _ _ => List.not_mem_nil) default
  rw [Section.foldlM_sectionMembers surplus hls] at hmembers
  change (record surplus).readMembers [] (ss.map (sectionMembers tree ls)) default = _ at hmembers
  rw [ofTree, Record.readTree, hmembers]
  cases (ss.flatMap ls).foldlM (Leaf.readInto tree) default <;> rfl

/-- Leaves whose members fit are read from them, in any order, and the others have their
defaults. -/
theorem Document.ofTree_eq_setAll (surplus : Surplus) (ss : List Section)
    (hls : Section.Selects ls) (hnodup : ss.Nodup)
    (hread : ∀ s, ∀ l ∈ ls s, l.type.read (tree l) = .ok (f l)) :
    ofTree surplus (.object (ss.map (sectionMembers tree ls)) none) =
      .ok (setAll f default (ss.flatMap ls)) := by
  rw [ofTree_eq_foldlM surplus hls hnodup]
  refine Leaf.foldlM_readInto (fun l hl => ?_) default
  obtain ⟨s, _, hl⟩ := List.mem_flatMap.mp hl
  exact hread s l hl

end Selection

namespace Document

theorem treesOfMembers_map {α : Type} (key : α → String) (value : α → Json) (xs : List α) :
    treesOfMembers (xs.map fun x => (key x, value x)) =
      xs.map fun x => (.ok (key x), (value x).toTree) := by
  induction xs with
  | nil => rfl
  | cons x xs ih => rw [List.map_cons, treesOfMembers, ih, List.map_cons]

theorem ofTree_leaves (surplus : Surplus) (d : Document) {ss : List Section}
    {ls : Section → List Leaf} (hss : ss.Perm Section.all)
    (hls : ∀ s, (ls s).Perm (Leaf.ofSection s)) :
    ofTree surplus (.object
      (ss.map (sectionMembers (fun l => (l.type.toJson (d.get l)).toTree) ls)) none) = .ok d := by
  rw [ofTree_eq_setAll surplus ss (.of_perm hls) (hss.nodup_iff.mpr (by decide))
    (fun s l _ => LeafType.read_toJson (d.get l))]
  refine congrArg Except.ok (ext_get fun l => ?_)
  have hmem : l ∈ ss.flatMap ls :=
    List.mem_flatMap.mpr ⟨l.home, hss.mem_iff.mpr l.home.mem_all,
      (hls l.home).mem_iff.mpr (Leaf.mem_ofSection.mpr rfl)⟩
  rw [get_setAll, if_pos hmem]

theorem toTree_sections (value : Leaf → Json) (ss : List Section) (ls : Section → List Leaf) :
    (Json.obj (ss.map fun s => (s.key,
      .obj ((ls s).map fun l => (l.name, value l))))).toTree =
    .object (ss.map (sectionMembers (fun l => (value l).toTree) ls)) none := by
  rw [toTree, treesOfMembers_map]
  refine congrArg (Tree.object · none) (List.map_congr_left fun s _ => ?_)
  rw [toTree, treesOfMembers_map]
  rfl

/-- A document is read from what it is written as. -/
theorem ofTree_outline (surplus : Surplus) (d : Document) :
    ofTree surplus d.outline.toTree = .ok d := by
  have htree := toTree_sections (fun l => l.type.toJson (d.get l)) Section.all Leaf.ofSection
  rw [show d.outline.toTree = _ from htree]
  exact d.ofTree_leaves surplus (.refl _) fun _ => .refl _

end Document

end SettingsStore
