import SettingsStore.Proofs.Document.Selection
import SettingsStore.Proofs.Document.Text
import SettingsStore.Proofs.Json.Keys

/-!
# Parts of documents

A text or a value need not have all settings. What is there may come in any order, sections may be
missing, and members with names that no section or setting has may stand among the others: they are
passed over, also where what they hold could not be read. Reading succeeds, takes the settings that
are there, and leaves the defaults of all others.
-/

namespace SettingsStore

open Json

theorem skip_toTree (j : Json) : j.toTree.skip = .ok () := by
  cases j <;> rfl

/-! ## Members that can be read -/

namespace Record

variable {φ α : Type} [DecidableEq φ] {fields : List (String × φ)} {r : Record φ} {seen : List φ}
  {ms : List (Key × Tree)} {d d' : Document}

/-- The field that a member is about. -/
def fieldOf? (fields : List (String × φ)) (m : Key × Tree) : Option φ :=
  m.1.toOption.bind fun key => fields.lookup key

/-- Members of a record: names can be read, no field is there twice, and what stands under other
names can be passed over. -/
structure IsOrderly (fields : List (String × φ)) (ms : List (Key × Tree)) : Prop where
  names : ∀ m ∈ ms, ∃ key, m.1 = .ok key ∧ (fields.lookup key = none → m.2.skip = .ok ())
  once : (ms.filterMap (fieldOf? fields)).Nodup

theorem exists_readMembers (h : IsOrderly r.fields ms)
    (hseen : ∀ f ∈ ms.filterMap (fieldOf? r.fields), f ∉ seen)
    (hread : ∀ key t f, (.ok key, t) ∈ ms → r.fields.lookup key = some f →
      ∀ d, ∃ d', r.read f t d = .ok d') (d : Document) :
    ∃ d', r.readMembers seen ms d = .ok d' := by
  induction ms generalizing seen d with
  | nil => exact ⟨d, rfl⟩
  | cons m ms ih =>
      obtain ⟨name, t⟩ := m
      obtain ⟨key, rfl, hskip⟩ := h.names _ List.mem_cons_self
      have htail (hnodup : (ms.filterMap (fieldOf? r.fields)).Nodup) : IsOrderly r.fields ms :=
        ⟨fun m hm => h.names m (List.mem_cons_of_mem _ hm), hnodup⟩
      have hread' := fun key' t' f hm => hread key' t' f (List.mem_cons_of_mem _ hm)
      have honce := h.once
      cases hf : r.fields.lookup key with
      | none =>
          have hfield : fieldOf? r.fields (.ok key, t) = none := hf
          rw [List.filterMap_cons_none hfield] at honce hseen
          obtain ⟨d', hd'⟩ := ih (htail honce) hseen hread' d
          refine ⟨d', ?_⟩
          simp only [readMembers, readKey, bind, Except.bind, hf, hskip hf, hd']
      | some f =>
          have hfield : fieldOf? r.fields (.ok key, t) = some f := hf
          rw [List.filterMap_cons_some hfield] at honce hseen
          rw [List.nodup_cons] at honce
          obtain ⟨d₁, hd₁⟩ := hread key t f List.mem_cons_self hf d
          have hseen' : ∀ g ∈ ms.filterMap (fieldOf? r.fields), g ∉ f :: seen := by
            intro g hg hmem
            rcases List.mem_cons.mp hmem with rfl | hmem
            · exact honce.1 hg
            · exact hseen g (List.mem_cons_of_mem f hg) hmem
          obtain ⟨d', hd'⟩ := ih (htail honce.2) hseen' hread' d₁
          refine ⟨d', ?_⟩
          simp only [readMembers, readKey, bind, Except.bind, hf,
            if_neg (hseen f List.mem_cons_self), hd₁, hd']

theorem readMembers_keeps (obs : Document → α)
    (hkeeps : ∀ key t f, (.ok key, t) ∈ ms → r.fields.lookup key = some f →
      ∀ d d', r.read f t d = .ok d' → obs d' = obs d)
    (h : r.readMembers seen ms d = .ok d') : obs d' = obs d := by
  induction ms generalizing seen d with
  | nil =>
      cases h
      rfl
  | cons m ms ih =>
      have htail := fun key t f hm => hkeeps key t f (List.mem_cons_of_mem m hm)
      obtain ⟨name, t⟩ := m
      rcases readMembers_cons_cases h with ⟨_, _, _, hms⟩ |
        ⟨key, f, d₁, hname, hf, _, hread, hms⟩
      · exact ih htail hms
      · obtain rfl : name = .ok key := hname
        rw [ih htail hms]
        exact hkeeps key t f List.mem_cons_self hf d d₁ hread

end Record

def Document.sectionFields : List (String × Section) := Section.all.map fun s => (s.key, s)

namespace Section

theorem key_of_lookup {key : String} {s : Section}
    (h : Document.sectionFields.lookup key = some s) : key = s.key := by
  obtain ⟨_, _, hs⟩ := List.mem_map.mp (Record.mem_of_lookup h)
  cases hs
  rfl

theorem name_of_lookup {s : Section} {name : String} {l : Leaf}
    (h : s.record.fields.lookup name = some l) : l.home = s ∧ name = l.name := by
  obtain ⟨m, hm, hl⟩ := List.mem_map.mp (Record.mem_of_lookup h)
  cases hl
  exact ⟨Leaf.mem_ofSection.mp hm, rfl⟩

end Section

/-! ## Objects with some of the settings -/

namespace Document

/-- The members of an object that has the settings in `S` with the values of a document, and no
other settings. -/
structure HasPart (d : Document) (S : Leaf → Bool) (sections : List (Key × Tree)) : Prop where
  orderly : Record.IsOrderly sectionFields sections
  inside : ∀ s t, (.ok s.key, t) ∈ sections → ∃ members, t = .object members none ∧
    Record.IsOrderly s.record.fields members ∧
    ∀ l : Leaf, l.home = s → ∀ t, (.ok l.name, t) ∈ members →
      S l = true ∧ t = (l.type.toJson (d.get l)).toTree
  present : ∀ l, S l = true → ∃ members, (.ok l.home.key, .object members none) ∈ sections ∧
    (.ok l.name, (l.type.toJson (d.get l)).toTree) ∈ members

variable {c d e : Document} {S : Leaf → Bool} {surplus : Surplus} {sections : List (Key × Tree)}

theorem exists_read_section {s : Section} {members : List (Key × Tree)}
    (horderly : Record.IsOrderly s.record.fields members)
    (hvalues : ∀ l : Leaf, l.home = s → ∀ t, (.ok l.name, t) ∈ members →
      t = (l.type.toJson (c.get l)).toTree) (d : Document) :
    ∃ d', (record surplus).read s (.object members none) d = .ok d' := by
  have hread : ∀ key t l, (.ok key, t) ∈ members → s.record.fields.lookup key = some l →
      ∀ d, ∃ d', s.record.read l t d = .ok d' := by
    intro key t l hm hl d
    obtain ⟨hhome, rfl⟩ := Section.name_of_lookup hl
    refine ⟨d.set l (c.get l), ?_⟩
    rw [hvalues l hhome t hm]
    change (do return d.set l (← l.type.read _)) = _
    rw [LeafType.read_toJson]
    rfl
  obtain ⟨d', hd'⟩ := Record.exists_readMembers horderly (fun _ _ => List.not_mem_nil) hread d
  refine ⟨d', ?_⟩
  change s.record.readTree surplus (.object members none) d = _
  rw [Record.readTree, hd']
  rfl

theorem HasPart.exists_ofTree (h : c.HasPart S sections) (surplus : Surplus) :
    ∃ e, ofTree surplus (.object sections none) = .ok e := by
  have hread : ∀ key t s, (.ok key, t) ∈ sections →
      (record surplus).fields.lookup key = some s →
      ∀ d, ∃ d', (record surplus).read s t d = .ok d' := by
    intro key t s hm hs d
    obtain rfl := Section.key_of_lookup hs
    obtain ⟨members, rfl, horderly, hvalues⟩ := h.inside s t hm
    exact exists_read_section horderly (fun l hl t hm => (hvalues l hl t hm).2) d
  obtain ⟨e, he⟩ := Record.exists_readMembers (r := record surplus) h.orderly
    (fun _ _ => List.not_mem_nil) hread default
  refine ⟨e, ?_⟩
  rw [ofTree, Record.readTree, he]
  rfl

theorem HasPart.get_of_not (h : c.HasPart S sections) {l : Leaf} (hl : S l = false)
    (he : ofTree surplus (.object sections none) = .ok e) : e.get l = default.get l := by
  rw [ofTree, Record.readTree] at he
  obtain ⟨e', hread, he⟩ := bind_eq_ok_iff.mp he
  cases he
  refine Record.readMembers_keeps (·.get l) (fun key t s hm hs d d' hd => ?_) hread
  by_cases hhome : s = l.home
  · subst hhome
    obtain rfl := Section.key_of_lookup hs
    obtain ⟨members, rfl, _, hvalues⟩ := h.inside _ t hm
    change l.home.record.readTree surplus (.object members none) d = .ok d' at hd
    rw [Record.readTree] at hd
    obtain ⟨d'', hread, hd⟩ := bind_eq_ok_iff.mp hd
    cases hd
    refine Record.readMembers_keeps (·.get l) (fun name t m hmember hname d d' hd => ?_) hread
    obtain ⟨_, rfl⟩ := Section.name_of_lookup hname
    refine Section.leaves_record ?_ t d d' hd
    rintro rfl
    rw [(hvalues m rfl t hmember).1] at hl
    cases hl
  · exact leaves_record hhome t d d' hd

/-- What has part of a document is read as the document with the defaults elsewhere. -/
theorem HasPart.ofTree_eq (h : c.HasPart S sections) (surplus : Surplus) :
    ofTree surplus (.object sections none) = .ok (choose S c default) := by
  obtain ⟨e, he⟩ := h.exists_ofTree surplus
  rw [he]
  refine congrArg Except.ok (ext_get fun l => ?_)
  rw [get_choose]
  cases hl : S l with
  | true =>
      obtain ⟨members, hsection, hmember⟩ := h.present l hl
      have hread := read_of_ofTree he hsection hmember
      rw [LeafType.read_toJson] at hread
      exact (Except.ok.inj hread).symm
  | false => exact h.get_of_not hl he

/-! ## Values with some of the settings -/

theorem mem_treesOfMembers_iff {m : Key × Tree} {ms : Members} :
    m ∈ treesOfMembers ms ↔ ∃ key value, (key, value) ∈ ms ∧ m = (.ok key, value.toTree) := by
  have hmap := treesOfMembers_map Prod.fst Prod.snd ms
  rw [List.map_id'] at hmap
  rw [hmap, List.mem_map]
  simp only [Prod.exists, eq_comm]

theorem isOrderly_treesOfMembers {φ : Type} {fields : List (String × φ)} {ms : Members}
    (hname : ∀ key key' f, fields.lookup key = some f → fields.lookup key' = some f → key = key')
    (hnodup : (ms.map Prod.fst).Nodup) : Record.IsOrderly fields (treesOfMembers ms) := by
  constructor
  · intro m hm
    obtain ⟨key, value, _, rfl⟩ := mem_treesOfMembers_iff.mp hm
    exact ⟨key, rfl, fun _ => skip_toTree value⟩
  · have hmap := treesOfMembers_map Prod.fst Prod.snd ms
    rw [List.map_id'] at hmap
    have hfields : (treesOfMembers ms).filterMap (Record.fieldOf? fields) =
        (ms.map Prod.fst).filterMap fun key => fields.lookup key := by
      rw [hmap, List.filterMap_map, List.filterMap_map]
      rfl
    rw [hfields]
    exact hnodup.filterMap fun key key' f hf hf' => hname key key' f hf hf'

/-- A value has part of a document if its sections are objects, and what stands at the paths of
settings is what the document has, or nothing. -/
theorem hasPart_treesOfMembers {members : Members}
    (hkeys : (Json.obj members).AllKeys List.Nodup)
    (hsections : ∀ s : Section, ∀ v, Members.find? s.key members = some v → v.isObject = true)
    (hvalues : ∀ l : Leaf, l.field.find? (.obj members) =
      if S l then some (l.type.toJson (d.get l)) else none) :
    d.HasPart S (treesOfMembers members) := by
  have htop : (members.map Prod.fst).Nodup := hkeys.1
  have hobject {s : Section} {v : Json} (hv : Members.find? s.key members = some v) :
      ∃ inner, v = .obj inner ∧ (inner.map Prod.fst).Nodup := by
    have hinner := hkeys.of_mem (Members.mem_of_find? hv)
    cases v with
    | obj inner => exact ⟨inner, rfl, hinner.1⟩
    | null | bool | num | str | arr => cases hsections s _ hv
  have hat {l : Leaf} {inner : Members}
      (hinner : Members.find? l.home.key members = some (.obj inner)) :
      Members.find? l.name inner = if S l then some (l.type.toJson (d.get l)) else none := by
    rw [← hvalues l, Leaf.find?_eq, members_obj, hinner]
    rfl
  constructor
  · refine isOrderly_treesOfMembers (fun key key' s hs hs' => ?_) htop
    exact (Section.key_of_lookup hs).trans (Section.key_of_lookup hs').symm
  · intro s t hsection
    obtain ⟨_, v, hv, heq⟩ := mem_treesOfMembers_iff.mp hsection
    cases heq
    have hfound := Members.find?_of_mem htop hv
    obtain ⟨inner, rfl, hnodup⟩ := hobject hfound
    refine ⟨treesOfMembers inner, rfl, isOrderly_treesOfMembers (fun name name' l hl hl' => ?_)
      hnodup, fun l hl t hmember => ?_⟩
    · exact (Section.name_of_lookup hl).2.trans (Section.name_of_lookup hl').2.symm
    · subst hl
      obtain ⟨_, w, hw, heq⟩ := mem_treesOfMembers_iff.mp hmember
      cases heq
      have hvalue := hat hfound
      rw [Members.find?_of_mem hnodup hw] at hvalue
      obtain ⟨hS, hvalue⟩ := Option.some_eq_ite_none_right.mp hvalue
      exact ⟨hS, congrArg toTree (Option.some.inj hvalue)⟩
  · intro l hl
    have hvalue := hvalues l
    rw [if_pos hl, Leaf.find?_eq, members_obj, Option.bind_eq_some_iff] at hvalue
    obtain ⟨v, hv, hw⟩ := hvalue
    obtain ⟨inner, rfl, _⟩ := hobject hv
    exact ⟨treesOfMembers inner, mem_treesOfMembers (Members.mem_of_find? hv),
      mem_treesOfMembers (Members.mem_of_find? hw)⟩

end Document

namespace Codec

/-- An object that has some settings of a document and no others, in any order and with any members
of other names, is read as those settings and the defaults of all others: as a value, and as a text
of JSON whatever it is that stands under the other names. -/
theorem json_defaults_elsewhere (d : Document) (S : Leaf → Bool) :
    (∀ members : Members, (Json.obj members).AllKeys List.Nodup →
      (∀ s : Section, ∀ v, Members.find? s.key members = some v → v.isObject = true) →
      (∀ l : Leaf, l.field.find? (.obj members) =
        if S l then some (l.type.toJson (d.get l)) else none) →
      Document.ofJson (.obj members) = .ok (.choose S d .default)) ∧
    ∀ (bs : Bytes) (sections : List (Key × Tree)),
      Source.ofBytes bs = ⟨.object sections none, false⟩ → d.HasPart S sections →
      json.decode bs = .ok (.choose S d .default) := by
  refine ⟨fun members hkeys hsections hvalues => ?_, fun bs sections hbs hpart => ?_⟩
  · exact (Document.hasPart_treesOfMembers hkeys hsections hvalues).ofTree_eq .counted
  · rw [decode, hbs, Document.ofSource, hpart.ofTree_eq]
    rfl

/-- Two settings of three that differ from their defaults, among members that nobody knows. -/
theorem json_defaults_elsewhere_of_two :
    let d : Document :=
      { sql.queryTimeout := 7, log.consoleLevel := "DEBUG",
        experimental.restrictSystemAdmin := true }
    let S : Leaf → Bool := fun l => l = .queryTimeout ∨ l = .restrictSystemAdmin
    let members : Members := [
      ("later", .arr [.null]),
      ("experimental_settings", .obj [("restrict_system_admin", .bool true)]),
      ("sql_settings", .obj [("query_timeout", .num (.int 7)), ("pool", .obj [])])]
    let e : Document := { sql.queryTimeout := 7, experimental.restrictSystemAdmin := true }
    d.HasPart S (treesOfMembers members) ∧ Document.ofJson (.obj members) = .ok e ∧
      json.decode (Json.obj members).pretty.toUTF8 = .ok e := by
  intro d S members e
  have hkeys : (Json.obj members).AllKeys List.Nodup := by
    simp [members, AllKeys, AllKeysMembers, AllKeysItems]
  have hsections (s : Section) (v : Json) (hv : Members.find? s.key members = some v) :
      v.isObject = true := by
    cases s <;> cases hv <;> rfl
  have hvalues (l : Leaf) : l.field.find? (.obj members) =
      if S l then some (l.type.toJson (d.get l)) else none := by
    rw [Leaf.find?_eq]
    cases l <;> rfl
  have hpart : d.HasPart S (treesOfMembers members) :=
    Document.hasPart_treesOfMembers hkeys hsections hvalues
  have hvalue : Document.choose S d .default = e := by decide +kernel
  have htext : ReadAs (Json.obj members).pretty (Json.obj members).toTree := by
    refine readAs_obj fun m hm => ?_
    simp only [members, List.mem_cons, List.not_mem_nil, or_false] at hm
    rcases hm with rfl | rfl | rfl
    · refine readAs_arr fun x hx => ?_
      obtain rfl := List.mem_singleton.mp hx
      exact readAs_null
    · refine readAs_obj fun m hm => ?_
      obtain rfl := List.mem_singleton.mp hm
      exact readAs_bool true
    · refine readAs_obj fun m hm => ?_
      simp only [List.mem_cons, List.not_mem_nil, or_false] at hm
      rcases hm with rfl | rfl
      · exact readAs_int ⟨by decide, by decide⟩
      · exact readAs_obj fun _ hm => (List.not_mem_nil hm).elim
  obtain ⟨hread, hdecode⟩ := json_defaults_elsewhere d S
  rw [hvalue] at hread hdecode
  exact ⟨hpart, hread members hkeys hsections hvalues, hdecode _ _ htext.ofBytes hpart⟩

end Codec

end SettingsStore
