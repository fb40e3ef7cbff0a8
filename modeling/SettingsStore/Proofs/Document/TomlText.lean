import SettingsStore.Proofs.Document.Reading
import SettingsStore.Proofs.Toml.Reading
import SettingsStore.Proofs.Toml.Table

/-!
# Documents that were written as TOML

The text of a document is read into a table for each section with the leaves that are set. They have
the trees that they have in JSON, and a leaf that is unset has nothing as its default.
-/

namespace SettingsStore

open Json

namespace LeafType

/-- The item that a value is written as. That of an unset one is never written. -/
def item : (t : LeafType) → t.Value → Toml.Item
  | .str, (s : String) => .scalar (.str s)
  | .optStr, (s : Option String) => .scalar (.str (s.getD ""))
  | .bool, (b : Bool) => .scalar (.bool b)
  | .word32, (n : UInt32) => .scalar (.int n.toNat)
  | .int64, (n : Int64) => .scalar (.int n.toInt)
  | .strList, (ss : List String) => .list (Toml.stringItems ss)

theorem toNat_isSigned64 (n : UInt32) : Word.isSigned64 (n.toNat : Int) = true := by
  have hlt := n.toNat_lt
  have hcount : Word.count 63 = 2 ^ 63 := rfl
  simp only [Word.isSigned64, Bool.and_eq_true, decide_eq_true_eq, hcount]
  omega

theorem toInt_isSigned64 (n : Int64) : Word.isSigned64 n.toInt = true := by
  have hle := n.le_toInt
  have hlt := n.toInt_lt
  have hcount : Word.count 63 = 2 ^ 63 := rfl
  simp only [Word.isSigned64, Bool.and_eq_true, decide_eq_true_eq, hcount]
  omega

theorem value?_of_toToml? {t : LeafType} {v : t.Value} {text : String}
    (h : t.toToml? v = some text) (s : Toml.Rest) :
    Toml.value? Toml.maxDepth (text.toList ++ '\n' :: s) = some (t.item v, '\n' :: s) := by
  have hends := Toml.endsString_of_not_quote (c := '\n') (by decide) s
  cases t with
  | str =>
      cases h
      exact Toml.value?_of_scalar (Toml.scalar?_stringText v hends) _
  | optStr =>
      cases v with
      | none => cases h
      | some v =>
          cases h
          exact Toml.value?_of_scalar (Toml.scalar?_stringText v hends) _
  | bool =>
      cases h
      exact Toml.value?_of_scalar (Toml.scalar?_bool v ('\n' :: s)) _
  | word32 =>
      cases h
      exact Toml.value?_of_scalar (Toml.scalar?_intText (toNat_isSigned64 v) s) _
  | int64 =>
      cases h
      exact Toml.value?_of_scalar (Toml.scalar?_intText (toInt_isSigned64 v) s) _
  | strList =>
      cases h
      exact Toml.value?_stringsText v 78 ('\n' :: s)

theorem treesOfItems_stringItems (ss : List String) :
    Toml.treesOfItems (Toml.stringItems ss) = treesOfItems (ss.map .str) := by
  induction ss with
  | nil => rfl
  | cons s ss ih =>
      rw [Toml.stringItems, List.map_cons, Toml.treesOfItems, List.map_cons, treesOfItems, ← ih]
      rfl

theorem read_item {t : LeafType} {v : t.Value} (h : (t.toToml? v).isSome = true) :
    t.read (t.item v).toTree = .ok v := by
  have htree : (t.item v).toTree = (t.toJson v).toTree := by
    cases t with
    | str | bool | word32 | int64 => rfl
    | optStr =>
        cases v with
        | none => cases h
        | some v => rfl
    | strList => exact congrArg (Tree.list · none) (treesOfItems_stringItems v)
  rw [htree, read_toJson]

end LeafType

namespace LeafType

theorem eq_optStr_of_toToml? {t : LeafType} {v : t.Value} (h : t.toToml? v = none) :
    t = .optStr := by
  cases t with
  | optStr => rfl
  | str | bool | word32 | int64 | strList => cases h

theorem eq_of_toToml?_eq_none {t : LeafType} {v w : t.Value} (hv : t.toToml? v = none)
    (hw : t.toToml? w = none) : v = w := by
  cases t with
  | optStr =>
      cases v with
      | some v => cases hv
      | none =>
          cases w with
          | some w => cases hw
          | none => rfl
  | str | bool | word32 | int64 | strList => cases hv

end LeafType

theorem Section.isKey_key (s : Section) : Toml.IsKey s.key := by
  have h : Section.all.all (fun s => Toml.isKey s.key) = true := by decide +kernel
  exact Toml.isKey_iff.mp (List.all_eq_true.mp h s s.mem_all)

theorem Leaf.isKey_name (l : Leaf) : Toml.IsKey l.name := by
  have h : Leaf.all.all (fun l => Toml.isKey l.name) = true := by decide +kernel
  exact Toml.isKey_iff.mp (List.all_eq_true.mp h l l.mem_all)

namespace Document

theorem toToml?_get_default {l : Leaf} (h : l.type = .optStr) :
    l.type.toToml? ((default : Document).get l) = none := by
  have hall : ∀ l ∈ Leaf.all, l.type = .optStr →
      (l.type.toToml? ((default : Document).get l)).isNone = true := by
    decide +kernel
  exact Option.isNone_iff_eq_none.mp (hall l l.mem_all h)

def setLeaves (d : Document) (ls : List Leaf) : List Leaf :=
  ls.filter fun l => (l.type.toToml? (d.get l)).isSome

def tomlMembers (d : Document) (ls : List Leaf) : Toml.Members :=
  (d.setLeaves ls).map fun l => (l.name, l.type.item (d.get l))

def tomlTables (d : Document) : Entries Toml.Members :=
  Section.all.map fun s => (s.key, d.tomlMembers (Leaf.ofSection s))

theorem isText_lines (d : Document) (ls : List Leaf) :
    Toml.IsText (String.join (ls.filterMap fun l => (l.type.toToml? (d.get l)).map fun value =>
      l.name ++ " = " ++ value ++ "\n")).toList (Toml.pairStatements (d.tomlMembers ls)) := by
  induction ls with
  | nil => exact Toml.IsText.nil
  | cons l ls ih =>
      cases hvalue : l.type.toToml? (d.get l) with
      | none =>
          have hskip : ¬(l.type.toToml? (d.get l)).isSome = true := by simp [hvalue]
          have hmembers : d.tomlMembers (l :: ls) = d.tomlMembers ls := by
            rw [tomlMembers, setLeaves, List.filter_cons, if_neg hskip]
            rfl
          rw [List.filterMap_cons_none (by rw [hvalue]; rfl), hmembers]
          exact ih
      | some text =>
          have hset : (l.type.toToml? (d.get l)).isSome = true := by simp [hvalue]
          have hline : (l.name ++ " = " ++ text ++ "\n").toList = Toml.pairText l.name text := by
            simp only [String.toList_append]
            rfl
          have hpair := Toml.IsText.pair l.isKey_name (LeafType.value?_of_toToml? hvalue)
          have hmembers : d.tomlMembers (l :: ls) =
              (l.name, l.type.item (d.get l)) :: d.tomlMembers ls := by
            rw [tomlMembers, setLeaves, List.filter_cons, if_pos hset]
            rfl
          rw [List.filterMap_cons_some (by rw [hvalue]; rfl), String.toList_join,
            List.flatMap_cons, hline, hmembers, ← String.toList_join]
          exact hpair.append ih

theorem isText_section (d : Document) (s : Section) :
    Toml.IsText ("[" ++ s.key ++ "]\n" ++ String.join (d.tomlLines s)).toList
      (.header ⟨[], s.key⟩ :: Toml.pairStatements (d.tomlMembers (Leaf.ofSection s))) := by
  have hheader : ("[" ++ s.key ++ "]\n").toList = Toml.headerText s.key := by
    rw [String.toList_append, String.toList_append]
    rfl
  rw [String.toList_append, hheader]
  exact (Toml.IsText.header s.isKey_key).append (d.isText_lines (Leaf.ofSection s))

theorem isText_toTomlText (d : Document) :
    Toml.IsText d.toTomlText.toList (Toml.tableStatements d.tomlTables) := by
  rw [toTomlText, Toml.tableStatements, tomlTables, List.flatMap_map]
  exact Toml.IsText.join d.isText_section Section.all

theorem exists_toTomlText (d : Document) : ∃ r, d.toTomlText.toList = '[' :: r := by
  rw [toTomlText, Section.all, List.map_cons, List.map_cons, Text.join]
  · simp only [String.toList_append, List.append_assoc]
    exact ⟨_, rfl⟩
  · exact List.cons_ne_nil _ _

theorem parse?_toTomlText (d : Document) :
    Toml.parse? d.toTomlText = some (Toml.headerTables d.tomlTables) := by
  have hmark : d.toTomlText.toList.head? ≠ some Toml.byteOrderMark := by
    obtain ⟨r, htext⟩ := d.exists_toTomlText
    rw [htext]
    exact fun heq => absurd (Option.some.inj heq) (by decide)
  rw [d.isText_toTomlText.parse?_eq hmark]
  refine Toml.Members.ofStatements_tableStatements ?_ fun t ht => ?_
  · have hkeys : d.tomlTables.map Prod.fst = Section.all.map Section.key := by
      rw [tomlTables, List.map_map]
      rfl
    rw [hkeys]
    exact Section.nodup_keys
  · obtain ⟨s, _, rfl⟩ := List.mem_map.mp ht
    have hnames : (d.tomlMembers (Leaf.ofSection s)).map Prod.fst =
        (d.setLeaves (Leaf.ofSection s)).map Leaf.name := by
      rw [tomlMembers, List.map_map]
      rfl
    rw [hnames]
    exact s.nodup_names.sublist (List.filter_sublist.map Leaf.name)

theorem toTree_tomlTables (d : Document) :
    (Toml.Item.table .header (Toml.headerTables d.tomlTables)).toTree =
      .object (Section.all.map (sectionMembers (fun l => (l.type.item (d.get l)).toTree)
        fun s => d.setLeaves (Leaf.ofSection s))) none := by
  have htrees : ∀ (α : Type) (key : α → String) (item : α → Toml.Item) (xs : List α),
      Toml.treesOfMembers (xs.map fun x => (key x, item x)) =
        xs.map fun x => (.ok (key x), (item x).toTree) := by
    intro α key item xs
    induction xs with
    | nil => rfl
    | cons x xs ih => rw [List.map_cons, Toml.treesOfMembers, ih, List.map_cons]
  rw [Toml.Item.toTree, Toml.headerTables, htrees, tomlTables, List.map_map]
  refine congrArg (Tree.object · none) (List.map_congr_left fun s _ => ?_)
  have hmembers := htrees Leaf Leaf.name (fun l => l.type.item (d.get l))
    (d.setLeaves (Leaf.ofSection s))
  change (_, Toml.Item.toTree (.table .header (d.tomlMembers _))) = _
  rw [Toml.Item.toTree]
  exact congrArg (fun ms => (_, Tree.object ms none)) hmembers

theorem ofTomlText_toTomlText (d : Document) : ofTomlText d.toTomlText = .ok d := by
  have hread := ofTree_eq_setAll (f := d.get) .ignored Section.all
    (.of_sublist fun s => List.filter_sublist (p := fun l => (l.type.toToml? (d.get l)).isSome)
      (l := Leaf.ofSection s)) (by decide)
    (fun s l hl => LeafType.read_item (List.mem_filter.mp hl).2)
  have hdocument : setAll d.get default (Section.all.flatMap fun s =>
      d.setLeaves (Leaf.ofSection s)) = d := by
    refine ext_get fun l => ?_
    rw [get_setAll]
    split
    · rfl
    · next hmem =>
        have hunset : l.type.toToml? (d.get l) = none := by
          rw [← Option.not_isSome_iff_eq_none]
          intro hset
          refine hmem (List.mem_flatMap.mpr ⟨l.home, l.home.mem_all, ?_⟩)
          exact List.mem_filter.mpr ⟨Leaf.mem_ofSection.mpr rfl, hset⟩
        exact LeafType.eq_of_toToml?_eq_none
          (toToml?_get_default (LeafType.eq_optStr_of_toToml? hunset)) hunset
  rw [ofTomlText, parse?_toTomlText]
  change (ofTree .ignored (Toml.Item.toTree _)).mapError _ = _
  rw [toTree_tomlTables]
  exact (congrArg _ (hread.trans (congrArg _ hdocument))).trans rfl

end Document

end SettingsStore
