import SettingsStore.Toml.Table

/-!
# Tables that were written

A text of tables is a header for each table and then its pairs. If no two tables and no two members
of a table have the same name, the statements of the text make these tables again.
-/

namespace SettingsStore

namespace Entries

variable {α : Type} {name : String} {x y : α} {es : Entries α}

theorem find?_eq_none_iff : es.find? name = none ↔ name ∉ es.map Prod.fst := by
  induction es with
  | nil => simp
  | cons e es ih =>
      obtain ⟨n, z⟩ := e
      rw [find?_cons, List.map_cons, List.mem_cons, not_or]
      by_cases h : n = name
      · rw [if_pos h]
        exact iff_of_false (fun heq => by cases heq) fun hne => hne.1 h.symm
      · rw [if_neg h, ih]
        exact ⟨fun hnot => ⟨Ne.symm h, hnot⟩, And.right⟩

theorem put_of_find?_eq_none (h : es.find? name = none) : es.put name x = es ++ [(name, x)] := by
  induction es with
  | nil => rfl
  | cons e es ih =>
      obtain ⟨n, z⟩ := e
      rw [find?_cons] at h
      by_cases hn : n = name
      · rw [if_pos hn] at h
        cases h
      · rw [if_neg hn] at h
        rw [put, if_neg hn, ih h]
        rfl

theorem put_append_singleton (h : es.find? name = none) :
    put name y (es ++ [(name, x)]) = es ++ [(name, y)] := by
  induction es with
  | nil => exact if_pos rfl
  | cons e es ih =>
      obtain ⟨n, z⟩ := e
      rw [find?_cons] at h
      by_cases hn : n = name
      · rw [if_pos hn] at h
        cases h
      · rw [if_neg hn] at h
        rw [List.cons_append, put, if_neg hn, ih h]
        rfl

theorem find?_append_singleton (h : es.find? name = none) :
    find? name (es ++ [(name, x)]) = some x := by
  rw [← put_of_find?_eq_none h, find?_put_self]

end Entries

namespace Toml

variable {root ms : Members} {key name : String} {x : Item}

theorem State.step_header (h : root.find? key = none) (here : List String) :
    State.step ⟨root, here⟩ (.header ⟨[], key⟩) =
      some ⟨root ++ [(key, .table .header [])], [key]⟩ := by
  have hopen : Members.openTable key root = some (root ++ [(key, .table .header [])]) := by
    rw [Members.openTable, h, Entries.put_of_find?_eq_none h]
  rw [State.step, Members.alter, hopen]
  rfl

theorem State.step_pair (hkey : root.find? key = none) (hname : ms.find? name = none) :
    State.step ⟨root ++ [(key, .table .header ms)], [key]⟩ (.pair ⟨[], name⟩ x) =
      some ⟨root ++ [(key, .table .header (ms ++ [(name, x)]))], [key]⟩ := by
  have hdefine : Members.define ⟨[], name⟩ x .header ms = some (ms ++ [(name, x)]) := by
    rw [Members.define, Members.alter]
    simp only [hname, Entries.put_of_find?_eq_none hname]
    rfl
  rw [State.step, Members.alter, Entries.find?_append_singleton hkey]
  simp only [Members.mayPass, Members.alter, hdefine, Option.map_some, if_true]
  change some (State.mk (Entries.put key _ (root ++ [(key, .table .header ms)])) [key]) = _
  rw [Entries.put_append_singleton hkey]

def pairStatements (ms : Members) : List Statement := ms.map fun m => .pair ⟨[], m.1⟩ m.2

def tableStatements (tables : Entries Members) : List Statement :=
  tables.flatMap fun t => .header ⟨[], t.1⟩ :: pairStatements t.2

theorem State.foldlM_pairs (hkey : root.find? key = none) {more : Members}
    (hnodup : ((ms ++ more).map Prod.fst).Nodup) :
    (pairStatements more).foldlM State.step ⟨root ++ [(key, .table .header ms)], [key]⟩ =
      some ⟨root ++ [(key, .table .header (ms ++ more))], [key]⟩ := by
  induction more generalizing ms with
  | nil =>
      rw [List.append_nil]
      rfl
  | cons m more ih =>
      obtain ⟨name, x⟩ := m
      have hname : ms.find? name = none := by
        rw [Entries.find?_eq_none_iff]
        rw [List.map_append, List.map_cons, List.nodup_append] at hnodup
        exact fun hmem => hnodup.2.2 _ hmem _ List.mem_cons_self rfl
      have hrest : ms ++ (name, x) :: more = ms ++ [(name, x)] ++ more := by
        rw [List.append_assoc]
        rfl
      rw [hrest] at hnodup ⊢
      rw [pairStatements, List.map_cons, List.foldlM_cons, State.step_pair hkey hname]
      exact ih hnodup

def headerTables (tables : Entries Members) : Members :=
  tables.map fun t => (t.1, .table .header t.2)

theorem State.exists_foldlM_tables {tables : Entries Members}
    (hnodup : ((root.map Prod.fst) ++ tables.map Prod.fst).Nodup)
    (hmembers : ∀ t ∈ tables, (t.2.map Prod.fst).Nodup) (here : List String) :
    ∃ here', (tableStatements tables).foldlM State.step ⟨root, here⟩ =
      some ⟨root ++ headerTables tables, here'⟩ := by
  induction tables generalizing root here with
  | nil =>
      refine ⟨here, ?_⟩
      rw [headerTables, List.map_nil, List.append_nil]
      rfl
  | cons t tables ih =>
      obtain ⟨key, ms⟩ := t
      have hkey : root.find? key = none := by
        rw [Entries.find?_eq_none_iff]
        rw [List.map_cons, List.nodup_append] at hnodup
        exact fun hmem => hnodup.2.2 _ hmem _ List.mem_cons_self rfl
      have hnames : (([] ++ ms : Members).map Prod.fst).Nodup :=
        hmembers (key, ms) List.mem_cons_self
      have hpairs := State.foldlM_pairs hkey hnames
      have hrest : (root ++ [(key, Item.table .header ms)]).map Prod.fst ++
          tables.map Prod.fst = root.map Prod.fst ++ ((key, ms) :: tables).map Prod.fst := by
        rw [List.map_append, List.append_assoc]
        rfl
      obtain ⟨here', hfold⟩ := ih (hrest ▸ hnodup)
        (fun t ht => hmembers t (List.mem_cons_of_mem (key, ms) ht)) [key]
      refine ⟨here', ?_⟩
      rw [List.append_assoc] at hfold
      rw [tableStatements, List.flatMap_cons, List.foldlM_append, List.foldlM_cons,
        State.step_header hkey]
      change (List.foldlM State.step _ (pairStatements ms)).bind _ = _
      rw [hpairs]
      exact hfold

/-- Tables are made again by the statements that they are written as. -/
theorem Members.ofStatements_tableStatements {tables : Entries Members}
    (hnodup : (tables.map Prod.fst).Nodup)
    (hmembers : ∀ t ∈ tables, (t.2.map Prod.fst).Nodup) :
    Members.ofStatements (tableStatements tables) = some (headerTables tables) := by
  have hnames : (([] : Members).map Prod.fst ++ tables.map Prod.fst).Nodup := hnodup
  obtain ⟨here, hfold⟩ := State.exists_foldlM_tables hnames hmembers []
  rw [Members.ofStatements, State.start, hfold]
  rfl

end Toml

end SettingsStore
