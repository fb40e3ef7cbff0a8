import SettingsStore.Disk.Basic

/-!
# Replacing files

A file that was put in the place of another one is found at the same path. The walk to it goes
through directories only, and they are all still there, since no directory is ever replaced.
-/

namespace SettingsStore

namespace Node

def HasDirectory (n : Node) (loc : Location) : Prop := (n.find? loc).any isDirectory = true

instance (n : Node) (loc : Location) : Decidable (n.HasDirectory loc) :=
  inferInstanceAs (Decidable (_ = true))

theorem find?_directory (entries : List (String × Node)) (name : String) (rest : Location) :
    (directory entries).find? (name :: rest) =
      (Entries.find? name entries).bind (find? · rest) := rfl

theorem exists_of_hasDirectory_cons {n : Node} {name : String} {rest : Location}
    (h : n.HasDirectory (name :: rest)) :
    ∃ entries c, n = directory entries ∧ Entries.find? name entries = some c ∧
      c.HasDirectory rest := by
  cases n with
  | directory entries =>
      unfold HasDirectory at h
      rw [find?_directory] at h
      cases hc : Entries.find? name entries with
      | none =>
          rw [hc] at h
          cases h
      | some c =>
          rw [hc] at h
          exact ⟨entries, c, rfl, hc, h⟩
  | file | database => cases h

theorem hasDirectory_cons {entries : List (String × Node)} {name : String} {rest : Location}
    {c : Node} (hc : Entries.find? name entries = some c) (h : c.HasDirectory rest) :
    (directory entries).HasDirectory (name :: rest) := by
  unfold HasDirectory
  rw [find?_directory, hc]
  exact h

theorem HasDirectory.root {n : Node} {loc : Location} (h : n.HasDirectory loc) :
    n.HasDirectory [] := by
  cases loc with
  | nil => exact h
  | cons name rest =>
      obtain ⟨entries, _, rfl, _⟩ := exists_of_hasDirectory_cons h
      rfl

theorem HasDirectory.dropLast {n : Node} {loc : Location} (h : n.HasDirectory loc) :
    n.HasDirectory loc.dropLast := by
  induction loc generalizing n with
  | nil => exact h
  | cons name rest ih =>
      obtain ⟨entries, c, rfl, hc, hrest⟩ := exists_of_hasDirectory_cons h
      cases rest with
      | nil => rfl
      | cons next rest => exact hasDirectory_cons hc (ih hrest)

theorem put_cons_of_find? {entries : List (String × Node)} {name : String} {c : Node}
    (hc : Entries.find? name entries = some c) (rest : Location) (x : Node) :
    (directory entries).put (name :: rest) x =
      directory (Entries.put name (c.put rest x) entries) := by
  cases rest with
  | nil => simp [put]
  | cons next rest => simp [put, hc]

theorem find?_put_self {n x : Node} {loc : Location} (h : n.HasDirectory loc) (name : String) :
    (n.put (loc ++ [name]) x).find? (loc ++ [name]) = some x := by
  induction loc generalizing n with
  | nil =>
      cases n with
      | directory entries =>
          rw [List.nil_append, put, find?_directory, Entries.find?_put_self]
          rfl
      | file | database => cases h
  | cons first rest ih =>
      obtain ⟨entries, c, rfl, hc, hrest⟩ := exists_of_hasDirectory_cons h
      rw [List.cons_append, put_cons_of_find? hc, find?_directory, Entries.find?_put_self]
      exact ih hrest

theorem find?_put_of_find? {n x y : Node} {loc : Location} (h : n.find? loc = some y) :
    (n.put loc x).find? loc = some x := by
  induction loc generalizing n with
  | nil => rw [put, find?]
  | cons name rest ih =>
      cases n with
      | directory entries =>
          rw [find?_directory] at h
          obtain ⟨c, hc, hrest⟩ := Option.bind_eq_some_iff.mp h
          rw [put_cons_of_find? hc, find?_directory, Entries.find?_put_self]
          exact ih hrest
      | file | database => cases h

theorem put_cases (entries : List (String × Node)) (name : String) (rest : Location) (x : Node) :
    (directory entries).put (name :: rest) x = directory entries ∨
    ∃ c, (directory entries).put (name :: rest) x = directory (Entries.put name c entries) ∧
      (rest = [] ∨ ∃ old, Entries.find? name entries = some old ∧ c = old.put rest x) := by
  cases rest with
  | nil => exact Or.inr ⟨x, rfl, Or.inl rfl⟩
  | cons next rest =>
      cases hold : Entries.find? name entries with
      | none => exact Or.inl (by simp [put, hold])
      | some old =>
          exact Or.inr ⟨old.put (next :: rest) x, by simp [put, hold], Or.inr ⟨old, rfl, rfl⟩⟩

/-- Directories stay where they are when something is put where there is none. -/
theorem HasDirectory.put {n : Node} {here loc : Location} (h : n.HasDirectory here)
    (hloc : ¬n.HasDirectory loc) (x : Node) : (n.put loc x).HasDirectory here := by
  induction loc generalizing n here with
  | nil => exact absurd h.root hloc
  | cons name rest ih =>
      cases here with
      | nil =>
          cases n with
          | directory entries =>
              rcases put_cases entries name rest x with hput | ⟨c, hput, _⟩
              · rw [hput]
                rfl
              · rw [hput]
                rfl
          | file | database => cases h
      | cons first here =>
          obtain ⟨entries, c₀, rfl, hc₀, hrest⟩ := exists_of_hasDirectory_cons h
          rcases put_cases entries name rest x with hput | ⟨c, hput, hc⟩
          · rw [hput]
            exact h
          · rw [hput]
            by_cases hfirst : first = name
            · subst hfirst
              refine hasDirectory_cons (Entries.find?_put_self _ _ _) ?_
              have hnot : ¬c₀.HasDirectory rest := fun hd => hloc (hasDirectory_cons hc₀ hd)
              rcases hc with rfl | ⟨old, hold, rfl⟩
              · exact absurd hrest.root hnot
              · rw [hc₀] at hold
                cases hold
                exact ih hrest hnot
            · exact hasDirectory_cons ((Entries.find?_put_of_ne hfirst c entries).trans hc₀) hrest

end Node

namespace Disk

variable {root root' : Node} {here loc : Location} {name : String} {rest names : List String}

/-- Where a walk that is at a directory goes next. -/
def next (here : Location) (name : String) : Location :=
  if name = "" ∨ name = "." then here
  else if name = ".." then here.dropLast
  else here ++ [name]

theorem walk_cons_eq_ok_iff : walk root here (name :: rest) = .ok loc ↔
    root.HasDirectory here ∧ (maxName < name.utf8ByteSize → name = "" ∨ name = "." ∨ name = "..") ∧
      walk root (next here name) rest = .ok loc := by
  unfold Node.HasDirectory next
  rw [walk]
  cases root.find? here with
  | none => simp
  | some n =>
      cases n with
      | file | database => simp [Node.isDirectory]
      | directory entries =>
          simp only [Option.any_some, Node.isDirectory, true_and]
          by_cases hsame : name = "" ∨ name = "."
          · rw [if_pos hsame, if_pos hsame]
            exact ⟨fun h => ⟨fun _ => hsame.imp_right Or.inl, h⟩, fun h => h.2⟩
          · rw [if_neg hsame, if_neg hsame]
            by_cases hup : name = ".."
            · rw [if_pos hup, if_pos hup]
              exact ⟨fun h => ⟨fun _ => Or.inr (Or.inr hup), h⟩, fun h => h.2⟩
            · rw [if_neg hup, if_neg hup]
              have hnot : ¬(name = "" ∨ name = "." ∨ name = "..") := by
                rw [← or_assoc]
                exact not_or.mpr ⟨hsame, hup⟩
              by_cases hlong : maxName < name.utf8ByteSize
              · rw [if_pos hlong]
                simp [hlong, hnot]
              · rw [if_neg hlong]
                simp [hlong]

/-- A walk goes the same way where the directories are still there. -/
theorem walk_of_forall (hdir : ∀ here, root.HasDirectory here → root'.HasDirectory here)
    (h : walk root here names = .ok loc) : walk root' here names = .ok loc := by
  induction names generalizing here with
  | nil => exact h
  | cons name rest ih =>
      obtain ⟨hhere, hname, hrest⟩ := walk_cons_eq_ok_iff.mp h
      exact walk_cons_eq_ok_iff.mpr ⟨hdir here hhere, hname, ih hrest⟩

theorem walk_end (hhere : root.HasDirectory here) (h : walk root here names = .ok loc) :
    root.HasDirectory loc ∨ ∃ above name, loc = above ++ [name] ∧ root.HasDirectory above := by
  induction names generalizing here with
  | nil =>
      cases h
      exact Or.inl hhere
  | cons name rest ih =>
      obtain ⟨_, _, hrest⟩ := walk_cons_eq_ok_iff.mp h
      unfold next at hrest
      split at hrest
      · exact ih hhere hrest
      · split at hrest
        · exact ih hhere.dropLast hrest
        · cases rest with
          | nil =>
              cases hrest
              exact Or.inr ⟨here, name, rfl, hhere⟩
          | cons second rest =>
              have hbelow := (walk_cons_eq_ok_iff.mp hrest).1
              exact ih hbelow hrest

theorem exists_walk_of_locate {d : Disk} {path : String} (h : d.locate path = .ok loc) :
    ∃ here name rest, walk d.root here (name :: rest) = .ok loc ∧
      ∀ d' : Disk, d'.home = d.home → walk d'.root here (name :: rest) = .ok loc →
        d'.locate path = .ok loc := by
  unfold locate at h ⊢
  obtain ⟨name, rest, hpieces⟩ := List.exists_cons_of_ne_nil
    (show Path.pieces path ≠ [] from fun hnil =>
      Text.splitWhere_ne_nil _ _ (List.map_eq_nil_iff.mp hnil))
  split at h
  · cases h
  · next hfine =>
      split at h
      · cases h
      · next hfull =>
          refine ⟨_, name, rest, hpieces ▸ h, fun d' hhome hwalk => ?_⟩
          rw [if_neg hfine, if_neg hfull, hpieces]
          unfold locationOfHome at hwalk ⊢
          rwa [hhome]

section

variable {d d' : Disk} {path : String} {content : Bytes}

/-- A path leads to the same place after something was put there. -/
theorem locate_put (h : d.locate path = .ok loc) (hnot : ¬d.root.HasDirectory loc) (x : Node) :
    ({ d with root := d.root.put loc x } : Disk).locate path = .ok loc := by
  obtain ⟨here, name, rest, hwalk, hagain⟩ := exists_walk_of_locate h
  exact hagain { d with root := d.root.put loc x } rfl
    (walk_of_forall (fun _ hhere => hhere.put hnot x) hwalk)

/-- What was put where a path leads is found there. -/
theorem find?_put_of_locate (h : d.locate path = .ok loc) (hnot : ¬d.root.HasDirectory loc)
    (x : Node) : (d.root.put loc x).find? loc = some x := by
  obtain ⟨here, name, rest, hwalk, _⟩ := exists_walk_of_locate h
  rcases walk_end (walk_cons_eq_ok_iff.mp hwalk).1 hwalk with hdir | ⟨above, last, rfl, habove⟩
  · exact absurd hdir hnot
  · exact Node.find?_put_self habove last

theorem replace_eq_ok (h : d.replace path content = .ok d') :
    ∃ loc, d.locate path = .ok loc ∧ ¬d.root.HasDirectory loc ∧
      d' = { d with root := d.root.put loc (.file content) } := by
  unfold replace writable at h
  cases hloc : d.locate path with
  | error fault =>
      rw [hloc] at h
      cases h
  | ok loc =>
      rw [hloc] at h
      simp only [bind, Except.bind, pure, Except.pure] at h
      split at h
      · cases h
      · next hok =>
          split at hok
          · cases hok
          · next hnot =>
              cases hok
              cases h
              exact ⟨loc, rfl, hnot, rfl⟩

theorem replace_of_locate (h : d.locate path = .ok loc) (hnot : ¬d.root.HasDirectory loc)
    (content : Bytes) :
    d.replace path content = .ok { d with root := d.root.put loc (.file content) } := by
  unfold Node.HasDirectory at hnot
  simp only [replace, writable, h, hnot, bind, Except.bind, pure, Except.pure, Bool.false_eq_true,
    if_false]

/-- A file that was replaced has its new content under every path that leads to it. -/
theorem read_of_replace {other : String} (h : d.replace path content = .ok d')
    (hsame : d.locate other = d.locate path) : d'.read other = .ok content := by
  obtain ⟨loc, hloc, hnot, rfl⟩ := replace_eq_ok h
  have hother := locate_put (hsame.trans hloc) hnot (.file content)
  simp only [read, find, hother, find?_put_of_locate hloc hnot, bind, Except.bind, pure,
    Except.pure]

theorem read_replace (h : d.replace path content = .ok d') : d'.read path = .ok content :=
  read_of_replace h rfl

end

end Disk

end SettingsStore
