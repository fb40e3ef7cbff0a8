import SettingsStore.Proofs.Disk.Relative

/-!
# Changes of one file

Putting a file somewhere, or removing one, changes what is seen at this place only: no directory
comes or goes with it, so every path leads where it led before. But a path can also get stuck at
the place of a file that it would have to walk through. So what a path leads to stays the same
unless the path ends or gets stuck at the place.
-/

namespace SettingsStore

namespace Node

/-- A node without what is in it. -/
def flat : Node → Node
  | .directory _ => .directory []
  | n => n

/-- What is seen at a location by someone who does not look into directories. -/
def seen (n : Node) (loc : Location) : Option Node := (n.find? loc).map flat

theorem hasDirectory_iff_seen {n : Node} {loc : Location} :
    n.HasDirectory loc ↔ n.seen loc = some (.directory []) := by
  unfold HasDirectory seen
  cases n.find? loc with
  | none => simp
  | some x => cases x <;> simp [isDirectory, flat]

theorem seen_directory (entries : List (String × Node)) (name : String) (rest : Location) :
    (directory entries).seen (name :: rest) =
      (Entries.find? name entries).bind (seen · rest) := by
  rw [seen, find?_directory, Option.map_bind]
  rfl

theorem seen_of_not_isDirectory {n : Node} (h : n.isDirectory = false) {loc : Location}
    (hloc : loc ≠ []) : n.seen loc = none := by
  obtain ⟨name, rest, rfl⟩ := List.exists_cons_of_ne_nil hloc
  cases n with
  | directory entries => cases h
  | file | database => rfl

/-- Two trees differ at one location only, and neither has a directory there. -/
structure DifferAt (loc : Location) (n n' : Node) : Prop where
  before : ¬n.HasDirectory loc
  after : ¬n'.HasDirectory loc
  seen {other : Location} (h : other ≠ loc) : n'.seen other = n.seen other

theorem DifferAt.refl {n : Node} {loc : Location} (h : ¬n.HasDirectory loc) : n.DifferAt loc n :=
  ⟨h, h, fun _ => rfl⟩

theorem DifferAt.symm {n n' : Node} {loc : Location} (h : n.DifferAt loc n') :
    n'.DifferAt loc n :=
  ⟨h.after, h.before, fun hother => (h.seen hother).symm⟩

theorem DifferAt.hasDirectory_iff {n n' : Node} {loc : Location} (h : n.DifferAt loc n')
    (here : Location) : n'.HasDirectory here ↔ n.HasDirectory here := by
  by_cases hhere : here = loc
  · subst hhere
    exact iff_of_false h.after h.before
  · rw [hasDirectory_iff_seen, hasDirectory_iff_seen, h.seen hhere]

theorem seen_directory_eq {entries entries' : List (String × Node)} {name : String}
    {rest other : Location}
    (hothers : ∀ m, m ≠ name → Entries.find? m entries' = Entries.find? m entries)
    (hbelow : ∀ below, below ≠ rest → (Entries.find? name entries').bind (seen · below) =
      (Entries.find? name entries).bind (seen · below)) (h : other ≠ name :: rest) :
    (directory entries').seen other = (directory entries).seen other := by
  cases other with
  | nil => rfl
  | cons first below =>
      rw [seen_directory, seen_directory]
      by_cases hfirst : first = name
      · subst hfirst
        exact hbelow below fun heq => h (heq ▸ rfl)
      · rw [hothers first hfirst]

theorem differAt_entry {entries entries' : List (String × Node)} {name : String}
    (hothers : ∀ m, m ≠ name → Entries.find? m entries' = Entries.find? m entries)
    (hold : ¬(directory entries).HasDirectory [name])
    (hnew : ¬(directory entries').HasDirectory [name]) :
    (directory entries).DifferAt [name] (directory entries') := by
  refine ⟨hold, hnew, seen_directory_eq hothers fun below hbelow => ?_⟩
  have hnone : ∀ es, ¬(directory es).HasDirectory [name] →
      (Entries.find? name es).bind (seen · below) = none := by
    intro es hes
    cases hx : Entries.find? name es with
    | none => rfl
    | some x =>
        refine seen_of_not_isDirectory ?_ hbelow
        rw [← Bool.not_eq_true]
        exact fun hdir => hes (hasDirectory_cons hx hdir)
  rw [hnone _ hold, hnone _ hnew]

theorem differAt_below {entries entries' : List (String × Node)} {name : String} {rest : Location}
    {x x' : Node} (hothers : ∀ m, m ≠ name → Entries.find? m entries' = Entries.find? m entries)
    (hx : Entries.find? name entries = some x) (hx' : Entries.find? name entries' = some x')
    (h : x.DifferAt rest x') :
    (directory entries).DifferAt (name :: rest) (directory entries') := by
  have hlift : ∀ es y, Entries.find? name es = some y → ¬y.HasDirectory rest →
      ¬(directory es).HasDirectory (name :: rest) := by
    intro es y hy hnot hdir
    unfold HasDirectory at hdir
    rw [find?_directory, hy] at hdir
    exact hnot hdir
  refine ⟨hlift _ _ hx h.before, hlift _ _ hx' h.after, seen_directory_eq hothers ?_⟩
  intro below hbelow
  rw [hx, hx']
  exact h.seen hbelow

theorem differAt_put {n x : Node} {loc : Location} (h : ¬n.HasDirectory loc)
    (hx : x.isDirectory = false) : n.DifferAt loc (n.put loc x) := by
  -- The induction is on the location. Only its last name gets something else in its directory.
  induction loc generalizing n with
  | nil =>
      have hnot : n.isDirectory = false := by
        rw [← Bool.not_eq_true]
        exact h
      refine ⟨h, ?_, fun hother => ?_⟩
      · rw [put]
        exact fun hdir => Bool.false_ne_true (hx.symm.trans hdir)
      · rw [put, seen_of_not_isDirectory hx hother, seen_of_not_isDirectory hnot hother]
  | cons name rest ih =>
      cases n with
      | file | database => cases rest <;> exact .refl h
      | directory entries =>
          have hothers (y : Node) (m : String) (hm : m ≠ name) :
              Entries.find? m (Entries.put name y entries) = Entries.find? m entries :=
            Entries.find?_put_of_ne hm y entries
          cases rest with
          | nil =>
              refine differAt_entry (hothers x) h fun hdir => ?_
              unfold HasDirectory at hdir
              rw [find?_directory, Entries.find?_put_self] at hdir
              exact Bool.false_ne_true (hx.symm.trans hdir)
          | cons next rest =>
              cases hc : Entries.find? name entries with
              | none =>
                  have hput : (directory entries).put (name :: next :: rest) x =
                      directory entries := by
                    simp [put, hc]
                  rw [hput]
                  exact .refl h
              | some c =>
                  rw [put_cons_of_find? hc]
                  exact differAt_below (hothers _) hc (Entries.find?_put_self _ _ _)
                    (ih fun hdir => h (hasDirectory_cons hc hdir))

theorem differAt_erase {n : Node} {loc : Location} (h : ¬n.HasDirectory loc) :
    n.DifferAt loc (n.erase loc) := by
  induction loc generalizing n with
  | nil =>
      rw [erase]
      exact .refl h
  | cons name rest ih =>
      cases n with
      | file | database => cases rest <;> exact .refl h
      | directory entries =>
          cases rest with
          | nil =>
              refine differAt_entry (fun m hm => Entries.find?_erase_of_ne hm entries) h ?_
              unfold HasDirectory
              rw [find?_directory, Entries.find?_erase_self]
              exact Bool.false_ne_true
          | cons next rest =>
              cases hc : Entries.find? name entries with
              | none =>
                  have herase : (directory entries).erase (name :: next :: rest) =
                      directory entries := by
                    simp [erase, hc]
                  rw [herase]
                  exact .refl h
              | some c =>
                  have herase : (directory entries).erase (name :: next :: rest) =
                      directory (Entries.put name (c.erase (next :: rest)) entries) := by
                    simp [erase, hc]
                  rw [herase]
                  exact differAt_below (fun m hm => Entries.find?_put_of_ne hm _ entries) hc
                    (Entries.find?_put_self _ _ _) (ih fun hdir => h (hasDirectory_cons hc hdir))

end Node

namespace Disk

/-! ## Walking to a file -/

section

variable {root root' : Node} {here loc : Location} {name : String} {rest names : List String}

theorem walk_cons_of_hasDirectory (h : root.HasDirectory here) :
    walk root here (name :: rest) =
      if maxName < name.utf8ByteSize then .error .unusable
      else walk root (next here name) rest := by
  unfold Node.HasDirectory at h
  have hshort : name = "" ∨ name = "." ∨ name = ".." → ¬maxName < name.utf8ByteSize := by
    rintro (rfl | rfl | rfl) <;> decide
  rw [walk]
  unfold next
  cases hn : root.find? here with
  | none =>
      rw [hn] at h
      cases h
  | some n =>
      rw [hn] at h
      cases n with
      | file | database => cases h
      | directory entries =>
          dsimp only
          by_cases hsame : name = "" ∨ name = "."
          · rw [if_pos hsame, if_neg (hshort (hsame.imp_right Or.inl)), if_pos hsame]
          · rw [if_neg hsame]
            by_cases hup : name = ".."
            · rw [if_pos hup, if_neg (hshort (Or.inr (Or.inr hup))), if_neg hsame, if_pos hup]
            · rw [if_neg hup, if_neg hsame, if_neg hup]

theorem walk_cons_of_not_hasDirectory (h : ¬root.HasDirectory here) :
    walk root here (name :: rest) =
      .error (if (root.seen here).isSome then .unusable else .missing) := by
  unfold Node.HasDirectory at h
  rw [walk, Node.seen]
  cases hn : root.find? here with
  | none => rfl
  | some n =>
      rw [hn] at h
      cases n with
      | file | database => rfl
      | directory => exact absurd rfl h

/-- Where a walk leaves the directories: at its end, or at what it cannot walk through. -/
def exit? (root : Node) (here : Location) : List String → Option Location
  | [] => if (root.find? here).any Node.isDirectory then none else some here
  | name :: rest =>
    if (root.find? here).any Node.isDirectory then
      if maxName < name.utf8ByteSize then none else exit? root (next here name) rest
    else some here

theorem exit?_of_not_hasDirectory (h : ¬root.HasDirectory here) :
    exit? root here names = some here := by
  cases names <;> exact if_neg h

theorem exit?_cons_of_hasDirectory (h : root.HasDirectory here) :
    exit? root here (name :: rest) =
      if maxName < name.utf8ByteSize then none else exit? root (next here name) rest :=
  if_pos h

/-- Walks leave the directories at the same places as long as these stay. -/
theorem exit?_congr (hdir : ∀ here, root'.HasDirectory here ↔ root.HasDirectory here) :
    exit? root' here names = exit? root here names := by
  induction names generalizing here with
  | nil =>
      by_cases hhere : root.HasDirectory here
      · exact (if_pos ((hdir here).mpr hhere)).trans (if_pos hhere).symm
      · exact (if_neg (mt (hdir here).mp hhere)).trans (if_neg hhere).symm
  | cons name rest ih =>
      by_cases hhere : root.HasDirectory here
      · rw [exit?_cons_of_hasDirectory hhere,
          exit?_cons_of_hasDirectory ((hdir here).mpr hhere), ih]
      · rw [exit?_of_not_hasDirectory hhere, exit?_of_not_hasDirectory (mt (hdir here).mp hhere)]

/-- What is seen at the end of a walk. -/
def sight (root : Node) (here : Location) (names : List String) : Except PathFault Node := do
  match root.seen (← walk root here names) with
  | some n => return n
  | none => throw .missing

/-- What is seen at the end of a walk changes only with the place where it leaves the
directories. -/
theorem sight_of_differAt (h : root.DifferAt loc root') (hexit : exit? root here names ≠ some loc) :
    sight root' here names = sight root here names := by
  induction names generalizing here with
  | nil =>
      have hne : here ≠ loc := by
        rintro rfl
        exact hexit (if_neg h.before)
      change (match root'.seen here with | some n => _ | none => _) = _
      rw [h.seen hne]
      rfl
  | cons name rest ih =>
      unfold sight at ih ⊢
      -- Both walks go on in the same directories, or are stopped here by what both trees have here.
      by_cases hhere : root.HasDirectory here
      · rw [exit?_cons_of_hasDirectory hhere] at hexit
        rw [walk_cons_of_hasDirectory hhere,
          walk_cons_of_hasDirectory ((h.hasDirectory_iff here).mpr hhere)]
        split
        · rfl
        · next hshort =>
            rw [if_neg hshort] at hexit
            exact ih hexit
      · have hne : here ≠ loc := by
          rintro rfl
          exact hexit (exit?_of_not_hasDirectory hhere)
        rw [walk_cons_of_not_hasDirectory hhere,
          walk_cons_of_not_hasDirectory (mt (h.hasDirectory_iff here).mp hhere), h.seen hne]
        rfl

end

/-! ## Changes of one file -/

/-- Where a path leaves the directories: the place of the file that it leads to, or gets stuck
at. -/
def site? (path : String) (d : Disk) : Option Location :=
  if path.contains '\x00' ∨ maxPath ≤ path.utf8ByteSize then none
  else if path.isEmpty then none
  else exit? d.root (if Path.isAbsolute path then [] else d.locationOfHome) (Path.pieces path)

/-- Two disks differ at one location only, and neither has a directory there. -/
structure DifferAt (loc : Location) (d d' : Disk) : Prop where
  home : d'.home = d.home
  root : d.root.DifferAt loc d'.root

theorem DifferAt.symm {loc : Location} {d d' : Disk} (h : d.DifferAt loc d') : d'.DifferAt loc d :=
  ⟨h.home.symm, h.root.symm⟩

variable {d d' : Disk} {path : String} {loc : Location} {content : Bytes}

theorem DifferAt.site?_eq (h : d.DifferAt loc d') (path : String) :
    d'.site? path = d.site? path := by
  unfold site? locationOfHome
  rw [h.home, exit?_congr h.root.hasDirectory_iff]

theorem DifferAt.locate_eq_ok (h : d.DifferAt loc d') {there : Location}
    (hlocate : d.locate path = .ok there) : d'.locate path = .ok there := by
  obtain ⟨here, name, rest, hwalk, hagain⟩ := exists_walk_of_locate hlocate
  exact hagain d' h.home
    (walk_of_forall (fun here hhere => (h.root.hasDirectory_iff here).mpr hhere) hwalk)

/-- What is seen where a path leads, by someone who does not look into directories. -/
def peek (path : String) (d : Disk) : Except PathFault Node := (d.find path).map Node.flat

theorem peek_eq (path : String) (d : Disk) : d.peek path =
    if path.contains '\x00' ∨ maxPath ≤ path.utf8ByteSize then .error .unusable
    else if path.isEmpty then .error .missing
    else sight d.root (if Path.isAbsolute path then [] else d.locationOfHome)
      (Path.pieces path) := by
  unfold peek find locate sight
  split
  · rfl
  · split
    · rfl
    · generalize walk d.root _ _ = r
      cases r with
      | error fault => rfl
      | ok loc =>
          change Except.map Node.flat (match d.root.find? loc with | some n => _ | none => _) =
            match d.root.seen loc with | some n => _ | none => _
          unfold Node.seen
          cases d.root.find? loc <;> rfl

/-- What is seen where a path leads changes only with the place where the path leaves the
directories. -/
theorem DifferAt.peek_eq (h : d.DifferAt loc d') (hsite : d.site? path ≠ some loc) :
    d'.peek path = d.peek path := by
  rw [Disk.peek_eq, Disk.peek_eq]
  unfold site? at hsite
  unfold locationOfHome at hsite ⊢
  rw [h.home]
  split
  · rfl
  · next hfine =>
      split
      · rfl
      · next hfull =>
          rw [if_neg hfine, if_neg hfull] at hsite
          exact sight_of_differAt h.root hsite

/-- A file is read from what is seen of it. -/
theorem read_congr (h : d'.peek path = d.peek path) : d'.read path = d.read path := by
  unfold peek at h
  unfold read
  generalize d'.find path = now at h ⊢
  cases hbefore : d.find path with
  | error fault =>
      rw [hbefore] at h
      cases now with
      | error fault' =>
          cases h
          rfl
      | ok n' => cases h
  | ok n =>
      rw [hbefore] at h
      cases now with
      | error fault' => cases h
      | ok n' =>
          have hflat : n'.flat = n.flat := Except.ok.inj h
          cases n <;> cases n' <;> cases hflat <;> rfl

theorem differAt_of_replace (h : d.replace path content = .ok d') :
    ∃ loc, d.locate path = .ok loc ∧ d.DifferAt loc d' := by
  obtain ⟨loc, hloc, hnot, rfl⟩ := replace_eq_ok h
  exact ⟨loc, hloc, rfl, Node.differAt_put hnot rfl⟩

theorem differAt_of_remove (h : d.remove path = .ok d') :
    ∃ loc, d.locate path = .ok loc ∧ d.DifferAt loc d' := by
  unfold remove find at h
  cases hloc : d.locate path with
  | error fault =>
      rw [hloc] at h
      cases h
  | ok loc =>
      rw [hloc] at h
      simp only [bind, Except.bind, pure, Except.pure] at h
      cases hn : d.root.find? loc with
      | none =>
          rw [hn] at h
          cases h
      | some n =>
          rw [hn] at h
          have hnot : n.isDirectory = false → ¬d.root.HasDirectory loc := by
            intro hfile hdir
            unfold Node.HasDirectory at hdir
            rw [hn] at hdir
            exact Bool.false_ne_true (hfile.symm.trans hdir)
          cases n with
          | directory => cases h
          | file | database =>
              cases h
              exact ⟨loc, rfl, rfl, Node.differAt_erase (hnot rfl)⟩

/-! ## Neighbours -/

section

variable {root : Node} {here there : Location} {xs ys : List String}

theorem exit?_append (h : walk root here xs = .ok there) :
    exit? root here (xs ++ ys) = exit? root there ys := by
  induction xs generalizing here with
  | nil =>
      cases h
      rfl
  | cons x xs ih =>
      have hhere := (walk_cons_eq_ok_iff.mp h).1
      rw [walk_cons_of_hasDirectory hhere] at h
      rw [List.cons_append, exit?_cons_of_hasDirectory hhere]
      split at h
      · cases h
      · next hshort =>
          rw [if_neg hshort]
          exact ih h

/-- Names that lead nowhere make no difference to where a walk leaves the directories. -/
theorem exit?_filter :
    exit? root here (xs.filter fun n => n ≠ "" ∧ n ≠ ".") = exit? root here xs := by
  induction xs generalizing here with
  | nil => rfl
  | cons x xs ih =>
      by_cases hhere : root.HasDirectory here
      · by_cases hsame : x = "" ∨ x = "."
        · have hshort : ¬maxName < x.utf8ByteSize := by
            rcases hsame with rfl | rfl <;> decide
          rw [Path.filter_cons_of_skipped hsame, ih, exit?_cons_of_hasDirectory hhere,
            if_neg hshort, next, if_pos hsame]
        · rw [Path.filter_cons_of_not_skipped hsame, exit?_cons_of_hasDirectory hhere,
            exit?_cons_of_hasDirectory hhere, ih]
      · rw [exit?_of_not_hasDirectory hhere, exit?_of_not_hasDirectory hhere]

/-- Of two paths that differ in their last names, neither gets where the other one leads. -/
theorem site?_ne_of_names {path' a b : String} (hpath : Path.isAbsolute path = true)
    (hpath' : Path.isAbsolute path' = true) (hnames : Path.names path = xs ++ [a])
    (hnames' : Path.names path' = xs ++ [b]) (hup : a ≠ "..") (hne : b ≠ a)
    (h : d.locate path = .ok loc) : d.site? path' ≠ some loc := by
  obtain ⟨_, _, hwalk⟩ := (locate_eq_ok_iff hpath).mp h
  have hfilter := walk_filter hwalk
  rw [← Path.names, hnames, walk_append] at hfilter
  obtain ⟨there, hthere, hlast⟩ := hfilter
  obtain ⟨hdir, _, hloc⟩ := walk_cons_eq_ok_iff.mp hlast
  have hkept (c : String) (p : String) (hp : Path.names p = xs ++ [c]) : ¬(c = "" ∨ c = ".") :=
    Path.not_skipped_of_mem (by rw [hp]; exact List.mem_concat_self)
  rw [next, if_neg (hkept a path hnames), if_neg hup] at hloc
  have hexit : exit? d.root [] (Path.pieces path') = exit? d.root there [b] := by
    rw [← exit?_filter, ← Path.names, hnames', exit?_append hthere]
  have hend : exit? d.root (next there b) [] ≠ some loc := by
    intro hsome
    rw [next, if_neg (hkept b path' hnames')] at hsome
    obtain ⟨hnot, hsame⟩ := Option.ite_none_left_eq_some.mp hsome
    split at hnot
    · exact hnot hdir.dropLast
    · next hup' =>
        rw [if_neg hup', ← Except.ok.inj hloc] at hsame
        exact hne (List.singleton_inj.mp (List.append_cancel_left (Option.some.inj hsame)))
  unfold site?
  rw [if_pos hpath', hexit, exit?_cons_of_hasDirectory hdir]
  split
  · exact (Option.some_ne_none loc).symm
  · split
    · exact (Option.some_ne_none loc).symm
    · split
      · exact (Option.some_ne_none loc).symm
      · exact hend

end

end Disk

end SettingsStore
