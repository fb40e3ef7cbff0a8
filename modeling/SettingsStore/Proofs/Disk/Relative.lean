import SettingsStore.Document.Codec
import SettingsStore.Proofs.Disk.Parent

/-!
# Relative paths

A relative path that is joined to the working directory leads where it leads by itself: the walk
goes down to the working directory first, and then on. So a file that can be read at an absolute
path can be read at the relative one. A path that leads to a file has a name, and the format that
this name stands for does not depend on the directory.
-/

namespace SettingsStore

namespace Path

variable {path : String}

theorem join_of_isAbsolute (base : String) (h : isAbsolute path = true) : join base path = path :=
  if_pos (Bool.or_eq_true_iff.mpr (Or.inl h))

theorem isAbsolute_join {base : String} (h : isAbsolute base = true) (path : String) :
    isAbsolute (join base path) = true := by
  obtain ⟨rest, hrest⟩ := isAbsolute_iff.mp h
  have hbase (text : String) : isAbsolute (base ++ text) = true :=
    isAbsolute_iff.mpr ⟨rest ++ text, by
      rw [String.toList_append, String.toList_append, hrest, List.cons_append]⟩
  unfold join
  split
  · next hor =>
      rcases Bool.or_eq_true_iff.mp hor with hpath | hempty
      · exact hpath
      · rw [String.isEmpty_iff] at hempty
        rw [hempty] at hrest
        cases hrest
  · split
    · exact hbase path
    · rw [String.append_assoc]
      exact hbase ("/" ++ path)

theorem pieces_append_slash (base path : String) :
    pieces (base ++ "/" ++ path) = pieces base ++ pieces path := by
  have htext : (base ++ "/" ++ path).toList = base.toList ++ '/' :: path.toList := by
    rw [String.toList_append, String.toList_append, List.append_assoc]
    rfl
  rw [pieces, Text.splitAt, htext,
    Text.splitWhere_append_cons (p := (· == '/')) (beq_self_eq_true '/'), List.map_append]
  rfl

theorem exists_pieces_join (base : String) (h : isAbsolute path = false) :
    ∃ before, pieces (join base path) = before ++ pieces path ∧
      before.filter (fun n => n ≠ "" ∧ n ≠ ".") = names base := by
  unfold join
  rw [h, Bool.false_or]
  split
  · next hempty =>
      rw [String.isEmpty_iff] at hempty
      exact ⟨[], rfl, by rw [hempty]; decide⟩
  · split
    · next hslash =>
        -- The last piece of the base is empty, and the path stands in its place.
        rw [String.endsWith_eq_endsWith_toSlice, String.Slice.endsWith_string_iff,
          String.copy_toSlice] at hslash
        obtain ⟨rest, hrest⟩ := hslash
        have hbase : base = String.ofList rest ++ "/" ++ "" := by
          apply String.ext
          rw [String.append_empty, String.toList_append, String.toList_ofList, ← hrest]
        refine ⟨pieces (String.ofList rest), ?_, ?_⟩
        · rw [hbase, String.append_empty, pieces_append_slash]
        · rw [hbase, names, pieces_append_slash, List.filter_append]
          exact (List.append_nil _).symm
    · exact ⟨pieces base, pieces_append_slash base path, rfl⟩

theorem names_join (base : String) (h : isAbsolute path = false) :
    names (join base path) = names base ++ names path := by
  obtain ⟨before, hpieces, hbefore⟩ := exists_pieces_join base h
  rw [names, hpieces, List.filter_append, hbefore]
  rfl

theorem names_parent (path : String) : names (parent path) = (names path).dropLast := by
  have hkept : (names path).dropLast.filter (fun n => n ≠ "" ∧ n ≠ ".") = (names path).dropLast :=
    List.filter_eq_self.mpr fun n hn =>
      (List.mem_filter.mp ((List.dropLast_sublist _).subset hn)).2
  rcases pieces_parent path with hpieces | ⟨hnil, hpieces⟩
  · rw [names, hpieces, filter_cons_of_skipped (Or.inl rfl), hkept]
  · rw [names, hpieces, hnil]
    decide

theorem isAbsolute_of_names_eq {name : String} (h : names name = [name]) :
    isAbsolute name = false := by
  rw [← Bool.not_eq_true]
  intro habsolute
  obtain ⟨rest, hrest⟩ := isAbsolute_iff.mp habsolute
  have hmem : name ∈ pieces name := by
    have hname : name ∈ names name := by simp [h]
    exact (List.mem_filter.mp hname).1
  exact slash_notMem_of_mem_pieces hmem (by simp [hrest])

theorem sublist_join (base path : String) : path.toList.Sublist (join base path).toList := by
  unfold join
  split
  · exact List.Sublist.refl _
  · split <;> simp only [String.toList_append] <;> exact List.sublist_append_right _ _

theorem fileName?_join (base : String) (h : names path ≠ []) :
    fileName? (join base path) = fileName? path := by
  cases habsolute : isAbsolute path with
  | true => rw [join, habsolute, Bool.true_or, if_pos rfl]
  | false =>
      rw [fileName?, fileName?, names_join base habsolute, List.getLast?_append_of_ne_nil _ h]

end Path

theorem Codec.ofPath_join {path : String} (base : String) (h : Path.names path ≠ []) :
    ofPath (Path.join base path) = ofPath path := by
  rw [ofPath, ofPath, Path.fileName?_join base h]

namespace Disk

variable {root : Node} {here loc : Location} {xs ys : List String}

theorem walk_append : walk root here (xs ++ ys) = .ok loc ↔
    ∃ there, walk root here xs = .ok there ∧ walk root there ys = .ok loc := by
  induction xs generalizing here with
  | nil => exact ⟨fun h => ⟨here, rfl, h⟩, fun ⟨_, hthere, h⟩ => Except.ok.inj hthere ▸ h⟩
  | cons x xs ih =>
      rw [List.cons_append, walk_cons_eq_ok_iff, ih]
      constructor
      · rintro ⟨hhere, hname, there, hxs, hys⟩
        exact ⟨there, walk_cons_eq_ok_iff.mpr ⟨hhere, hname, hxs⟩, hys⟩
      · rintro ⟨there, hxs, hys⟩
        obtain ⟨hhere, hname, hxs⟩ := walk_cons_eq_ok_iff.mp hxs
        exact ⟨hhere, hname, there, hxs, hys⟩

theorem eq_of_walk (h : walk root here xs = .ok loc) (hup : ".." ∉ xs) :
    loc = here ++ xs.filter (fun n => n ≠ "" ∧ n ≠ ".") := by
  induction xs generalizing here with
  | nil =>
      cases h
      exact (List.append_nil loc).symm
  | cons x xs ih =>
      obtain ⟨_, _, hrest⟩ := walk_cons_eq_ok_iff.mp h
      obtain ⟨hx, hxs⟩ := List.ne_and_not_mem_of_not_mem_cons hup
      rw [ih hrest hxs, next]
      by_cases hsame : x = "" ∨ x = "."
      · rw [if_pos hsame, Path.filter_cons_of_skipped hsame]
      · rw [if_neg hsame, if_neg (Ne.symm hx), Path.filter_cons_of_not_skipped hsame,
          List.append_assoc]
        rfl

theorem hasDirectory_of_names_eq_nil {path : String}
    (h : walk root here (Path.pieces path) = .ok loc) (hnames : Path.names path = []) :
    root.HasDirectory loc := by
  have hstay : ∀ x ∈ Path.pieces path, x = "" ∨ x = "." := by
    intro x hx
    have hskip := List.filter_eq_nil_iff.mp hnames x hx
    simpa [or_iff_not_imp_left] using hskip
  obtain ⟨x, xs, hpieces⟩ := List.exists_cons_of_ne_nil
    (show Path.pieces path ≠ [] from fun hnil =>
      Text.splitWhere_ne_nil _ _ (List.map_eq_nil_iff.mp hnil))
  have hup : ".." ∉ Path.pieces path := fun hmem => by simpa using hstay ".." hmem
  have hloc := eq_of_walk h hup
  rw [← Path.names, hnames, List.append_nil] at hloc
  rw [hpieces] at h
  rw [hloc]
  exact (walk_cons_eq_ok_iff.mp h).1

variable {d : Disk} {path : String}

/-- A walk along a joined path goes on from the working directory, unless the path is absolute. -/
theorem walk_of_locate_join (hhome : Path.isAbsolute d.home = true) (hup : ".." ∉ Path.names d.home)
    (h : d.locate (Path.join d.home path) = .ok loc) :
    walk d.root (if Path.isAbsolute path then [] else d.locationOfHome) (Path.pieces path) =
      .ok loc := by
  obtain ⟨_, _, hwalk⟩ := (locate_eq_ok_iff (Path.isAbsolute_join hhome path)).mp h
  cases habsolute : Path.isAbsolute path with
  | true =>
      rw [Path.join, habsolute, Bool.true_or, if_pos rfl] at hwalk
      exact hwalk
  | false =>
      obtain ⟨before, hpieces, hbefore⟩ := Path.exists_pieces_join d.home habsolute
      rw [hpieces, walk_append] at hwalk
      obtain ⟨there, hthere, hrest⟩ := hwalk
      have hnever : ".." ∉ before := fun hmem =>
        hup (hbefore ▸ List.mem_filter.mpr ⟨hmem, by decide⟩)
      have hhere := eq_of_walk hthere hnever
      rw [hbefore, List.nil_append] at hhere
      rw [hhere] at hrest
      exact hrest

theorem locate_of_locate_join (hhome : Path.isAbsolute d.home = true)
    (hup : ".." ∉ Path.names d.home) (hnames : Path.names path ≠ [])
    (h : d.locate (Path.join d.home path) = .ok loc) : d.locate path = .ok loc := by
  obtain ⟨hnul, hlength, _⟩ := (locate_eq_ok_iff (Path.isAbsolute_join hhome path)).mp h
  have hsub := Path.sublist_join d.home path
  have hfine : ¬(path.contains '\x00' = true ∨ maxPath ≤ path.utf8ByteSize) := by
    rw [String.contains_char_eq, decide_eq_true_eq, not_or, Nat.not_le]
    exact ⟨fun hmem => hnul (hsub.subset hmem),
      (Text.utf8ByteSize_le_of_sublist hsub).trans_lt hlength⟩
  have hfull : ¬path.isEmpty = true := by
    intro hempty
    rw [String.isEmpty_iff] at hempty
    exact hnames (by rw [hempty]; decide)
  rw [locate, if_neg hfine, if_neg hfull]
  exact walk_of_locate_join hhome hup h

/-- What can be read leads to something other than a directory. -/
theorem exists_locate_of_read {bytes : Bytes} (h : d.read path = .ok bytes) :
    ∃ loc, d.locate path = .ok loc ∧ ¬d.root.HasDirectory loc := by
  unfold read find at h
  cases hloc : d.locate path with
  | error fault =>
      rw [hloc] at h
      cases h
  | ok loc =>
      refine ⟨loc, rfl, fun hdir => ?_⟩
      obtain ⟨n, hn, hn'⟩ := (Option.any_eq_true _ _).mp hdir
      cases n with
      | file | database => cases hn'
      | directory =>
          simp only [hloc, hn, bind, Except.bind, pure, Except.pure] at h
          cases h

/-- A file that can be read at the joined path can be read at the path, which has a name. -/
theorem read_of_read_join {bytes : Bytes} (hhome : Path.isAbsolute d.home = true)
    (hup : ".." ∉ Path.names d.home) (h : d.read (Path.join d.home path) = .ok bytes) :
    Path.names path ≠ [] ∧ d.read path = .ok bytes := by
  obtain ⟨loc, hlocate, hnot⟩ := exists_locate_of_read h
  have hnames : Path.names path ≠ [] := fun hnil =>
    hnot (hasDirectory_of_names_eq_nil (walk_of_locate_join hhome hup hlocate) hnil)
  have hsame := (locate_of_locate_join hhome hup hnames hlocate).trans hlocate.symm
  refine ⟨hnames, ?_⟩
  rw [← h, read, read, find, find, hsame]

/-! ## One file -/

/-- A disk with nothing but a file in the working directory. -/
def withSettings (content : Bytes) : Disk :=
  ⟨.directory [("work", .directory [("settings.json", .file content)])], "/work", []⟩

theorem locate_withSettings (content : Bytes) :
    (withSettings content).locate "/work/settings.json" = .ok ["work", "settings.json"] :=
  locate_of_pieces (by decide +kernel) (by decide +kernel) (by decide +kernel)
    (show _ = ["", "work", "settings.json"] by decide +kernel) rfl

theorem read_withSettings (content : Bytes) :
    (withSettings content).read "/work/settings.json" = .ok content := by
  rw [read, find, locate_withSettings]
  rfl

end Disk

end SettingsStore
