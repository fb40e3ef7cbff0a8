import SettingsStore.Proofs.Disk.Replace
import SettingsStore.Proofs.Text.ByteList
import SettingsStore.Proofs.Text.CommaList
import Mathlib.Data.List.Flatten

/-!
# The directory of a file

The directory that the text of an absolute path names is the one that a walk along the path goes
through last. So it is there whenever the path leads somewhere, and also after a file was put there.
-/

namespace SettingsStore

namespace Text

theorem flatMap_splitWhere (sep : Char) (cs : List Char) :
    (splitWhere (· == sep) cs).flatMap (sep :: ·) = sep :: cs := by
  induction cs with
  | nil => simp [splitWhere]
  | cons c cs ih =>
      obtain ⟨r, rs, hr⟩ := List.exists_cons_of_ne_nil (splitWhere_ne_nil (· == sep) cs)
      rw [hr, List.flatMap_cons, List.cons_append, List.cons.injEq] at ih
      by_cases hc : c = sep
      · simp [splitWhere, hc, hr, ih.2]
      · simp [splitWhere, hc, hr, ih.2]

theorem utf8ByteSize_le_of_sublist {s t : String} (h : s.toList.Sublist t.toList) :
    s.utf8ByteSize ≤ t.utf8ByteSize := by
  have hbytes := (h.flatMap String.utf8EncodeChar).length_le
  rw [← bytesOf_eq_flatMap, ← bytesOf_eq_flatMap] at hbytes
  exact hbytes

end Text

namespace Path

variable {path : String}

def slashed (ns : List String) : List Char := ns.flatMap fun n => '/' :: n.toList

theorem slashed_pieces (s : String) : slashed (pieces s) = '/' :: s.toList := by
  rw [slashed, pieces, Text.splitAt, List.flatMap_map, ← Text.flatMap_splitWhere '/' s.toList]
  simp only [String.toList_ofList]

theorem pieces_slashed {ns : List String} (h : ∀ n ∈ ns, '/' ∉ n.toList) :
    pieces (String.ofList (slashed ns)) = "" :: ns := by
  have hpieces : ∀ piece ∈ ns.map String.toList, ∀ c ∈ piece, (c == '/') = false := by
    intro piece hpiece c hc
    obtain ⟨n, hn, rfl⟩ := List.mem_map.mp hpiece
    simpa using fun heq : c = '/' => h n hn (heq ▸ hc)
  have hsplit := Text.splitWhere_flatMap (p := (· == '/')) (beq_self_eq_true '/')
    (List.forall_mem_nil _) hpieces
  rw [List.nil_append, List.flatMap_map] at hsplit
  rw [pieces, Text.splitAt, String.toList_ofList, slashed, hsplit, List.map_cons, List.map_map]
  simp

theorem slash_notMem_of_mem_pieces {n : String} (h : n ∈ pieces path) : '/' ∉ n.toList := by
  obtain ⟨piece, hpiece, rfl⟩ := List.mem_map.mp h
  rw [String.toList_ofList]
  intro hmem
  have hslash := Text.forall_of_mem_splitWhere hpiece '/' hmem
  simp at hslash

theorem isAbsolute_iff : isAbsolute path = true ↔
    ∃ rest : String, path.toList = '/' :: rest.toList := by
  rw [isAbsolute, String.startsWith_string_iff]
  constructor
  · rintro ⟨rest, hrest⟩
    exact ⟨String.ofList rest, by rw [String.toList_ofList, ← hrest]; rfl⟩
  · rintro ⟨rest, hrest⟩
    exact ⟨rest.toList, hrest.symm⟩

theorem pieces_of_isAbsolute (h : isAbsolute path = true) :
    ∃ rest, path.toList = slashed rest ∧ pieces path = "" :: rest := by
  obtain ⟨rest, hrest⟩ := isAbsolute_iff.mp h
  have hpath : path = String.ofList (slashed (pieces rest)) := by
    rw [slashed_pieces, ← hrest, String.ofList_toList]
  refine ⟨pieces rest, by rw [slashed_pieces, hrest], ?_⟩
  rw [hpath]
  exact pieces_slashed fun n hn => slash_notMem_of_mem_pieces hn

theorem parent_cases (path : String) :
    (names path).dropLast = [] ∧ parent path = "/" ∨
    (names path).dropLast ≠ [] ∧ parent path = String.ofList (slashed (names path).dropLast) := by
  unfold parent
  cases hns : (names path).dropLast with
  | nil => exact Or.inl ⟨rfl, rfl⟩
  | cons n ns =>
      refine Or.inr ⟨List.cons_ne_nil n ns, String.ext ?_⟩
      rw [String.toList_join, List.flatMap_map, String.toList_ofList, slashed]
      simp only [String.toList_append]
      rfl

theorem sublist_of_parent (h : isAbsolute path = true) :
    (parent path).toList.Sublist path.toList := by
  obtain ⟨rest, hrest, hpieces⟩ := pieces_of_isAbsolute h
  rcases parent_cases path with ⟨_, hparent⟩ | ⟨_, hparent⟩
  · obtain ⟨rest, hrest⟩ := isAbsolute_iff.mp h
    rw [hparent, hrest]
    exact (List.nil_sublist rest.toList).cons_cons '/'
  · have hnames : (names path).dropLast.Sublist rest := by
      refine (List.dropLast_sublist _).trans ?_
      rw [names, hpieces, List.filter_cons, if_neg (by simp)]
      exact List.filter_sublist
    rw [hparent, String.toList_ofList, hrest]
    exact hnames.flatMap _

/-- The names on the way to the directory of a path, between which there are no others. -/
theorem pieces_parent (path : String) :
    pieces (parent path) = "" :: (names path).dropLast ∨
    (names path).dropLast = [] ∧ pieces (parent path) = ["", ""] := by
  rcases parent_cases path with ⟨hnil, hparent⟩ | ⟨_, hparent⟩
  · rw [hparent]
    exact Or.inr ⟨hnil, by decide⟩
  · rw [hparent]
    refine Or.inl (pieces_slashed fun n hn => ?_)
    exact slash_notMem_of_mem_pieces (List.mem_filter.mp ((List.dropLast_sublist _).subset hn)).1

theorem filter_cons_of_skipped {n : String} (h : n = "" ∨ n = ".") (ns : List String) :
    (n :: ns).filter (fun n => n ≠ "" ∧ n ≠ ".") = ns.filter fun n => n ≠ "" ∧ n ≠ "." :=
  List.filter_cons_of_neg (by simpa [or_iff_not_imp_left] using h)

theorem filter_cons_of_not_skipped {n : String} (h : ¬(n = "" ∨ n = ".")) (ns : List String) :
    (n :: ns).filter (fun n => n ≠ "" ∧ n ≠ ".") = n :: ns.filter fun n => n ≠ "" ∧ n ≠ "." :=
  List.filter_cons_of_pos (by simpa using h)

theorem not_skipped_of_mem {n : String} (h : n ∈ names path) : ¬(n = "" ∨ n = ".") := by
  simpa using (List.mem_filter.mp h).2

theorem isAbsolute_parent (path : String) : isAbsolute (parent path) = true := by
  rcases parent_cases path with ⟨_, hparent⟩ | ⟨hne, hparent⟩
  · rw [hparent]
    exact isAbsolute_iff.mpr ⟨"", rfl⟩
  · obtain ⟨n, ns, hns⟩ := List.exists_cons_of_ne_nil hne
    refine isAbsolute_iff.mpr ⟨String.ofList (n.toList ++ slashed ns), ?_⟩
    rw [hparent, hns, String.toList_ofList, String.toList_ofList]
    rfl

end Path

namespace Disk

variable {root : Node} {here loc : Location} {ns : List String} {d d' : Disk} {path : String}

/-- Names that lead nowhere can be left out of a walk. -/
theorem walk_filter (h : walk root here ns = .ok loc) :
    walk root here (ns.filter fun n => n ≠ "" ∧ n ≠ ".") = .ok loc := by
  induction ns generalizing here with
  | nil => exact h
  | cons n ns ih =>
      obtain ⟨hhere, hname, hrest⟩ := walk_cons_eq_ok_iff.mp h
      by_cases hn : n = "" ∨ n = "."
      · have hnext : next here n = here := if_pos hn
        rw [Path.filter_cons_of_skipped hn]
        exact ih (hnext ▸ hrest)
      · rw [Path.filter_cons_of_not_skipped hn]
        exact walk_cons_eq_ok_iff.mpr ⟨hhere, hname, ih hrest⟩

theorem walk_dropLast (hhere : root.HasDirectory here) (h : walk root here ns = .ok loc) :
    ∃ above, walk root here ns.dropLast = .ok above ∧ root.HasDirectory above := by
  induction ns generalizing here with
  | nil => exact ⟨here, rfl, hhere⟩
  | cons n ns ih =>
      obtain ⟨_, hname, hrest⟩ := walk_cons_eq_ok_iff.mp h
      cases ns with
      | nil => exact ⟨here, rfl, hhere⟩
      | cons second ns =>
          obtain ⟨above, habove, hdir⟩ := ih (walk_cons_eq_ok_iff.mp hrest).1 hrest
          exact ⟨above, walk_cons_eq_ok_iff.mpr ⟨hhere, hname, habove⟩, hdir⟩

theorem locate_eq_ok_iff (h : Path.isAbsolute path = true) :
    d.locate path = .ok loc ↔ '\x00' ∉ path.toList ∧ path.utf8ByteSize < maxPath ∧
      walk d.root [] (Path.pieces path) = .ok loc := by
  obtain ⟨rest, hrest⟩ := Path.isAbsolute_iff.mp h
  have hfull : ¬path.isEmpty = true := by
    intro hempty
    rw [String.isEmpty_iff] at hempty
    rw [hempty] at hrest
    cases hrest
  have hbad : (path.contains '\x00' = true ∨ maxPath ≤ path.utf8ByteSize) ↔
      ¬('\x00' ∉ path.toList ∧ path.utf8ByteSize < maxPath) := by
    rw [String.contains_char_eq, decide_eq_true_eq, not_and_or, not_not, Nat.not_lt]
  unfold locate
  rw [if_neg hfull, if_pos h, ← and_assoc]
  split
  · next hor => simp [hbad.mp hor]
  · next hor => simp [not_not.mp (mt hbad.mpr hor)]

theorem locate_of_pieces {names : List String} (habsolute : Path.isAbsolute path = true)
    (hnul : '\x00' ∉ path.toList) (hlength : path.utf8ByteSize < maxPath)
    (hpieces : Path.pieces path = names) (hwalk : walk d.root [] names = .ok loc) :
    d.locate path = .ok loc :=
  (locate_eq_ok_iff habsolute).mpr ⟨hnul, hlength, hpieces ▸ hwalk⟩

theorem isOk_find_parent (habsolute : Path.isAbsolute path = true) (h : d.locate path = .ok loc) :
    (d.find (Path.parent path)).isOk = true := by
  obtain ⟨hnul, hlength, hwalk⟩ := (locate_eq_ok_iff habsolute).mp h
  have hroot : d.root.HasDirectory [] := by
    obtain ⟨rest, _, hpieces⟩ := Path.pieces_of_isAbsolute habsolute
    rw [hpieces] at hwalk
    exact (walk_cons_eq_ok_iff.mp hwalk).1
  have hblank : ∀ ns above, walk d.root [] ns = .ok above → walk d.root [] ("" :: ns) = .ok above :=
    fun ns above habove => walk_cons_eq_ok_iff.mpr ⟨hroot, fun _ => Or.inl rfl, habove⟩
  obtain ⟨above, habove, hdir⟩ := walk_dropLast hroot (walk_filter hwalk)
  have hparent : walk d.root [] (Path.pieces (Path.parent path)) = .ok above := by
    rcases Path.pieces_parent path with hpieces | ⟨hnil, hpieces⟩
    · rw [hpieces]
      exact hblank _ _ habove
    · rw [Path.names] at hnil
      rw [hnil] at habove
      rw [hpieces]
      exact hblank _ _ (hblank _ _ habove)
  have hsub := Path.sublist_of_parent habsolute
  have hlocate : d.locate (Path.parent path) = .ok above :=
    (locate_eq_ok_iff (Path.isAbsolute_parent path)).mpr ⟨fun hmem => hnul (hsub.subset hmem),
      (Text.utf8ByteSize_le_of_sublist hsub).trans_lt hlength, hparent⟩
  obtain ⟨n, hn, _⟩ := (Option.any_eq_true _ _).mp hdir
  simp only [find, hlocate, hn, bind, Except.bind, pure, Except.pure]
  rfl

/-- Whoever replaced a file finds its directory. -/
theorem isOk_find_parent_of_replace {content : Bytes} (habsolute : Path.isAbsolute path = true)
    (h : d.replace path content = .ok d') : (d'.find (Path.parent path)).isOk = true := by
  obtain ⟨loc, hloc, hnot, rfl⟩ := replace_eq_ok h
  exact isOk_find_parent habsolute (locate_put hloc hnot _)

end Disk

end SettingsStore
