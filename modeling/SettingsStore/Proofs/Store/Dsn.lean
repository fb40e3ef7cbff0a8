import Mathlib.Data.List.Infix
import SettingsStore.Proofs.Url.Path
import SettingsStore.Store.Dsn

/-!
# The file that an address leads to

An absolute path behind the scheme of a database or of a file is read as a path again. The address
of a file is decoded and leads to the path that was written, except where it names a drive. The path
of a database stays encoded, so it is the one that was written exactly if nothing in it has to be
encoded.
-/

namespace SettingsStore

namespace Url

variable {path : String} {s : List Char} {segments : List (List Char)}

theorem control_notMem_joinSegments (h : ∀ s' ∈ segments, IsSegment s') :
    ∀ c ∈ joinSegments segments, 32 ≤ c.toNat := by
  intro c hc
  obtain ⟨s', hs', hc⟩ := List.mem_flatMap.mp hc
  rcases List.mem_cons.mp hc with rfl | hc
  · decide
  · exact (h s' hs').control_notMem c hc

theorem percent_notMem_joinSegments (h : ∀ s' ∈ segments, '%' ∉ s') :
    '%' ∉ joinSegments segments := by
  intro hmem
  obtain ⟨s', hs', hmem⟩ := List.mem_flatMap.mp hmem
  exact h s' hs' ((List.mem_cons.mp hmem).resolve_left (by decide))

/-- What follows a scheme and two slashes in a trimmed text without controls. -/
theorem splitScheme?_clean {front path scheme : String}
    (hscheme : ∀ cs, splitScheme? (front.toList ++ cs) = some (scheme, '/' :: '/' :: cs))
    (hfront : front.toList.all (32 ≤ ·.toNat) = true) (hpath : ∀ c ∈ path.toList, 32 ≤ c.toNat)
    (htrim : Text.trim (front ++ path) = front ++ path) :
    splitScheme? (clean (front ++ path).toList) = some (scheme, '/' :: '/' :: path.toList) := by
  have hclean := clean_of_trim htrim fun c hc => by
    rw [String.toList_append, List.mem_append] at hc
    exact hc.elim (fun hc => of_decide_eq_true (List.all_eq_true.mp hfront c hc)) (hpath c)
  rw [hclean, String.toList_append, hscheme]

end Url

namespace Dsn

variable {text path : String} {segments : List (List Char)}

/-- A text that does not look like the address of anything is the path of a file, but for the blanks
around it. -/
theorem parse_of_plain (htrim : Text.trim text = path) (hne : path ≠ "")
    (hmemory : path ≠ "memory:") (haddress : ¬"://".toList <:+: path.toList)
    (hsqlite : ¬"sqlite:".toList <+: path.toList) : parse text = .ok (.file path) := by
  have hfull : ¬path.isEmpty = true := by rwa [String.isEmpty_iff]
  have hnotMemory : ¬(path = "memory:" ∨ path = "memory://") := by
    rintro (rfl | rfl)
    · exact hmemory rfl
    · exact haddress (by decide)
  have hnotDatabase : ¬(path = "sqlite::memory:" ∨ path = "sqlite://:memory:") := by
    rintro (rfl | rfl) <;> exact hsqlite (by decide)
  have hplain : (!path.contains "://" && !path.startsWith "sqlite:") = true := by
    rw [String.contains_string_eq_false_iff.mpr haddress,
      String.startsWith_string_eq_false_iff.mpr hsqlite]
    rfl
  have hpath : ofText path = .ok (.file path) := by
    rw [ofText, if_neg hfull, if_neg hnotMemory, if_neg hnotDatabase, if_pos hplain]
  rw [parse, htrim, hpath]
  rfl

theorem ofText_of_address {url : Url} (haddress : "://".toList <:+: text.toList)
    (hslashes : 2 < text.toList.count '/') (hurl : Url.parse text = .ok url) :
    ofText text = ofUrl url := by
  have hne {other : String} (hother : other.toList.count '/' ≤ 2) : text ≠ other := by
    rintro rfl
    exact absurd hslashes (Nat.not_lt.mpr hother)
  have hfull : ¬text.isEmpty = true := by
    rw [String.isEmpty_iff]
    exact hne (by decide)
  have hnotMemory : ¬(text = "memory:" ∨ text = "memory://") :=
    not_or.mpr ⟨hne (by decide), hne (by decide)⟩
  have hnotDatabase : ¬(text = "sqlite::memory:" ∨ text = "sqlite://:memory:") :=
    not_or.mpr ⟨hne (by decide), hne (by decide)⟩
  have hplain : ¬(!text.contains "://" && !text.startsWith "sqlite:") = true := by
    rw [String.contains_string_iff.mpr haddress]
    exact Bool.false_ne_true
  rw [ofText, if_neg hfull, if_neg hnotMemory, if_neg hnotDatabase, if_neg hplain, hurl]

/-- An absolute path without blanks around it, in segments that stand for themselves in a URL. -/
structure IsPlainPath (path : String) (segments : List (List Char)) : Prop where
  ne_nil : segments ≠ []
  isSegment : ∀ s ∈ segments, Url.IsSegment s
  toList_eq : path.toList = Url.joinSegments segments
  trim_eq : Text.trim path = path

namespace IsPlainPath

theorem exists_cons (h : IsPlainPath path segments) : ∃ rest, path.toList = '/' :: rest := by
  obtain ⟨s, segments, rfl⟩ := List.exists_cons_of_ne_nil h.ne_nil
  exact ⟨s ++ Url.joinSegments segments, h.toList_eq⟩

theorem control_notMem (h : IsPlainPath path segments) : ∀ c ∈ path.toList, 32 ≤ c.toNat :=
  h.toList_eq ▸ Url.control_notMem_joinSegments h.isSegment

theorem percent_notMem (h : IsPlainPath path segments) : '%' ∉ path.toList :=
  h.toList_eq ▸ Url.percent_notMem_joinSegments fun s hs => (h.isSegment s hs).percent_notMem

end IsPlainPath

/-- A plain path behind a scheme and two slashes leads to where its URL points. -/
theorem parse_append (h : IsPlainPath path segments) {front : String} {url : Url}
    (hfront : Text.trim front = front) (haddress : "://".toList <:+: front.toList)
    (hurl : Text.trim (front ++ path) = front ++ path → Url.parse (front ++ path) = .ok url) :
    parse (front ++ path) = (ofUrl url).mapError (.invalidDsn (front ++ path)) := by
  obtain ⟨rest, hrest⟩ := h.exists_cons
  have hfull : front.toList ≠ [] := by
    intro hnil
    rw [hnil] at haddress
    exact absurd haddress (by decide)
  have htext : Text.trim (front ++ path) = front ++ path :=
    Text.trim_append hfront h.trim_eq hfull (hrest ▸ List.cons_ne_nil '/' rest)
  have hslashes : 2 < (front ++ path).toList.count '/' := by
    have hle : "://".toList.count '/' ≤ front.toList.count '/' := haddress.sublist.count_le '/'
    have htwo : "://".toList.count '/' = 2 := by decide
    rw [String.toList_append, List.count_append, hrest, List.count_cons_self]
    omega
  have hinfix : "://".toList <:+: (front ++ path).toList := by
    rw [String.toList_append]
    exact haddress.trans (List.prefix_append _ _).isInfix
  rw [parse, htext, ofText_of_address hinfix hslashes (hurl htext)]

theorem ofUrl_database {cs : List Char} (h : cs ≠ []) :
    ofUrl ⟨"sqlite", none, cs⟩ = .ok (.database (.named (String.ofList cs))) := by
  have hfull : ¬(String.ofList cs).isEmpty = true := by
    rw [String.isEmpty_iff]
    intro hnil
    have hcs := congrArg String.toList hnil
    rw [String.toList_ofList] at hcs
    exact h hcs
  exact if_neg hfull

theorem ofUrl_file {url : Url} (hscheme : url.scheme = "file") {bytes : List UInt8}
    (h : url.filePath? = some bytes) : ofUrl url = .ok (.file (Text.lossy bytes)) := by
  rw [ofUrl, hscheme, if_neg (by decide), if_pos rfl, h]

theorem parse_database (h : IsPlainPath path segments) :
    parse ("sqlite://" ++ path) = .ok (.database (.named
      (String.ofList (Url.percentEncode Url.isEncodedInPath path.toList)))) := by
  obtain ⟨s, segments, rfl⟩ := List.exists_cons_of_ne_nil h.ne_nil
  have hfront : Text.trim "sqlite://" = "sqlite://" := by decide +kernel
  have hscheme (cs : List Char) : Url.splitScheme? ("sqlite://".toList ++ cs) =
      some ("sqlite", '/' :: '/' :: cs) := rfl
  have hurl (htext : Text.trim ("sqlite://" ++ path) = "sqlite://" ++ path) :
      Url.parse ("sqlite://" ++ path) =
        .ok ⟨"sqlite", none, Url.percentEncode Url.isEncodedInPath path.toList⟩ := by
    rw [Url.parse, Url.splitScheme?_clean hscheme (by decide) h.control_notMem htext, h.toList_eq]
    exact Url.parseOther_eq h.isSegment "sqlite"
  have hencoded : Url.percentEncode Url.isEncodedInPath path.toList ≠ [] := by
    rw [h.toList_eq]
    exact List.cons_ne_nil '/' _
  rw [parse_append h hfront ⟨"sqlite".toList, [], rfl⟩ hurl, ofUrl_database hencoded]
  rfl

/-- The local path of segments, as the address of a file leads to it. -/
def localPath (segments : List (List Char)) : String :=
  String.ofList (Url.asDirectory (Url.joinSegments (segments.modifyHead (Url.asDrive .file))))

theorem percent_notMem_localPath (h : ∀ s ∈ segments, Url.IsSegment s) :
    '%' ∉ Url.joinSegments (segments.modifyHead (Url.asDrive .file)) := by
  refine Url.percent_notMem_joinSegments ?_
  cases segments with
  | nil => exact List.forall_mem_nil _
  | cons s segments =>
      rw [List.modifyHead_cons, List.forall_mem_cons]
      rw [List.forall_mem_cons] at h
      exact ⟨Url.delimiter_notMem_asDrive h.1 (by decide),
        fun s' hs' => (h.2 s' hs').percent_notMem⟩

theorem parse_file (h : IsPlainPath path segments) :
    parse ("file://" ++ path) = .ok (.file (localPath segments)) := by
  have hpercent := percent_notMem_localPath h.isSegment
  obtain ⟨s, segments, rfl⟩ := List.exists_cons_of_ne_nil h.ne_nil
  have hfront : Text.trim "file://" = "file://" := by decide +kernel
  have hscheme (cs : List Char) : Url.splitScheme? ("file://".toList ++ cs) =
      some ("file", '/' :: '/' :: cs) := rfl
  have hurl (htext : Text.trim ("file://" ++ path) = "file://" ++ path) :
      Url.parse ("file://" ++ path) = .ok ⟨"file", none, Url.percentEncode Url.isEncodedInPath
        (Url.joinSegments (Url.asDrive .file s :: segments))⟩ := by
    rw [Url.parse, Url.splitScheme?_clean hscheme (by decide) h.control_notMem htext, h.toList_eq]
    exact Url.parseFile_eq h.isSegment
  have hlocal : Url.filePath? ⟨"file", none, Url.percentEncode Url.isEncodedInPath
      (Url.joinSegments (Url.asDrive .file s :: segments))⟩ =
        some (Text.bytesOf (localPath (s :: segments))) :=
    Url.filePath?_eq (fun hmem => hpercent (List.mem_cons_of_mem '/' hmem)) "file"
  rw [parse_append h hfront ⟨"file".toList, [], rfl⟩ hurl, ofUrl_file rfl hlocal,
    Text.lossy_bytesOf]
  rfl

theorem toList_localPath (s : List Char) (segments : List (List Char)) :
    (localPath (s :: segments)).toList =
      Url.asDirectory (Url.joinSegments (Url.asDrive .file s :: segments)) := String.toList_ofList

/-- The local path is the one that was written, unless it begins or ends in a drive. -/
theorem localPath_eq_iff (h : IsPlainPath path segments) : localPath segments = path ↔
    (∀ letter : Char, letter.isAlpha → segments.head? ≠ some [letter, '|']) ∧
      ¬Url.isDriveLetter (path.toList.rtake 2) := by
  obtain ⟨s, segments, rfl⟩ := List.exists_cons_of_ne_nil h.ne_nil
  rw [← String.toList_inj, toList_localPath]
  rcases Url.asDrive_cases .file s with ⟨c, -, hc, rfl, hdrive⟩ | ⟨hbar, hdrive⟩
  · -- The third character of the path is a bar, and that of the local path a colon.
    have hprefix : ∃ rest, Url.asDirectory (Url.joinSegments ([c, ':'] :: segments)) =
        '/' :: c :: ':' :: rest := by
      unfold Url.asDirectory
      split
      · exact ⟨_, rfl⟩
      · exact ⟨_, rfl⟩
    obtain ⟨rest, hrest⟩ := hprefix
    have hslash : path.toList = '/' :: c :: '|' :: Url.joinSegments segments := h.toList_eq
    refine iff_of_false ?_ fun hplain => hplain.1 c hc rfl
    rw [hdrive, hrest, hslash]
    intro heq
    exact absurd (List.cons.inj (List.cons.inj (List.cons.inj heq).2).2).1 (by decide)
  · have hhead : ∀ letter : Char, letter.isAlpha → (s :: segments).head? ≠ some [letter, '|'] :=
      fun letter hletter heq => hbar letter rfl hletter (Option.some.inj heq)
    rw [hdrive, ← h.toList_eq, Url.asDirectory, and_iff_right hhead]
    split
    · rename_i hend
      exact iff_of_false (fun heq => by simpa using congrArg List.length heq) (not_not.mpr hend)
    · rename_i hend
      exact iff_of_true rfl hend

/-- An absolute path behind the scheme of a database or of a file. Both addresses are accepted.
That of a database leads to the path in encoded form, so to the one that was written exactly if
nothing in it has to be encoded. That of a file leads to the path that was written, except that the
bar of a drive at its beginning becomes a colon, and that a drive at its end becomes a directory. -/
theorem parse_path_exact (h : IsPlainPath path segments) :
    parse ("sqlite://" ++ path) = .ok (.database (.named
        (String.ofList (Url.percentEncode Url.isEncodedInPath path.toList)))) ∧
      (parse ("sqlite://" ++ path) = .ok (.database (.named path)) ↔
        ∀ c ∈ path.toList, c.toNat < 128 ∧ Url.isEncodedInPath c = false) ∧
      parse ("file://" ++ path) = .ok (.file (localPath segments)) ∧
      (parse ("file://" ++ path) = .ok (.file path) ↔
        (∀ letter : Char, letter.isAlpha → segments.head? ≠ some [letter, '|']) ∧
          ¬Url.isDriveLetter (path.toList.rtake 2)) := by
  have hdatabase := parse_database h
  have hfile := parse_file h
  refine ⟨hdatabase, ?_, hfile, ?_⟩
  · rw [hdatabase, ← Url.percentEncode_eq_self_iff h.percent_notMem]
    simp only [Except.ok.injEq, Dsn.database.injEq, Target.named.injEq, ← String.toList_inj,
      String.toList_ofList]
  · rw [hfile, ← localPath_eq_iff h]
    simp only [Except.ok.injEq, Dsn.file.injEq]

/-- A blank leads to a database elsewhere, and to the file that was written. -/
theorem parse_path_exact_of_blank :
    IsPlainPath "/var/lib/my db" ["var".toList, "lib".toList, "my db".toList] ∧
      parse ("sqlite://" ++ "/var/lib/my db") = .ok (.database (.named "/var/lib/my%20db")) ∧
      parse ("sqlite://" ++ "/var/lib/my db") ≠ .ok (.database (.named "/var/lib/my db")) ∧
      parse ("file://" ++ "/var/lib/my db") = .ok (.file "/var/lib/my db") := by
  have h : IsPlainPath "/var/lib/my db" ["var".toList, "lib".toList, "my db".toList] :=
    ⟨by decide, by decide +kernel, by decide, by decide +kernel⟩
  obtain ⟨hdatabase, hsame, -, hfile⟩ := parse_path_exact h
  refine ⟨h, hdatabase, ?_, ?_⟩
  · rw [Ne, hsame]
    exact fun hplain => absurd (hplain ' ' (by decide)).2 (by decide)
  · rw [hfile]
    exact ⟨fun letter _ heq => by simp at heq, by decide +kernel⟩

end Dsn

end SettingsStore
