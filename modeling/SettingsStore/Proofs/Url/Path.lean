import Mathlib.Data.List.DropRight
import SettingsStore.Proofs.Text.CommaList
import SettingsStore.Proofs.Text.Lossy
import SettingsStore.Proofs.Url.Percent
import SettingsStore.Url.Basic

/-!
# The URL of an absolute path

A scheme, two slashes and an absolute path are a URL without a host. Its path has the segments that
were written, percent encoded, provided that none of them is empty or made of dots and that no
character in them is a delimiter, an escape or a control. The local path of a file URL is what was
written, except where it reads like the letter of a drive.
-/

namespace SettingsStore.Url

variable {t : SchemeType} {c : Char} {s cs : List Char} {segments done : List (List Char)}

/-! ## Segments -/

/-- The characters that separate segments, end a path or escape another character. -/
def delimiters : List Char := ['/', '\\', '?', '#', '%']

/-- A segment of a path that stands for itself in a URL, but for its encoding. -/
structure IsSegment (s : List Char) : Prop where
  ne_nil : s ≠ []
  ne_dot : s ≠ ['.']
  ne_dots : s ≠ ['.', '.']
  delimiter_notMem : ∀ d ∈ delimiters, d ∉ s
  control_notMem : ∀ c ∈ s, 32 ≤ c.toNat

def isSegmentChar (c : Char) : Bool := 32 ≤ c.toNat && !(delimiters.contains c)

theorem isSegment_iff : IsSegment s ↔
    s ≠ [] ∧ s ≠ ['.'] ∧ s ≠ ['.', '.'] ∧ s.all isSegmentChar = true := by
  simp only [List.all_eq_true, isSegmentChar, Bool.and_eq_true, decide_eq_true_eq,
    Bool.not_eq_true', List.contains_eq_mem, decide_eq_false_iff_not]
  constructor
  · intro h
    refine ⟨h.ne_nil, h.ne_dot, h.ne_dots, fun c hc => ⟨h.control_notMem c hc, fun hd => ?_⟩⟩
    exact h.delimiter_notMem c hd hc
  · rintro ⟨hne, hdot, hdots, h⟩
    exact ⟨hne, hdot, hdots, fun d hd hmem => (h d hmem).2 hd, fun c hc => (h c hc).1⟩

instance : Decidable (IsSegment s) := decidable_of_iff _ isSegment_iff.symm

theorem IsSegment.percent_notMem (h : IsSegment s) : '%' ∉ s := h.delimiter_notMem '%' (by decide)

theorem IsSegment.ne_of_mem (h : IsSegment s) (hc : c ∈ s) {d : Char} (hd : d ∈ delimiters) :
    c ≠ d :=
  fun hcd => h.delimiter_notMem d hd (hcd ▸ hc)

theorem eq_dot_of_digits {b : UInt8} {e : Char} (hhigh : upperHexDigit (b.toNat / 16) = '2')
    (hlow : upperHexDigit (b.toNat % 16) = e) (he : e = 'e' ∨ e = 'E') : b.toNat = 46 := by
  have hlt : b.toNat < 256 := b.toNat_lt
  have hfirst := hexDigit?_upperHexDigit (b.toNat / 16) (by omega)
  have hsecond := hexDigit?_upperHexDigit (b.toNat % 16) (by omega)
  rw [hhigh, show hexDigit? '2' = some 2 from by decide, Option.some.injEq] at hfirst
  have hdigit : hexDigit? e = some 14 := by rcases he with rfl | rfl <;> decide
  rw [hlow, hdigit, Option.some.injEq] at hsecond
  omega

/-- The encoding of a character does not read like a dot. -/
theorem undot_encodeChar (hdot : c ≠ '.') (hpercent : c ≠ '%') (cs : List Char) :
    undot (encodeChar isEncodedInPath c ++ cs) = encodeChar isEncodedInPath c ++ cs := by
  rcases encodeChar_cases isEncodedInPath c with ⟨-, hplain⟩ | ⟨hencoded, -⟩
  · rw [hplain, List.singleton_append, undot]
    · exact fun _ _ hc => hpercent (List.cons.inj hc).1
    · exact fun _ hc => hdot (List.cons.inj hc).1
  · obtain ⟨b, rest, hb, hchars⟩ := exists_encodeChar hencoded
    rw [hchars]
    simp only [List.cons_append]
    rw [undot.eq_def]
    split
    · rename_i e _ heq
      have hdigits := heq
      simp only [List.cons.injEq] at hdigits
      obtain ⟨-, hhigh, hlow, -⟩ := hdigits
      rw [heq]
      refine if_neg fun he => hdot ?_
      have hbyte := eq_dot_of_digits hhigh hlow he
      rw [(Text.utf8EncodeChar_of_mem (by omega) hb).1, hbyte]
    · rename_i heq
      exact absurd (List.cons.inj heq).1 (by decide)
    · rfl

theorem undot_percentEncode (h : '%' ∉ cs) :
    undot (percentEncode isEncodedInPath cs) = percentEncode isEncodedInPath cs := by
  induction cs with
  | nil => rfl
  | cons c cs ih =>
      rw [List.mem_cons, not_or] at h
      rw [percentEncode_cons]
      by_cases hc : c = '.'
      · subst hc
        rw [encodeChar_of_plain (by decide) (by decide), List.singleton_append, undot, ih h.2]
      · exact undot_encodeChar hc (Ne.symm h.1) _

theorem IsSegment.isSingleDot_eq_false (h : IsSegment s) :
    isSingleDot (percentEncode isEncodedInPath s) = false := by
  rw [isSingleDot, undot_percentEncode h.percent_notMem, beq_eq_false_iff_ne]
  exact fun hdot => h.ne_dot (eq_of_percentEncode hdot (by decide))

theorem IsSegment.isDoubleDot_eq_false (h : IsSegment s) :
    isDoubleDot (percentEncode isEncodedInPath s) = false := by
  rw [isDoubleDot, undot_percentEncode h.percent_notMem, beq_eq_false_iff_ne]
  exact fun hdots => h.ne_dots (eq_of_percentEncode hdots (by decide))

/-! ## Drives -/

/-- A file URL may write a bar for the colon of a drive that its path begins with. -/
def asDrive (t : SchemeType) : List Char → List Char
  | [c, '|'] => if t = .file ∧ c.isAlpha then [c, ':'] else [c, '|']
  | s => s

theorem asDrive_of_ne (h : ∀ c, t = .file → c.isAlpha → s ≠ [c, '|']) : asDrive t s = s := by
  unfold asDrive
  split
  · exact if_neg fun hc => h _ hc.1 hc.2 rfl
  · rfl

theorem asDrive_cases (t : SchemeType) (s : List Char) :
    (∃ c, t = .file ∧ c.isAlpha ∧ s = [c, '|'] ∧ asDrive t s = [c, ':']) ∨
    (∀ c, t = .file → c.isAlpha → s ≠ [c, '|']) ∧ asDrive t s = s := by
  by_cases h : ∃ c, t = .file ∧ c.isAlpha ∧ s = [c, '|']
  · obtain ⟨c, ht, hc, rfl⟩ := h
    exact Or.inl ⟨c, ht, hc, rfl, if_pos ⟨ht, hc⟩⟩
  · have hne : ∀ c, t = .file → c.isAlpha → s ≠ [c, '|'] := fun c ht hc hs => h ⟨c, ht, hc, hs⟩
    exact Or.inr ⟨hne, asDrive_of_ne hne⟩

theorem plain_of_isAlpha (h : c.isAlpha = true) : c.toNat < 128 ∧ isEncodedInPath c = false := by
  have hletter : (decide (c.val ≥ 'A'.val ∧ c.val ≤ 'Z'.val) ||
      (decide (c.val ≥ 'a'.val) && decide (c.val ≤ 'z'.val))) = true := h
  have hrange : 65 ≤ c.toNat ∧ c.toNat ≤ 90 ∨ 97 ≤ c.toNat ∧ c.toNat ≤ 122 := by
    simp only [Bool.or_eq_true, Bool.and_eq_true, decide_eq_true_eq, ge_iff_le,
      UInt32.le_iff_toNat_le] at hletter
    exact hletter
  refine ⟨by omega, ?_⟩
  simp only [isEncodedInPath, isControl, Bool.or_eq_false_iff, decide_eq_false_iff_not,
    beq_eq_false_iff_ne, List.contains_eq_mem]
  refine ⟨⟨by omega, by omega⟩, fun hmem => ?_⟩
  have hcode : c.toNat ∈ [32, 34, 60, 62, 96, 35, 63, 123, 125] :=
    List.mem_map_of_mem (f := Char.toNat) hmem
  simp only [List.mem_cons, List.not_mem_nil, or_false] at hcode
  omega

theorem asDrive_percentEncode (h : '%' ∉ s) :
    asDrive t (percentEncode isEncodedInPath s) = percentEncode isEncodedInPath (asDrive t s) := by
  rcases asDrive_cases t s with ⟨c, ht, hc, rfl, hdrive⟩ | ⟨hne, hdrive⟩
  · have hplain (d : Char) (hd : d.toNat < 128 ∧ isEncodedInPath d = false) :
        percentEncode isEncodedInPath [c, d] = [c, d] :=
      percentEncode_of_plain (List.forall_mem_cons.mpr
        ⟨plain_of_isAlpha hc, List.forall_mem_cons.mpr ⟨hd, List.forall_mem_nil _⟩⟩)
    rw [hplain '|' (by decide), hdrive, hplain ':' (by decide)]
  · rw [hdrive, asDrive_of_ne]
    intro c ht hc heq
    refine hne c ht hc (eq_of_percentEncode heq fun hmem => ?_)
    rcases List.mem_cons.mp hmem with rfl | hmem
    · exact absurd hc (by decide)
    · exact absurd hmem (by decide)

/-! ## Paths -/

/-- What stands for itself behind other segments is kept. -/
theorem resolve_of_done (hdone : done ≠ [])
    (h : ∀ s ∈ segments, isSingleDot s = false ∧ isDoubleDot s = false) :
    resolve t done segments = segments.reverse ++ done := by
  induction segments generalizing done with
  | nil => rfl
  | cons s segments ih =>
      rw [List.forall_mem_cons] at h
      rw [resolve, if_neg (by simp [h.1.2]), if_neg (by simp [h.1.1]),
        ih (List.cons_ne_nil s done) h.2, List.reverse_cons, List.append_assoc]
      · rfl
      · exact fun _ _ hnil => absurd hnil hdone

/-- Of segments that stand for themselves, only the first can name a drive. -/
theorem resolve_cons (h : ∀ s' ∈ s :: segments, isSingleDot s' = false ∧ isDoubleDot s' = false) :
    resolve t [] (s :: segments) = segments.reverse ++ [asDrive t s] := by
  rw [List.forall_mem_cons] at h
  rw [← resolve_of_done (t := t) (List.cons_ne_nil (asDrive t s) []) h.2]
  by_cases hbar : ∃ c, t = .file ∧ s = [c, '|']
  · obtain ⟨c, rfl, rfl⟩ := hbar
    rw [resolve, if_neg (by simp [h.1.2]), if_neg (by simp [h.1.1]), asDrive]
    simp only [true_and]
  · rw [resolve, if_neg (by simp [h.1.2]), if_neg (by simp [h.1.1]), asDrive_of_ne]
    · exact fun c ht _ hs => hbar ⟨c, ht, hs⟩
    · exact fun c ht _ hs => hbar ⟨c, ht, hs⟩

theorem percentEncode_joinSegments (segments : List (List Char)) :
    percentEncode isEncodedInPath (joinSegments segments) =
      joinSegments (segments.map (percentEncode isEncodedInPath)) := by
  rw [percentEncode, joinSegments, List.flatMap_assoc, joinSegments, List.flatMap_map]
  rfl

theorem delimiter_notMem_asDrive (h : IsSegment s) {d : Char} (hd : d ∈ delimiters) :
    d ∉ asDrive t s := by
  rcases asDrive_cases t s with ⟨c, -, -, hs, hdrive⟩ | ⟨-, hdrive⟩
  · have hcolon : d ≠ ':' := by
      rintro rfl
      exact absurd hd (by decide)
    have hletter : d ≠ c := fun hc => h.delimiter_notMem d hd (by simp [hs, hc])
    simp [hdrive, hletter, hcolon]
  · rw [hdrive]
    exact h.delimiter_notMem d hd

theorem asDrive_ne_nil (h : IsSegment s) : asDrive t s ≠ [] := by
  rcases asDrive_cases t s with ⟨c, -, -, -, hdrive⟩ | ⟨-, hdrive⟩
  · rw [hdrive]
    exact List.cons_ne_nil c _
  · rw [hdrive]
    exact h.ne_nil

theorem dropWhile_percentEncode (h : '/' ∉ cs) (hne : cs ≠ []) (rest : List Char) :
    (percentEncode isEncodedInPath (cs ++ rest)).dropWhile (· == '/') =
      percentEncode isEncodedInPath (cs ++ rest) := by
  obtain ⟨c, cs, rfl⟩ := List.exists_cons_of_ne_nil hne
  rw [List.mem_cons, not_or] at h
  rw [List.cons_append, percentEncode_cons]
  rcases encodeChar_cases isEncodedInPath c with ⟨-, hc⟩ | ⟨hencoded, -⟩
  · rw [hc, List.singleton_append, List.dropWhile_cons_of_neg]
    simpa using Ne.symm h.1
  · obtain ⟨b, digits, -, hchars⟩ := exists_encodeChar hencoded
    rw [hchars, List.cons_append, List.dropWhile_cons_of_neg (by decide)]

theorem parseSegments_eq (h : ∀ s' ∈ s :: segments, IsSegment s') :
    parseSegments t (s ++ joinSegments segments) =
      percentEncode isEncodedInPath (joinSegments (asDrive t s :: segments)) := by
  have hslash : ∀ s' ∈ s :: segments, ∀ c ∈ s', isSlash t c = false := by
    intro s' hs' c hc
    have hslash : c ≠ '/' := (h s' hs').ne_of_mem hc (by decide)
    have hbackslash : c ≠ '\\' := (h s' hs').ne_of_mem hc (by decide)
    simp [isSlash, hslash, hbackslash]
  rw [List.forall_mem_cons] at hslash
  have hpieces : Text.splitWhere (isSlash t) (s ++ joinSegments segments) = s :: segments :=
    Text.splitWhere_flatMap (by simp [isSlash]) hslash.1 hslash.2
  have hencoded : ∀ s' ∈ (s :: segments).map (percentEncode isEncodedInPath),
      isSingleDot s' = false ∧ isDoubleDot s' = false := by
    rw [List.forall_mem_map]
    exact fun s' hs' => ⟨(h s' hs').isSingleDot_eq_false, (h s' hs').isDoubleDot_eq_false⟩
  rw [List.forall_mem_cons] at h
  have hdrop := dropWhile_percentEncode (delimiter_notMem_asDrive (t := t) h.1 (by decide))
    (asDrive_ne_nil h.1) (joinSegments segments)
  have hpath : percentEncode isEncodedInPath (joinSegments (asDrive t s :: segments)) =
      '/' :: percentEncode isEncodedInPath (asDrive t s ++ joinSegments segments) := rfl
  rw [parseSegments, hpieces, List.map_cons, resolve_cons hencoded,
    asDrive_percentEncode h.1.percent_notMem, List.reverse_append, List.reverse_reverse,
    List.reverse_singleton, List.singleton_append, ← List.map_cons, ← percentEncode_joinSegments,
    hpath, List.dropWhile_cons_of_pos (by decide), hdrop, ite_self]

/-- An absolute path after two slashes, where a URL has its host and its path. -/
theorem parsePathStart_eq (h : ∀ s' ∈ s :: segments, IsSegment s') :
    parsePathStart t (joinSegments (s :: segments)) =
      percentEncode isEncodedInPath (joinSegments (asDrive t s :: segments)) := by
  have htake : (joinSegments (s :: segments)).takeWhile (!endsPath ·) =
      joinSegments (s :: segments) := by
    rw [List.takeWhile_eq_self_iff]
    intro c hc
    obtain ⟨s', hs', hc⟩ := List.mem_flatMap.mp hc
    rcases List.mem_cons.mp hc with rfl | hc
    · decide
    · have hquery : c ≠ '?' := (h s' hs').ne_of_mem hc (by decide)
      have hfragment : c ≠ '#' := (h s' hs').ne_of_mem hc (by decide)
      simp [endsPath, hquery, hfragment]
  have hslash : isSlash t '/' = true := by simp [isSlash]
  rw [parsePathStart, htake, joinSegments, List.flatMap_cons, List.cons_append]
  dsimp only
  rw [if_pos hslash]
  exact parseSegments_eq h

theorem parseOther_eq (h : ∀ s' ∈ s :: segments, IsSegment s') (scheme : String) :
    parseOther scheme ('/' :: '/' :: joinSegments (s :: segments)) =
      .ok ⟨scheme, none, percentEncode isEncodedInPath (joinSegments (s :: segments))⟩ := by
  have hpath := parsePathStart_eq (t := .other) h
  have hdrive : asDrive .other s = s := asDrive_of_ne fun _ ht => SchemeType.noConfusion ht
  rw [hdrive] at hpath
  -- The third slash ends the host, which is empty.
  rw [← hpath]
  rfl

theorem parseFile_eq (h : ∀ s' ∈ s :: segments, IsSegment s') :
    parseFile ('/' :: '/' :: joinSegments (s :: segments)) = .ok ⟨"file", none,
      percentEncode isEncodedInPath (joinSegments (asDrive .file s :: segments))⟩ := by
  rw [← parsePathStart_eq h]
  rfl

theorem lt_of_not_isBlank (hcontrol : 32 ≤ c.toNat) (hblank : Text.isBlank c = false) :
    32 < c.toNat := by
  have hspace : c.toNat ≠ 32 := by
    intro hcode
    obtain rfl : c = ' ' := by rw [← Char.ofNat_toNat c, hcode]
    exact absurd hblank (by decide)
  omega

theorem clean_of_trim {text : String} (htrim : Text.trim text = text)
    (h : ∀ c ∈ text.toList, 32 ≤ c.toNat) : clean text.toList = text.toList := by
  have hends : Text.stripWhere (·.toNat ≤ 32) text.toList = text.toList := by
    rw [Text.stripWhere_eq_self_iff]
    intro hne
    obtain ⟨hhead, hlast⟩ := Text.head_getLast_of_trim htrim hne
    exact ⟨decide_eq_false (Nat.not_le.mpr (lt_of_not_isBlank (h _ (List.head_mem hne)) hhead)),
      decide_eq_false (Nat.not_le.mpr (lt_of_not_isBlank (h _ (List.getLast_mem hne)) hlast))⟩
  change (Text.stripWhere (·.toNat ≤ 32) text.toList).filter _ = _
  rw [hends, List.filter_eq_self]
  intro c hc
  have hcontrol := h c hc
  have hne (d : Char) (hd : d.toNat < 32) : c ≠ d := by
    rintro rfl
    omega
  simp [hne '\t' (by decide), hne '\n' (by decide), hne '\r' (by decide)]

/-! ## Local paths -/

theorem isDriveLetter_iff : isDriveLetter s = true ↔
    ∃ c d, s = [c, d] ∧ c.isAlpha = true ∧ (d = ':' ∨ d = '|') := by
  constructor
  · intro h
    unfold isDriveLetter at h
    split at h
    · exact ⟨_, _, rfl, by simpa using h⟩
    · cases h
  · rintro ⟨c, d, rfl, hc, hd⟩
    simpa [isDriveLetter, hc] using hd

theorem rtake_two_iff {c d : Char} : cs.rtake 2 = [c, d] ↔ ∃ front, cs = front ++ [c, d] := by
  constructor
  · intro h
    exact ⟨cs.take (cs.length - 2), by rw [← h, List.rtake, List.take_append_drop]⟩
  · rintro ⟨front, rfl⟩
    simp [List.rtake]

/-- Whether the last two bytes of a path are a letter and what follows it in a drive. -/
def EndInDrive (bytes : List UInt8) : Prop :=
  ∃ front letter last, bytes = front ++ [letter, last] ∧
    (last = 58 ∨ last = 124) ∧ (Char.ofNat letter.toNat).isAlpha = true

theorem endInDrive_flatMap_iff :
    EndInDrive (cs.flatMap String.utf8EncodeChar) ↔ isDriveLetter (cs.rtake 2) = true := by
  rw [isDriveLetter_iff]
  constructor
  · rintro ⟨front, letter, last, hbytes, hlast, hletter⟩
    have hvalid : letter.toNat.isValidChar := Or.inl (Nat.lt_trans letter.toNat_lt (by decide))
    have hascii : letter.toNat < 128 := by
      have hlt := (plain_of_isAlpha hletter).1
      rwa [Char.ofNat, dif_pos hvalid] at hlt
    rw [← List.singleton_append, ← List.append_assoc] at hbytes
    obtain ⟨cs, rfl, hrest⟩ := Text.eq_append_of_flatMap (by rcases hlast with rfl | rfl <;> decide)
      hbytes
    obtain ⟨cs, rfl, -⟩ := Text.eq_append_of_flatMap hascii hrest
    refine ⟨_, _, rtake_two_iff.mpr ⟨cs, List.append_assoc _ _ _⟩, hletter, ?_⟩
    rcases hlast with rfl | rfl <;> decide
  · rintro ⟨c, d, hcs, hc, hd⟩
    obtain ⟨front, rfl⟩ := rtake_two_iff.mp hcs
    have hletter : (UInt8.ofNat c.toNat).toNat = c.toNat :=
      Text.toNat_ofNat_of_lt (Nat.lt_trans (plain_of_isAlpha hc).1 (by decide))
    refine ⟨front.flatMap String.utf8EncodeChar, .ofNat c.toNat, .ofNat d.toNat, ?_, ?_, ?_⟩
    · rw [List.flatMap_append, List.flatMap_cons,
        Text.utf8EncodeChar_of_lt (plain_of_isAlpha hc).1]
      rcases hd with rfl | rfl <;> rfl
    · rcases hd with rfl | rfl <;> decide
    · rwa [hletter, Char.ofNat_toNat]

section

variable {u : Url} {bytes : List UInt8}

theorem filePath?_of_endInDrive (hhost : u.host = none)
    (hbytes : percentDecode u.path = 47 :: bytes) (h : EndInDrive (47 :: bytes)) :
    u.filePath? = some (47 :: bytes ++ [47]) := by
  obtain ⟨front, letter, last, heq, hend⟩ := h
  -- The slash that a path begins with is no letter.
  have hfront : front.reverse ≠ [] := by
    rw [Ne, List.reverse_eq_nil_iff]
    rintro rfl
    obtain ⟨rfl, -⟩ := List.cons.inj heq
    exact absurd hend.2 (by decide)
  obtain ⟨x, rest, hx⟩ := List.exists_cons_of_ne_nil hfront
  have hreverse : (47 :: bytes).reverse = last :: letter :: x :: rest := by
    rw [heq, List.reverse_append, hx]
    rfl
  simp only [filePath?, hhost, hbytes, hreverse, hend, Option.isSome_none, Bool.false_eq_true,
    if_false, and_self, if_true]

theorem filePath?_of_not_endInDrive (hhost : u.host = none)
    (hbytes : percentDecode u.path = 47 :: bytes) (h : ¬EndInDrive (47 :: bytes)) :
    u.filePath? = some (47 :: bytes) := by
  simp only [filePath?, hhost, hbytes, Option.isSome_none, Bool.false_eq_true, if_false]
  split
  · rename_i last letter x rest hreverse
    rw [List.reverse_eq_iff, List.reverse_cons, List.reverse_cons, List.append_assoc] at hreverse
    exact if_neg fun hend => h ⟨_, letter, last, hreverse, hend⟩
  · rfl

end

/-- A path that ends in a drive is that of its directory. -/
def asDirectory (cs : List Char) : List Char :=
  if isDriveLetter (cs.rtake 2) then cs ++ ['/'] else cs

theorem filePath?_eq (h : '%' ∉ cs) (scheme : String) :
    filePath? ⟨scheme, none, percentEncode isEncodedInPath ('/' :: cs)⟩ =
      some (Text.bytesOf (String.ofList (asDirectory ('/' :: cs)))) := by
  have hdecode : percentDecode (percentEncode isEncodedInPath ('/' :: cs)) =
      47 :: cs.flatMap String.utf8EncodeChar :=
    percentDecode_percentEncode (by simp [h])
  have hdrive : EndInDrive (('/' :: cs).flatMap String.utf8EncodeChar) ↔
      isDriveLetter (('/' :: cs).rtake 2) = true := endInDrive_flatMap_iff
  rw [Text.bytesOf_ofList, asDirectory]
  split
  · rename_i hend
    rw [filePath?_of_endInDrive rfl hdecode (hdrive.mpr hend), List.flatMap_append]
    rfl
  · rename_i hend
    rw [filePath?_of_not_endInDrive rfl hdecode (mt hdrive.mp hend)]
    rfl

end SettingsStore.Url
