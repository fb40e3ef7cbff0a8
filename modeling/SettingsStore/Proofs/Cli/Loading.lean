import SettingsStore.Cli.Run
import SettingsStore.Proofs.Store.Opening
import SettingsStore.Proofs.Store.ReadOnly

/-!
# Loading a file without a store

A file can be loaded as a document once, and a store can be opened on it that only reads. The store
takes the salt from the document it has before it reads, if the file has none, and repairs what it
has repaired already. All this makes no difference but for the salt: what is checked of a salt holds
of every generated one. So either both come to the same document, or both fail for the same reason.
-/

namespace SettingsStore

namespace Document

variable {d : Document} {salt salt' : String}

def withSalt (salt : Option String) (d : Document) : Document :=
  { d with files.publicLinkSalt := salt }

theorem fill_inherit_default (d : Document) (salt salt' : String) :
    (d.inherit (default.fill salt)).fill salt' = d.fill salt := by
  have hsalt : (d.files.publicLinkSalt <|> some salt).getD salt' =
      d.files.publicLinkSalt.getD salt := by
    cases d.files.publicLinkSalt <;> rfl
  change withSalt (some ((d.files.publicLinkSalt <|> some salt).getD salt')) (d.fill salt) = _
  rw [hsalt]
  rfl

theorem fill_of_salt (h : d.files.publicLinkSalt ≠ none) (salt salt' : String) :
    d.fill salt = d.fill salt' := by
  obtain ⟨s, hs⟩ := Option.ne_none_iff_exists'.mp h
  rw [fill, fill, hs]
  rfl

theorem fill_of_no_salt (h : d.files.publicLinkSalt = none) (salt salt' : String) :
    d.fill salt = (d.fill salt').withSalt (some salt) := by
  rw [fill, h]
  rfl

theorem repaired_withSalt (salt : Option String) (d : Document) :
    (d.withSalt salt).repaired = d.repaired.withSalt salt := rfl

/-- Documents that differ in their salts, of which each is long enough, have the same violations. -/
theorem violations_withSalt (h : minimumSaltBytes ≤ salt.utf8ByteSize)
    (h' : minimumSaltBytes ≤ salt'.utf8ByteSize) (d : Document) :
    (d.withSalt (some salt)).violations = (d.withSalt (some salt')).violations := by
  have hrequire (salt : String) (h : minimumSaltBytes ≤ salt.utf8ByteSize) :
      require ((some salt).all (minimumSaltBytes ≤ ·.utf8ByteSize)) .publicLinkSalt .shortSalt =
        [] :=
    if_pos (decide_eq_true h)
  unfold violations fileViolations withSalt
  dsimp only
  rw [hrequire salt h, hrequire salt' h']

/-- A document that was completed and repaired, if it is valid. -/
def checked (d : Document) : Except (List Violation) Document :=
  match d.repaired.violations with
  | [] => .ok d.repaired
  | violations => .error violations

theorem checked_repaired (d : Document) : d.repaired.checked = d.checked := by
  rw [checked, checked, repaired_repaired]

theorem ofFile_eq (codec : Codec) (salt : String) (bytes : Bytes) :
    ofFile codec salt bytes = match codec.decode bytes with
      | .error cause => .error (.unreadable cause)
      | .ok decoded => (decoded.fill salt).checked.mapError .invalid := by
  unfold ofFile checked
  cases codec.decode bytes with
  | error cause => rfl
  | ok decoded =>
      simp only [Except.mapError, bind, Except.bind, pure, Except.pure]
      generalize (decoded.fill salt).repaired.violations = violations
      cases violations <;> rfl

/-- Whatever salt a document is completed with, it is checked with the same result. -/
theorem checked_fill_cases (h : minimumSaltBytes ≤ salt.utf8ByteSize)
    (h' : minimumSaltBytes ≤ salt'.utf8ByteSize) (d : Document) :
    (∃ a b, (d.fill salt).checked = .ok a ∧ (d.fill salt').checked = .ok b ∧
      a = b.withSalt a.files.publicLinkSalt ∧ (d.files.publicLinkSalt ≠ none → a = b)) ∨
    ∃ violations, (d.fill salt).checked = .error violations ∧
      (d.fill salt').checked = .error violations := by
  -- Only a document without a salt gets a new one. Both new ones are long enough.
  by_cases hunset : d.files.publicLinkSalt = none
  · have hfill := fill_of_no_salt hunset salt salt'
    have hviolations := violations_withSalt h h' (d.fill salt').repaired
    rw [← repaired_withSalt, ← repaired_withSalt, ← hfill,
      ← fill_of_no_salt hunset salt' salt'] at hviolations
    unfold checked
    rw [hviolations]
    cases (d.fill salt').repaired.violations with
    | cons v vs => exact Or.inr ⟨v :: vs, rfl, rfl⟩
    | nil =>
        refine Or.inl ⟨_, _, rfl, rfl, ?_, (absurd hunset ·)⟩
        rw [hfill, repaired_withSalt]
        rfl
  · rw [fill_of_salt hunset salt salt']
    cases hchecked : (d.fill salt').checked with
    | ok a => exact Or.inl ⟨a, a, rfl, rfl, rfl, fun _ => rfl⟩
    | error violations => exact Or.inr ⟨violations, rfl, rfl⟩

end Document

namespace Options

/-- The options of a store that only reads, and shows the document as it is kept. -/
structure IsPlain (o : Options) : Prop where
  readOnly : o.readOnly = true
  watch : o.watch = false
  skipValidation : o.skipValidation = false
  no_variable : o.allowOverrides = true →
    ∀ l : Leaf, o.environment.find? (l.variableName o.lead) = none

theorem IsPlain.effective {o : Options} (h : o.IsPlain) (d : Document) :
    o.effective d = d.checked.map (⟨·, o.overridden⟩) := by
  have hlaid : (if o.allowOverrides then d.applyOverrides o.environment o.lead else .ok (d, [])) =
      .ok (d, o.overridden) := by
    cases hallow : o.allowOverrides with
    | false => simp [overridden, hallow]
    | true =>
        have habsent (l : Leaf) : o.environment.override o.lead l = .absent := by
          rw [Environment.override, h.no_variable hallow l]
        have hfits (l : Leaf) : o.environment.violation? o.lead l = none := by
          rw [Environment.violation?, habsent]
        have hnone (l : Leaf) : o.environment.value? o.lead l = none := by
          rw [Environment.value?, habsent]
        rw [if_pos rfl, Document.applyOverrides_of_forall hfits, Document.overlaid_of_forall hnone,
          overridden, hallow, if_pos rfl]
  have hcheck : o.check d.repaired = d.checked := by
    have hchecks : ¬o.skipValidation = true := by simp [h.skipValidation]
    unfold check Document.checked
    refine (if_neg hchecks).trans ?_
    cases d.repaired.violations <;> rfl
  rw [effective_eq, hlaid, ← hcheck]
  rfl

end Options

namespace Store

variable {σ κ : Type} [Medium σ]

theorem active_of_loadBytes {s : Store σ κ} {fresh : Fresh} {bytes : Option Bytes} {d : Document}
    {needsSave : Bool} (ho : s.options.IsPlain)
    (hd : s.decode fresh.salt (content bytes) = .ok (d, needsSave)) :
    ((s.loadBytes fresh bytes).1.map fun _ => (s.loadBytes fresh bytes).2.active) =
      d.checked.mapError .invalid := by
  have heffective := ho.effective d
  cases hchecked : d.checked with
  | error violations =>
      rw [hchecked] at heffective
      rw [loadBytes_of_invalid hd heffective]
      rfl
  | ok e =>
      rw [hchecked] at heffective
      rw [loadBytes_unwritten hd (fun _ => ho.readOnly) heffective]
      rfl

/-- What a store shows that was opened only to read: the document of the bytes on its medium,
completed with the salt that it was opened with. -/
theorem active_of_openMedium {options : Options} (ho : options.IsPlain) (salt : String)
    (fresh : Fresh) {medium : σ} {bytes : Bytes} (hload : Medium.load medium = .ok (some bytes))
    (hbytes : bytes.isEmpty = false) :
    let opened : _ × Store σ κ := openMedium options salt fresh medium
    (opened.1.map fun _ => opened.2.active) = match (Medium.codec medium).decode bytes with
      | .error cause => .error (.undecodable cause)
      | .ok decoded => (decoded.fill salt).checked.mapError .invalid := by
  intro opened
  let s : Store σ κ := ofMedium options salt medium
  have hopened : opened = s.loadBytes fresh (some bytes) := by
    change s.load fresh = _
    rw [load, show Medium.load s.medium = _ from hload]
  have hcontent : content (some bytes) = some bytes := content_eq_some.mpr ⟨rfl, hbytes⟩
  have hdecode := s.decode_some fresh.salt bytes
  rw [← hcontent, show Medium.codec s.medium = Medium.codec medium from rfl] at hdecode
  rw [hopened]
  cases hd : (Medium.codec medium).decode bytes with
  | error cause =>
      rw [hd] at hdecode
      rw [loadBytes_of_undecodable hdecode]
      rfl
  | ok decoded =>
      rw [hd] at hdecode
      have hcompleted : s.completed fresh.salt decoded = decoded.fill salt :=
        decoded.fill_inherit_default salt fresh.salt
      have hactive := active_of_loadBytes (s := s) ho hdecode
      rw [hcompleted, Document.checked_repaired] at hactive
      exact hactive

theorem openPlace_of_isPlain {options : Options} (ho : options.IsPlain) (notifier : Notifier)
    (salt : String) (fresh : Fresh) (place : Place) :
    ((openPlace notifier options salt fresh place : Opened κ).result.map active) =
      (openMedium options salt fresh place : _ × Store Place κ).1.map fun _ =>
        (openMedium options salt fresh place : _ × Store Place κ).2.active := by
  unfold openPlace
  rw [ho.watch]
  generalize (openMedium options salt fresh place : _ × Store Place κ) = opened
  obtain ⟨loaded, s⟩ := opened
  cases loaded <;> rfl

end Store

namespace Cli

variable {κ : Type}

theorem loadFile_of_read {path salt : String} {disk : Disk} {bytes : Bytes}
    (h : disk.read path = .ok bytes) :
    loadFile salt path disk = Document.ofFile (Codec.ofPath path) salt bytes := by
  rw [loadFile, h]

/-- A file that is loaded once gives the document that a store shows which is opened on it only to
read, except that each has a salt of its own if the file has none. Or both fail, because the file
cannot be decoded, or with the same violations. -/
theorem loadFile_agrees {options : Options} (ho : options.IsPlain) (notifier : Notifier)
    {salt boot : String} (hsalt : Document.minimumSaltBytes ≤ salt.utf8ByteSize)
    (hboot : Document.minimumSaltBytes ≤ boot.utf8ByteSize) (fresh : Fresh) {name path : String}
    (hname : Dsn.parse name = .ok (.file path)) {disk : Disk}
    (hhome : Path.isAbsolute disk.home = true) (hup : ".." ∉ Path.names disk.home) {bytes : Bytes}
    (hread : disk.read (Path.join disk.home path) = .ok bytes) (hbytes : bytes.isEmpty = false) :
    let once := loadFile salt path disk
    let shown :=
      (Store.openNamed notifier options boot fresh name disk : Opened κ).result.map Store.active
    (∃ decoded a b, (Codec.ofPath path).decode bytes = .ok decoded ∧ once = .ok a ∧
      shown = .ok b ∧ a = b.withSalt a.files.publicLinkSalt ∧
      (decoded.files.publicLinkSalt ≠ none → a = b)) ∨
    (∃ cause, once = .error (.unreadable cause) ∧ shown = .error (.undecodable cause)) ∨
    ∃ violations, once = .error (.invalid violations) ∧ shown = .error (.invalid violations) := by
  intro once shown
  obtain ⟨hnames, hrelative⟩ := Disk.read_of_read_join hhome hup hread
  have honce : once = Document.ofFile (Codec.ofPath path) salt bytes := loadFile_of_read hrelative
  have hload : Medium.load (Place.openFile path disk) = .ok (some bytes) :=
    FileMedium.load_of_read hread
  have hcodec : Medium.codec (Place.openFile path disk) = Codec.ofPath path :=
    Codec.ofPath_join disk.home hnames
  have hshown : shown = match (Codec.ofPath path).decode bytes with
      | .error cause => .error (.undecodable cause)
      | .ok decoded => (decoded.fill boot).checked.mapError .invalid := by
    rw [← hcodec, ← Store.active_of_openMedium (κ := κ) ho boot fresh hload hbytes,
      ← Store.openPlace_of_isPlain ho notifier]
    change (Store.openNamed notifier options boot fresh name disk : Opened κ).result.map _ = _
    rw [Store.openNamed_of_place hname rfl]
  rw [Document.ofFile_eq] at honce
  cases hdecode : (Codec.ofPath path).decode bytes with
  | error cause =>
      rw [hdecode] at honce hshown
      exact Or.inr (Or.inl ⟨cause, honce, hshown⟩)
  | ok decoded =>
      rw [hdecode] at honce hshown
      change once = (decoded.fill salt).checked.mapError .invalid at honce
      change shown = (decoded.fill boot).checked.mapError .invalid at hshown
      rcases decoded.checked_fill_cases hsalt hboot with ⟨a, b, ha, hb, hsame, hset⟩ |
        ⟨violations, ha, hb⟩
      · rw [ha] at honce
        rw [hb] at hshown
        exact Or.inl ⟨decoded, a, b, rfl, honce, hshown, hsame, hset⟩
      · rw [ha] at honce
        rw [hb] at hshown
        exact Or.inr (Or.inr ⟨violations, honce, hshown⟩)

/-- A file to be repaired, one that is invalid, and one that is not a document. -/
theorem loadFile_agrees_in_directory :
    let salt := "0123456789abcdef0123456789abcdef"
    let boot := "fedcba9876543210fedcba9876543210"
    let options := { Options.default with watch := false, readOnly := true }
    let path := "/work/settings.json"
    let once (text : String) := loadFile salt path (Disk.withSettings text.toUTF8)
    let shown (text : String) := (Store.openNamed .unlimited options boot ⟨salt, "first"⟩ path
      (Disk.withSettings text.toUTF8) : Opened Unit).result.map Store.active
    let repaired := "\x7b\"file_settings\":\x7b\"directory\":\"./data\"\x7d\x7d"
    let invalid := "\x7b\"password_settings\":\x7b\"minimum_length\":1\x7d\x7d"
    (∃ a b, once repaired = .ok a ∧ shown repaired = .ok b ∧ a.files.directory = "./data/" ∧
      a = b.withSalt a.files.publicLinkSalt) ∧
    (∃ violations, once invalid = .error (.invalid violations) ∧
      shown invalid = .error (.invalid violations)) ∧
    ∃ cause, once "x" = .error (.unreadable cause) ∧ shown "x" = .error (.undecodable cause) := by
  intro salt boot options path once shown repaired invalid
  have ho : options.IsPlain := ⟨rfl, rfl, rfl, fun _ _ => rfl⟩
  have hname : Dsn.parse path = .ok (.file path) :=
    Dsn.parse_of_plain (by decide +kernel) (by decide) (by decide) (by decide) (by decide)
  have hjoin : Path.join "/work" path = path := Path.join_of_isAbsolute _ (by decide +kernel)
  have hread (text : String) :
      (Disk.withSettings text.toUTF8).read (Path.join "/work" path) = .ok text.toUTF8 := by
    rw [hjoin]
    exact Disk.read_withSettings text.toUTF8
  have hsalt : Document.minimumSaltBytes ≤ salt.utf8ByteSize := by decide
  have hboot : Document.minimumSaltBytes ≤ boot.utf8ByteSize := by decide
  have hhome : Path.isAbsolute "/work" = true := by decide +kernel
  have hup : ".." ∉ Path.names "/work" := by decide +kernel
  have hagrees (text : String) (htext : text.toUTF8.isEmpty = false) :
      (∃ decoded a b, (Codec.ofPath path).decode text.toUTF8 = .ok decoded ∧ once text = .ok a ∧
        shown text = .ok b ∧ a = b.withSalt a.files.publicLinkSalt ∧
        (decoded.files.publicLinkSalt ≠ none → a = b)) ∨
      (∃ cause, once text = .error (.unreadable cause) ∧
        shown text = .error (.undecodable cause)) ∨
      ∃ violations, once text = .error (.invalid violations) ∧
        shown text = .error (.invalid violations) :=
    loadFile_agrees ho .unlimited hsalt hboot ⟨salt, "first"⟩ hname hhome hup (hread text) htext
  have hcodec : Codec.ofPath path = .json := by decide +kernel
  have honce (text : String) : once text = Document.ofFile .json salt text.toUTF8 := by
    rw [← hcodec]
    exact loadFile_of_read (Disk.read_withSettings text.toUTF8)
  refine ⟨?_, ?_, ?_⟩
  · have hfacts : (once repaired).toOption.any (·.files.directory = "./data/") = true := by
      rw [honce]
      decide +kernel
    obtain ⟨a, ha, hdirectory⟩ := Store.exists_ok_of_any hfacts
    rcases hagrees repaired (by decide +kernel) with ⟨_, a', b, _, ha', hb, hsame, _⟩ |
      ⟨_, ha', _⟩ | ⟨_, ha', _⟩
    · cases ha.symm.trans ha'
      exact ⟨a, b, ha, hb, of_decide_eq_true hdirectory, hsame⟩
    · cases ha.symm.trans ha'
    · cases ha.symm.trans ha'
  · have hfails : (match once invalid with | .error (.invalid _) => true | _ => false) = true := by
      rw [honce]
      decide +kernel
    rcases hagrees invalid (by decide +kernel) with ⟨_, a, _, _, ha, _⟩ | ⟨_, ha, _⟩ | hboth
    · rw [show once invalid = _ from ha] at hfails
      cases hfails
    · rw [show once invalid = _ from ha] at hfails
      cases hfails
    · exact hboth
  · have hfails : (match once "x" with | .error (.unreadable _) => true | _ => false) = true := by
      rw [honce]
      decide +kernel
    rcases hagrees "x" (by decide +kernel) with ⟨_, a, _, _, ha, _⟩ | hboth | ⟨_, ha, _⟩
    · rw [show once "x" = _ from ha] at hfails
      cases hfails
    · exact hboth
    · rw [show once "x" = _ from ha] at hfails
      cases hfails

/-- A name with a blank before it is the name of a file, but not the one that a store is opened
on. -/
theorem loadFile_not_shown :
    let salt := "0123456789abcdef0123456789abcdef"
    let boot := "fedcba9876543210fedcba9876543210"
    let options := { Options.default with watch := false, readOnly := true }
    let path := " settings.json"
    let disk : Disk :=
      ⟨.directory [("work", .directory [(path, .file "x".toUTF8)])], "/work", []⟩
    options.IsPlain ∧ disk.read (Path.join disk.home path) = .ok "x".toUTF8 ∧
      (loadFile salt path disk).isOk = false ∧
      (Store.openNamed .unlimited options boot ⟨salt, "first"⟩ path disk :
        Opened Unit).result.isOk = true := by
  intro salt boot options path disk
  have hlocate : disk.locate (Path.join disk.home path) = .ok ["work", path] :=
    Disk.locate_of_pieces (by decide +kernel) (by decide +kernel) (by decide +kernel)
      (show _ = ["", "work", path] by decide +kernel) rfl
  have hread : disk.read (Path.join disk.home path) = .ok "x".toUTF8 := by
    rw [Disk.read, Disk.find, hlocate]
    rfl
  have hhome : Path.isAbsolute disk.home = true := by decide +kernel
  have hup : ".." ∉ Path.names disk.home := by decide +kernel
  have hcodec : Codec.ofPath path = .json := by decide +kernel
  have honce : (loadFile salt path disk).isOk = false := by
    rw [loadFile_of_read (Disk.read_of_read_join hhome hup hread).2, hcodec]
    decide +kernel
  -- Without the blank, there is no file yet.
  have hname : Dsn.parse path = .ok (.file "settings.json") :=
    Dsn.parse_of_plain (by decide +kernel) (by decide) (by decide) (by decide) (by decide)
  have hother : disk.locate (Path.join disk.home "settings.json") = .ok ["work", "settings.json"] :=
    Disk.locate_of_pieces (by decide +kernel) (by decide +kernel) (by decide +kernel)
      (show _ = ["", "work", "settings.json"] by decide +kernel) rfl
  have hmissing : Medium.load (Place.openFile "settings.json" disk) = .ok none := by
    refine FileMedium.load_of_missing (m := .ofPath "settings.json" disk) ?_
    rw [FileMedium.ofPath, Disk.read, Disk.find, hother]
    rfl
  have hopens : ((Store.ofMedium options boot (Place.openFile "settings.json" disk) :
      Store Place Unit).loadBytes ⟨salt, "first"⟩ none).1.isOk = true := by
    decide +kernel
  obtain ⟨loaded, hloaded⟩ := Store.exists_eq_ok hopens
  refine ⟨⟨rfl, rfl, rfl, fun _ _ => rfl⟩, hread, honce, ?_⟩
  rw [Store.openNamed_of_place hname rfl, Store.openPlace, Store.openMedium_eq_loadBytes hmissing,
    hloaded]
  rfl

end Cli

end SettingsStore
