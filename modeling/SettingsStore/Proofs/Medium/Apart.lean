import SettingsStore.Proofs.Disk.Frame
import SettingsStore.Proofs.Disk.Relative
import SettingsStore.Proofs.Medium.Revisions

/-!
# Documents and files apart

A medium can be asked for its document and for the files beside it. What is done to one of them does
not change the replies for another one: memory and databases keep them apart, and on a disk a file
that is written or removed is seen only by those whose path leads to its place, or gets stuck there.
Names of files are paths, so some of them lead to the document or to each other's files. Different
names in the directory of the document do not.
-/

namespace SettingsStore

namespace Medium

inductive Subject where
  | document
  | file (name : String)

inductive Deed where
  | persist (id : String) (d : Document)
  | putFile (name : String) (bytes : Bytes)
  | eraseFile (name : String)

def Deed.subject : Deed → Subject
  | .persist _ _ => .document
  | .putFile name _ | .eraseFile name => .file name

/-- The document, or a file in its directory that has a single name. -/
def Subject.IsPlain : Subject → Prop
  | .document => True
  | .file name => Path.names name = [name] ∧ name ≠ ".."

/-- The name of a subject, where the document has a name, too. -/
def Subject.name (document : String) : Subject → String
  | .document => document
  | .file name => name

theorem ne_of_file {name other : String} (h : Subject.file name ≠ .file other) : other ≠ name :=
  fun heq => h (congrArg Subject.file heq.symm)

inductive Reply where
  | document (loaded : Except PersistenceError (Option Bytes))
  | file (content : Except PersistenceError Bytes) (found : Except PersistenceError Bool)

section

variable {σ : Type} [Medium σ]

def reply : Subject → σ → Reply
  | .document, m => .document (Medium.load m)
  | .file name, m => .file (Medium.getFile name m) (Medium.hasFile name m)

def perform : Deed → σ → σ
  | .persist id d, m => (Medium.persist id d m).2
  | .putFile name bytes, m => (Medium.putFile name bytes m).2
  | .eraseFile name, m => (Medium.eraseFile name m).2

def performAll (deeds : List Deed) (m : σ) : σ := deeds.foldl (fun m deed => perform deed m) m

end

/-- What is said of a file that is an entry of a table. -/
def Reply.ofEntries (name : String) (files : Entries Bytes) : Reply :=
  .file (readEntry name files) (.ok (files.find? name).isSome)

theorem Reply.ofEntries_congr {name : String} {files files' : Entries Bytes}
    (h : files'.find? name = files.find? name) : ofEntries name files' = ofEntries name files := by
  rw [ofEntries, ofEntries, readEntry, readEntry, h]

theorem Reply.ofEntries_put {name other : String} (h : other ≠ name) (bytes : Bytes)
    (files : Entries Bytes) : ofEntries other (files.put name bytes) = ofEntries other files :=
  ofEntries_congr (Entries.find?_put_of_ne h bytes files)

theorem Reply.ofEntries_erase {name other : String} (h : other ≠ name) (files : Entries Bytes) :
    ofEntries other (files.erase name) = ofEntries other files :=
  ofEntries_congr (Entries.find?_erase_of_ne h files)

theorem readEntry_put (name : String) (bytes : Bytes) (files : Entries Bytes) :
    readEntry name (files.put name bytes) = .ok bytes := by
  rw [readEntry, Entries.find?_put_self]

end Medium

open Medium

variable {deed : Deed} {q : Subject}

/-! ## Memory and slots -/

theorem Memory.reply_perform (h : deed.subject ≠ q) (m : Memory) :
    reply q (perform deed m) = reply q m := by
  cases q with
  | document =>
      cases deed with
      | persist => exact absurd rfl h
      | putFile | eraseFile => rfl
  | file other =>
      cases deed with
      | persist => rfl
      | putFile name bytes => exact Reply.ofEntries_put (ne_of_file h) bytes m.files
      | eraseFile name => exact Reply.ofEntries_erase (ne_of_file h) m.files

theorem Slot.reply_perform (h : deed.subject ≠ q) (m : Slot) :
    reply q (perform deed m) = reply q m := by
  cases q with
  | document =>
      cases deed with
      | persist => exact absurd rfl h
      | putFile | eraseFile => rfl
  | file other =>
      cases deed with
      | persist id d =>
          rw [perform, persist_eq]
          split <;> rfl
      | putFile name bytes => exact Reply.ofEntries_put (ne_of_file h) bytes m.files
      | eraseFile name => exact Reply.ofEntries_erase (ne_of_file h) m.files

/-! ## Databases -/

theorem Database.entries_of_files {db : Database} {files : Entries Bytes}
    (h : db.entries = .ok files) (files' : Entries Bytes) :
    ({ db with files := some files' } : Database).entries = .ok files' := by
  unfold entries access at h ⊢
  split at h
  · cases h
  · next hfree => rw [if_neg hfree]

namespace DatabaseMedium

theorem putFile_cases (name : String) (bytes : Bytes) (m : DatabaseMedium) :
    (∃ cause, Medium.putFile name bytes m = (.error cause, m)) ∨
    ∃ files, m.database.entries = .ok files ∧ Medium.putFile name bytes m =
      (.ok (), { m with database.files := some (files.put name bytes) }) := by
  change (∃ cause, Medium.outcome m _ (do m.checkLength _; m.database.putFile _ _) = _) ∨
    ∃ files, _ ∧ Medium.outcome m _ (do m.checkLength _; m.database.putFile _ _) = _
  unfold Database.putFile
  cases m.checkLength bytes.size with
  | error cause => exact Or.inl ⟨cause, rfl⟩
  | ok =>
      cases m.database.entries with
      | error cause => exact Or.inl ⟨cause, rfl⟩
      | ok files => exact Or.inr ⟨files, rfl, rfl⟩

theorem eraseFile_cases (name : String) (m : DatabaseMedium) :
    (∃ cause, Medium.eraseFile name m = (.error cause, m)) ∨
    ∃ files, m.database.entries = .ok files ∧ Medium.eraseFile name m =
      (.ok (), { m with database.files := some (files.erase name) }) := by
  change (∃ cause, Medium.outcome m _ (m.database.eraseFile _) = _) ∨
    ∃ files, _ ∧ Medium.outcome m _ (m.database.eraseFile _) = _
  unfold Database.eraseFile
  cases m.database.entries with
  | error cause => exact Or.inl ⟨cause, rfl⟩
  | ok files => exact Or.inr ⟨files, rfl, rfl⟩

variable {m : DatabaseMedium} {files : Entries Bytes} {name : String}

theorem reply_file (h : m.database.entries = .ok files) (name : String) :
    reply (.file name) m = .ofEntries name files := by
  change Reply.file (m.database.getFile name) (m.database.hasFile name) = _
  unfold Database.getFile Database.hasFile
  rw [h]
  simp only [bind, Except.bind, pure, Except.pure, Reply.ofEntries, readEntry]
  rfl

/-- With another table of files, the same is said of the document, and of the files that are the
same in both. -/
theorem reply_of_files (h : m.database.entries = .ok files) {files' : Entries Bytes}
    (hfile : ∀ name, q = .file name → files'.find? name = files.find? name) :
    reply q { m with database.files := some files' } = reply q m := by
  cases q with
  | document => rfl
  | file name =>
      have h' := Database.entries_of_files h files'
      rw [reply_file (m := { m with database.files := some files' }) h', reply_file h,
        Reply.ofEntries_congr (hfile name rfl)]

theorem reply_perform (h : deed.subject ≠ q) (m : DatabaseMedium) :
    reply q (perform deed m) = reply q m := by
  cases deed with
  | persist id d =>
      cases q with
      | document => exact absurd rfl h
      | file other =>
          have hstep := persists id d m
          change reply _ (m.persist id d).2 = _
          generalize m.persist id d = outcome at hstep
          cases hstep <;> rfl
  | putFile name bytes =>
      rw [perform]
      rcases m.putFile_cases name bytes with ⟨cause, hput⟩ | ⟨files, hfiles, hput⟩
      · rw [hput]
      · rw [hput]
        refine reply_of_files hfiles fun other hother => ?_
        exact Entries.find?_put_of_ne (ne_of_file (hother ▸ h)) bytes files
  | eraseFile name =>
      rw [perform]
      rcases m.eraseFile_cases name with ⟨cause, herase⟩ | ⟨files, hfiles, herase⟩
      · rw [herase]
      · rw [herase]
        refine reply_of_files hfiles fun other hother => ?_
        exact Entries.find?_erase_of_ne (ne_of_file (hother ▸ h)) files

theorem getFile_of_putFile {bytes : Bytes} {m' : DatabaseMedium}
    (h : Medium.putFile name bytes m = (.ok (), m')) : Medium.getFile name m' = .ok bytes := by
  rcases m.putFile_cases name bytes with ⟨cause, hput⟩ | ⟨files, hfiles, hput⟩
  · rw [hput] at h
    cases h
  · rw [hput] at h
    cases h
    have hreply := reply_file (m := { m with database.files := some (files.put name bytes) })
      (Database.entries_of_files hfiles _) name
    rw [reply, Reply.ofEntries, readEntry_put] at hreply
    exact (Reply.file.inj hreply).1

end DatabaseMedium

/-! ## Files -/

namespace FileMedium

def pathOf (m : FileMedium) : Subject → String
  | .document => m.path
  | .file name => m.beside name

/-- Whether what is done to one subject can be seen at another one: the path of the first leads to
the file that the path of the second leads to, or gets stuck at. -/
def Reaches (m : FileMedium) (subject q : Subject) : Prop :=
  ∃ loc, m.disk.locate (m.pathOf subject) = .ok loc ∧ m.disk.site? (m.pathOf q) = some loc

theorem hasFile_eq_peek (name : String) (m : FileMedium) :
    m.hasFile name = match m.disk.peek (m.beside name) with
      | .ok _ => .ok true
      | .error .missing => .ok false
      | .error .unusable => .error .io := by
  unfold hasFile Disk.peek
  cases m.disk.find (m.beside name) with
  | ok n => rfl
  | error fault => cases fault <;> rfl

theorem reply_congr {m m' : FileMedium} (hpath : m'.path = m.path)
    (h : m'.disk.peek (m.pathOf q) = m.disk.peek (m.pathOf q)) : reply q m' = reply q m := by
  have hread := Disk.read_congr h
  cases q with
  | document =>
      change Reply.document m'.load = .document m.load
      rw [load, load, hpath]
      rw [show m'.disk.read m.path = m.disk.read m.path from hread]
  | file name =>
      have hbeside : m'.beside name = m.beside name := by rw [beside, beside, hpath]
      change Reply.file (m'.getFile name) (m'.hasFile name) =
        .file (m.getFile name) (m.hasFile name)
      rw [hasFile_eq_peek, hasFile_eq_peek, getFile, getFile, hbeside]
      rw [show m'.disk.peek (m.beside name) = m.disk.peek (m.beside name) from h,
        show m'.disk.read (m.beside name) = m.disk.read (m.beside name) from hread]

/-- All that a deed can do: nothing, or something with the file that its path leads to. -/
theorem perform_cases (deed : Deed) (m : FileMedium) :
    perform deed m = m ∨ ∃ loc disk, m.disk.locate (m.pathOf deed.subject) = .ok loc ∧
      m.disk.DifferAt loc disk ∧ perform deed m = { m with disk } := by
  have hreplace (path : String) (bytes : Bytes) : m.replace path bytes = .error .io ∨
      ∃ loc disk, m.disk.locate path = .ok loc ∧ m.disk.DifferAt loc disk ∧
        m.replace path bytes = .ok { m with disk } := by
    unfold replace
    cases hdisk : m.disk.replace path bytes with
    | error fault => exact Or.inl rfl
    | ok disk =>
        obtain ⟨loc, hlocate, hdiffer⟩ := Disk.differAt_of_replace hdisk
        exact Or.inr ⟨loc, disk, hlocate, hdiffer, rfl⟩
  cases deed with
  | persist id d =>
      change (m.persist d).2 = m ∨ ∃ loc disk, _ ∧ _ ∧ (m.persist d).2 = _
      unfold persist
      dsimp only
      rcases hreplace m.path (m.codec.encode d) with hfails | ⟨loc, disk, hlocate, hdiffer, hdone⟩
      · rw [hfails]
        exact Or.inl rfl
      · rw [hdone]
        exact Or.inr ⟨loc, disk, hlocate, hdiffer, rfl⟩
  | putFile name bytes =>
      change (Medium.outcome m id _).2 = m ∨ ∃ loc disk, _ ∧ _ ∧ (Medium.outcome m id _).2 = _
      rcases hreplace (m.beside name) bytes with hfails | ⟨loc, disk, hlocate, hdiffer, hdone⟩
      · rw [hfails]
        exact Or.inl rfl
      · rw [hdone]
        exact Or.inr ⟨loc, disk, hlocate, hdiffer, rfl⟩
  | eraseFile name =>
      change (Medium.outcome m id _).2 = m ∨ ∃ loc disk, _ ∧ _ ∧ (Medium.outcome m id _).2 = _
      unfold eraseFile
      cases hdisk : m.disk.remove (m.beside name) with
      | error fault => cases fault <;> exact Or.inl rfl
      | ok disk =>
          obtain ⟨loc, hlocate, hdiffer⟩ := Disk.differAt_of_remove hdisk
          exact Or.inr ⟨loc, disk, hlocate, hdiffer, rfl⟩

theorem reply_perform {m : FileMedium} (h : ¬m.Reaches deed.subject q) :
    reply q (perform deed m) = reply q m := by
  rcases perform_cases deed m with heq | ⟨loc, disk, hlocate, hdiffer, heq⟩
  · rw [heq]
  · rw [heq]
    exact reply_congr rfl (hdiffer.peek_eq fun hsite => h ⟨loc, hlocate, hsite⟩)

theorem reaches_perform {m : FileMedium} {subject : Subject}
    (h : (perform deed m).Reaches subject q) : m.Reaches subject q := by
  rcases perform_cases deed m with heq | ⟨loc, disk, hlocate, hdiffer, heq⟩
  · rwa [heq] at h
  · rw [heq] at h
    obtain ⟨there, hthere, hsite⟩ := h
    refine ⟨there, hdiffer.symm.locate_eq_ok hthere, ?_⟩
    rw [← hdiffer.site?_eq]
    exact hsite

theorem putFile_of_locate {name : String} {m : FileMedium} {loc : Location}
    (h : m.disk.locate (m.beside name) = .ok loc) (hnot : ¬m.disk.root.HasDirectory loc)
    (bytes : Bytes) : (Medium.putFile name bytes m).1 = .ok () := by
  change (Medium.outcome m id (m.replace (m.beside name) bytes)).1 = .ok ()
  rw [replace, Disk.replace_of_locate h hnot]
  rfl

theorem path_of_putFile {name : String} {bytes : Bytes} {m m' : FileMedium}
    (h : Medium.putFile name bytes m = (.ok (), m')) : m'.path = m.path :=
  (congrArg (·.2.path) h).symm.trans (m.path_putFile name bytes)

theorem read_of_putFile {name path : String} {bytes : Bytes} {m m' : FileMedium}
    (h : Medium.putFile name bytes m = (.ok (), m'))
    (hsame : m.disk.locate path = m.disk.locate (m.beside name)) :
    m'.disk.read path = .ok bytes := by
  change Medium.outcome m id (m.replace (m.beside name) bytes) = _ at h
  unfold replace at h
  cases hdisk : m.disk.replace (m.beside name) bytes with
  | error fault =>
      rw [hdisk] at h
      cases h
  | ok disk =>
      rw [hdisk] at h
      cases h
      exact Disk.read_of_replace hdisk hsame

theorem load_of_putFile {name : String} {bytes : Bytes} {m m' : FileMedium}
    (h : Medium.putFile name bytes m = (.ok (), m'))
    (hsame : m.disk.locate m.path = m.disk.locate (m.beside name)) :
    Medium.load m' = .ok (some bytes) := by
  change m'.load = _
  rw [load, path_of_putFile h]
  rw [read_of_putFile h hsame]

theorem getFile_of_putFile {name other : String} {bytes : Bytes} {m m' : FileMedium}
    (h : Medium.putFile name bytes m = (.ok (), m'))
    (hsame : m.disk.locate (m.beside other) = m.disk.locate (m.beside name)) :
    Medium.getFile other m' = .ok bytes := by
  change m'.getFile other = _
  rw [getFile, beside, path_of_putFile h]
  rw [show m'.disk.read (Path.join (Path.parent m.path) other) = _ from read_of_putFile h hsame]

theorem names_pathOf {m : FileMedium} {document : String}
    (hdocument : Path.fileName? m.path = some document) (hq : q.IsPlain) :
    Path.names (m.pathOf q) = (Path.names m.path).dropLast ++ [q.name document] := by
  cases q with
  | document =>
      obtain ⟨before, hnames⟩ :=
        List.getLast?_eq_some_iff.mp (Option.filter_eq_some_iff.mp hdocument).1
      change Path.names m.path = (Path.names m.path).dropLast ++ [document]
      rw [hnames, List.dropLast_concat]
  | file name =>
      change Path.names (Path.join (Path.parent m.path) name) = _
      rw [Path.names_join _ (Path.isAbsolute_of_names_eq hq.1), Path.names_parent, hq.1]
      rfl

/-- Files of different names in the directory of the document are not in each other's way, nor in
that of the document. -/
theorem not_reaches_of_ne {m : FileMedium} {document : String} {subject : Subject}
    (habsolute : Path.isAbsolute m.path = true)
    (hdocument : Path.fileName? m.path = some document) (hsubject : subject.IsPlain)
    (hq : q.IsPlain) (hne : q.name document ≠ subject.name document) : ¬m.Reaches subject q := by
  have hpath (subject : Subject) : Path.isAbsolute (m.pathOf subject) = true := by
    cases subject with
    | document => exact habsolute
    | file name => exact Path.isAbsolute_join (Path.isAbsolute_parent m.path) name
  have hup : subject.name document ≠ ".." := by
    cases subject with
    | document => exact of_decide_eq_true (Option.filter_eq_some_iff.mp hdocument).2
    | file name => exact hsubject.2
  rintro ⟨loc, hlocate, hsite⟩
  exact Disk.site?_ne_of_names (hpath subject) (hpath q) (names_pathOf hdocument hsubject)
    (names_pathOf hdocument hq) hup hne hlocate hsite

theorem mk_perform (deed : Deed) (m : FileMedium) :
    (⟨m.path, (perform deed m).disk⟩ : FileMedium) = perform deed m := by
  rcases perform_cases deed m with heq | ⟨_, _, _, _, heq⟩ <;> rw [heq]

end FileMedium

/-! ## Places -/

theorem DatabaseMedium.reply_congr {m m' : DatabaseMedium} (h : m'.database = m.database) :
    reply q m' = reply q m := by
  cases q with
  | document =>
      change Reply.document (Except.map _ m'.database.active?) = .document m.load
      rw [h]
      rfl
  | file name =>
      change Reply.file (m'.database.getFile name) (m'.database.hasFile name) = _
      rw [h]
      rfl

namespace Place

/-- Whether what is done to one subject can be seen at another one. Only files on a disk can be in
the way of each other. -/
def Reaches (p : Place) (subject q : Subject) : Prop :=
  match p.backend with
  | .file path => FileMedium.Reaches ⟨path, p.disk⟩ subject q
  | .memory _ | .slot _ | .database _ _ _ => subject = q

theorem reply_state (q : Subject) (p : Place) : reply q p = reply q p.view.state := by
  cases q <;> rfl

theorem perform_state (deed : Deed) (p : Place) :
    perform deed p = p.view.put (perform deed p.view.state) := by
  cases deed <;> rfl

theorem reply_perform {p : Place} (h : ¬p.Reaches deed.subject q) :
    reply q (perform deed p) = reply q p := by
  obtain ⟨backend, disk⟩ := p
  rw [perform_state, reply_state, reply_state]
  cases backend with
  | memory m => exact m.reply_perform h
  | slot m => exact m.reply_perform h
  | file path =>
      let m : FileMedium := ⟨path, disk⟩
      change reply q (⟨m.path, (perform deed m).disk⟩ : FileMedium) = reply q m
      rw [m.mk_perform deed]
      exact FileMedium.reply_perform h
  | database target limit handle =>
      let m : DatabaseMedium := ⟨target, limit, disk.database handle⟩
      by_cases hrange : handle < disk.databases.length
      · exact (DatabaseMedium.reply_congr (m := perform deed m)
          (Disk.database_setDatabase hrange _)).trans (m.reply_perform h)
      · -- A handle that stands for no database stands for none afterwards.
        exact DatabaseMedium.reply_congr (congrArg (Disk.database handle)
          (Disk.setDatabase_of_le (Nat.le_of_not_lt hrange) _))

theorem reaches_perform {p : Place} {subject : Subject}
    (h : (perform deed p).Reaches subject q) : p.Reaches subject q := by
  obtain ⟨backend, disk⟩ := p
  rw [perform_state] at h
  cases backend with
  | memory | slot | database => exact h
  | file path =>
      let m : FileMedium := ⟨path, disk⟩
      change FileMedium.Reaches ⟨m.path, (perform deed m).disk⟩ subject q at h
      rw [m.mk_perform deed] at h
      exact FileMedium.reaches_perform h

theorem reply_performAll {p : Place} {deeds : List Deed}
    (h : ∀ deed ∈ deeds, ¬p.Reaches deed.subject q) :
    reply q (performAll deeds p) = reply q p := by
  induction deeds generalizing p with
  | nil => rfl
  | cons deed deeds ih =>
      have hrest := ih (p := perform deed p) fun later hlater hreaches =>
        h later (List.mem_cons_of_mem deed hlater) (reaches_perform hreaches)
      exact hrest.trans (reply_perform (h deed List.mem_cons_self))

theorem getFile_of_putFile {name : String} {bytes : Bytes} {p p' : Place}
    (h : Medium.putFile name bytes p = (.ok (), p')) : Medium.getFile name p' = .ok bytes := by
  obtain ⟨backend, disk⟩ := p
  cases backend with
  | memory m =>
      cases h
      exact readEntry_put name bytes m.files
  | slot m =>
      cases h
      exact readEntry_put name bytes m.files
  | file path =>
      let m : FileMedium := ⟨path, disk⟩
      change ((Medium.putFile name bytes m).1,
        (⟨.file path, (Medium.putFile name bytes m).2.disk⟩ : Place)) = _ at h
      obtain ⟨hdone, rfl⟩ := Prod.mk.inj h
      change Medium.getFile name
        (⟨m.path, (perform (.putFile name bytes) m).disk⟩ : FileMedium) = _
      rw [m.mk_perform]
      exact FileMedium.getFile_of_putFile (Prod.ext hdone rfl) rfl
  | database target limit handle =>
      let m : DatabaseMedium := ⟨target, limit, disk.database handle⟩
      change ((Medium.putFile name bytes m).1, (⟨.database target limit handle,
        disk.setDatabase handle (Medium.putFile name bytes m).2.database⟩ : Place)) = _ at h
      obtain ⟨hdone, rfl⟩ := Prod.mk.inj h
      have hrange : handle < disk.databases.length := by
        refine Nat.lt_of_not_le fun hout => ?_
        rcases m.putFile_cases name bytes with ⟨cause, hput⟩ | ⟨files, hfiles, _⟩
        · rw [hput] at hdone
          cases hdone
        · -- Where there is no database, there is no table of files.
          change (disk.database handle).entries = _ at hfiles
          rw [Disk.database_of_le hout] at hfiles
          cases hfiles
      change (Disk.database handle (Disk.setDatabase handle _ disk)).getFile name = _
      rw [Disk.database_setDatabase hrange]
      exact DatabaseMedium.getFile_of_putFile (Prod.ext hdone rfl)

/-- What is said of a subject stays the same whatever is done to others that do not reach it, and
what was written to a file is read from it. -/
theorem replies_apart (p : Place) (deeds : List Deed) :
    (∀ q, (∀ deed ∈ deeds, ¬p.Reaches deed.subject q) →
      reply q (performAll deeds p) = reply q p) ∧
    ∀ name bytes p', Medium.putFile name bytes (performAll deeds p) = (.ok (), p') →
      Medium.getFile name p' = .ok bytes :=
  ⟨fun _ => reply_performAll, fun _ _ _ => getFile_of_putFile⟩

/-- A file that is written beside the document has its content, and the document is as before. -/
theorem replies_apart_in_directory :
    let document := "{}".toUTF8
    let p := openFile "/work/settings.json" (Disk.withSettings document)
    let bytes := "logo".toUTF8
    let p' := performAll [.putFile "logo.png" bytes] p
    Medium.load p = .ok (some document) ∧ Medium.load p' = .ok (some document) ∧
      Medium.getFile "logo.png" p' = .ok bytes := by
  intro document p bytes p'
  let m := FileMedium.ofPath "/work/settings.json" (Disk.withSettings document)
  have hpath : m.path = "/work/settings.json" := Path.join_of_isAbsolute _ (by decide +kernel)
  have hbeside : m.beside "logo.png" = "/work/logo.png" := by decide +kernel
  have hlogo : m.disk.locate (m.beside "logo.png") = .ok ["work", "logo.png"] := by
    rw [hbeside]
    exact Disk.locate_of_pieces (by decide +kernel) (by decide +kernel) (by decide +kernel)
      (show _ = ["", "work", "logo.png"] by decide +kernel) (by rfl)
  have hput : Medium.putFile "logo.png" bytes p = (.ok (), p') :=
    Prod.ext (FileMedium.putFile_of_locate hlogo (by decide +kernel) bytes) rfl
  have habsolute : Path.isAbsolute m.path = true := by
    rw [hpath]
    decide +kernel
  have hname : Path.fileName? m.path = some "settings.json" := by
    rw [hpath]
    decide +kernel
  have hapart : ∀ deed ∈ [Deed.putFile "logo.png" bytes], ¬p.Reaches deed.subject .document := by
    intro deed hdeed
    rw [List.mem_singleton.mp hdeed]
    exact FileMedium.not_reaches_of_ne (m := m) habsolute hname ⟨by decide +kernel, by decide⟩
      trivial (by decide)
  have hload : Medium.load p = .ok (some document) := by
    change m.load = _
    rw [FileMedium.load, hpath, show m.disk.read _ = _ from Disk.read_withSettings document]
  have hsame := (replies_apart p [.putFile "logo.png" bytes]).1 .document hapart
  exact ⟨hload, (Reply.document.inj hsame).trans hload,
    (replies_apart p []).2 "logo.png" bytes p' hput⟩

end Place

/-- The name of a file can be that of the document, and a file can have two names. -/
theorem FileMedium.replies_not_apart :
    let m := ofPath "settings.json" (Disk.ofHome "/work")
    let bytes := "logo".toUTF8
    let after (name : String) := Medium.putFile name bytes m
    (after "settings.json").1 = .ok () ∧ Medium.load m = .ok none ∧
      Medium.load (after "settings.json").2 = .ok (some bytes) ∧
      (after "./logo.png").1 = .ok () ∧
      Medium.getFile "logo.png" m = .error (.fileNotFound "logo.png") ∧
      Medium.getFile "logo.png" (after "./logo.png").2 = .ok bytes := by
  intro m bytes after
  have hdocument : m.disk.locate m.path = .ok ["work", "settings.json"] :=
    Disk.locate_of_pieces (by decide +kernel) (by decide +kernel) (by decide +kernel)
      (show _ = ["", "work", "settings.json"] by decide +kernel) (by rfl)
  have hsettings : m.beside "settings.json" = m.path := by decide +kernel
  have hlogo : m.disk.locate (m.beside "logo.png") = .ok ["work", "logo.png"] :=
    Disk.locate_of_pieces (by decide +kernel) (by decide +kernel) (by decide +kernel)
      (show _ = ["", "work", "logo.png"] by decide +kernel) (by rfl)
  have hdotted : m.disk.locate (m.beside "./logo.png") = .ok ["work", "logo.png"] :=
    Disk.locate_of_pieces (by decide +kernel) (by decide +kernel) (by decide +kernel)
      (show _ = ["", "work", ".", "logo.png"] by decide +kernel) (by rfl)
  have hfirst : (after "settings.json").1 = .ok () :=
    putFile_of_locate (hsettings.symm ▸ hdocument) (by decide +kernel) bytes
  have hsecond : (after "./logo.png").1 = .ok () :=
    putFile_of_locate hdotted (by decide +kernel) bytes
  have hvacant (path : String) (loc : Location) (hlocate : m.disk.locate path = .ok loc)
      (hnone : m.disk.root.find? loc = none) : m.disk.read path = .error .missing := by
    simp only [Disk.read, Disk.find, hlocate, hnone, bind, Except.bind]
    rfl
  refine ⟨hfirst, ?_, ?_, hsecond, ?_, ?_⟩
  · change m.load = _
    rw [load, hvacant _ _ hdocument rfl]
  · exact load_of_putFile (Prod.ext hfirst rfl) (congrArg (m.disk.locate ·) hsettings.symm)
  · change m.getFile _ = _
    rw [getFile, hvacant _ _ hlogo rfl]
  · exact getFile_of_putFile (Prod.ext hsecond rfl) (hlogo.trans hdotted.symm)

end SettingsStore
