import SettingsStore.Proofs.Disk.Relative
import SettingsStore.Proofs.Disk.Reopen
import SettingsStore.Proofs.Store.Contents
import SettingsStore.Proofs.Store.Dsn
import SettingsStore.Proofs.Store.Failure
import SettingsStore.Store.Open

/-!
# Failed openings

Opening a store can fail after it wrote to the disk: a new database has been made by then. But the
document is where it was, or there still is none, unless it was loaded and only watching it failed.
A document that was read is written back if it can be put to use, and watching begins afterwards, so
the system that refuses to watch refuses too late. One that watches whatever there is never does,
because whoever wrote a document finds the directory to watch. For that, the working directory must
have an absolute path, as it always has.
-/

namespace SettingsStore

/-- What is found where a data source name points. -/
def Dsn.found (limit : Nat) (disk : Disk) (dsn : Dsn) : Except PersistenceError (Option Bytes) :=
  (dsn.place limit disk).bind Medium.load

theorem Place.openFile_of_isAbsolute {path : String} (h : Path.isAbsolute path = true)
    (disk : Disk) : openFile path disk = ⟨.file path, disk⟩ := by
  rw [openFile, FileMedium.ofPath, Path.join_of_isAbsolute _ h]

theorem Dsn.found_of_read {limit : Nat} {disk : Disk} {path : String} {bytes : Bytes}
    (h : Path.isAbsolute path = true) (hread : disk.read path = .ok bytes) :
    found limit disk (.file path) = .ok (some bytes) := by
  change Medium.load (Place.openFile path disk) = _
  rw [Place.openFile_of_isAbsolute h]
  exact FileMedium.load_of_read hread

theorem Database.prepare_prepare {db db' : Database} (h : db.prepare = .ok db') :
    db'.prepare = .ok db' := by
  unfold prepare at h
  split at h
  · cases h
  · next hlocked =>
      cases h
      exact if_neg hlocked

namespace Place

variable {target : Target} {limit handle : Nat} {disk : Disk} {p : Place}

def ofDatabase (target : Target) (limit : Nat) (opened : Nat × Disk) :
    Except PersistenceError Place :=
  (opened.2.database opened.1).prepare.map fun database =>
    ⟨.database target limit opened.1, opened.2.setDatabase opened.1 database⟩

/-- A database is a new one each time, or it is in a file. -/
theorem openDatabase_cases (target : Target) (limit : Nat) :
    (∀ d, openDatabase target limit d = .error .database) ∨
    (∀ d : Disk, openDatabase target limit d = ofDatabase target limit d.newDatabase) ∨
    ∃ path, ∀ d : Disk, openDatabase target limit d =
      match d.openFile path with
      | none => .error .database
      | some opened => ofDatabase target limit opened := by
  have hprepare (opened : Nat × Disk) : (do
      let database ← (opened.2.database opened.1).prepare
      return (⟨.database target limit opened.1, opened.2.setDatabase opened.1 database⟩ : Place)) =
        ofDatabase target limit opened := by
    unfold ofDatabase
    cases (opened.2.database opened.1).prepare <;> rfl
  cases target with
  | memory => exact Or.inr (Or.inl fun d => hprepare d.newDatabase)
  | named name =>
      rcases Disk.openNamed_cases name with h | h | ⟨path, h⟩
      · exact Or.inl fun d => by simp only [openDatabase, h]
      · exact Or.inr (Or.inl fun d => by simpa only [openDatabase, h] using hprepare d.newDatabase)
      · refine Or.inr (Or.inr ⟨path, fun d => ?_⟩)
        simp only [openDatabase, h]
        cases d.openFile path with
        | none => rfl
        | some opened => exact hprepare opened

theorem backend_of_ofDatabase {opened : Nat × Disk} (h : ofDatabase target limit opened = .ok p) :
    p.backend = .database target limit opened.1 := by
  unfold ofDatabase at h
  cases hprepare : (opened.2.database opened.1).prepare with
  | error cause =>
      rw [hprepare] at h
      cases h
  | ok database =>
      rw [hprepare] at h
      cases h
      rfl

theorem backend_of_openDatabase (h : openDatabase target limit disk = .ok p) :
    ∃ handle, p.backend = .database target limit handle := by
  rcases openDatabase_cases target limit with hplace | hplace | ⟨path, hplace⟩
  · rw [hplace] at h
    cases h
  · rw [hplace] at h
    exact ⟨_, backend_of_ofDatabase h⟩
  · rw [hplace] at h
    split at h
    · cases h
    · exact ⟨_, backend_of_ofDatabase h⟩

theorem load_of_newDatabase (target : Target) (limit : Nat) (d : Disk) :
    (ofDatabase target limit d.newDatabase).bind Medium.load = .ok none := by
  rw [ofDatabase, d.database_newDatabase]
  change DatabaseMedium.load ⟨target, limit, Disk.database _ (Disk.setDatabase _ _ _)⟩ = _
  rw [Disk.database_setDatabase d.newDatabase_lt]
  rfl

theorem ofDatabase_again (h : ofDatabase target limit (handle, disk) = .ok p) :
    ∃ database, p.disk = disk.setDatabase handle database ∧
      ofDatabase target limit (handle, p.disk) = .ok p := by
  unfold ofDatabase at h
  cases hprepare : (disk.database handle).prepare with
  | error cause =>
      rw [hprepare] at h
      cases h
  | ok database =>
      rw [hprepare] at h
      cases h
      refine ⟨database, rfl, ?_⟩
      dsimp only [ofDatabase]
      by_cases hrange : handle < disk.databases.length
      · have hdatabase := Disk.database_setDatabase hrange database
        have hsame := Disk.setDatabase_database handle (disk.setDatabase handle database)
        rw [hdatabase] at hsame
        rw [hdatabase, Database.prepare_prepare hprepare, Except.map, hsame]
      · have hsame := Disk.setDatabase_of_le (Nat.le_of_not_lt hrange) database
        rw [hsame, hprepare, Except.map, hsame]

end Place

/-- Going to a place does not change what is found there. -/
theorem Dsn.found_of_place {dsn : Dsn} {limit : Nat} {disk : Disk} {p : Place}
    (h : dsn.place limit disk = .ok p) : dsn.found limit p.disk = dsn.found limit disk := by
  cases dsn with
  | memory =>
      cases h
      rfl
  | file path =>
      cases h
      rfl
  | database target =>
      unfold found
      dsimp only [Dsn.place] at h ⊢
      rcases Place.openDatabase_cases target limit with hplace | hplace | ⟨path, hplace⟩
      · rw [hplace, hplace]
      · rw [hplace, hplace, Place.load_of_newDatabase, Place.load_of_newDatabase]
      · -- The file has the database from now on, also if it was made just now.
        have hp := h
        rw [hplace] at h
        split at h
        · cases h
        · next opened hopen =>
            obtain ⟨handle, disk'⟩ := opened
            obtain ⟨database, hdisk, hagain⟩ := Place.ofDatabase_again h
            have hfile := Disk.openFile_setDatabase hopen database
            rw [← hdisk] at hfile
            rw [hplace p.disk, hfile, hp]
            exact congrArg (Except.bind · Medium.load) hagain

/-! ## Watching -/

namespace Place

/-- A place in a file is at an absolute path. -/
def IsRooted (p : Place) : Prop := ∀ path, p.backend = .file path → Path.isAbsolute path = true

theorem isRooted_of_place {dsn : Dsn} {limit : Nat} {disk : Disk} {p : Place}
    (hhome : Path.isAbsolute disk.home = true) (h : dsn.place limit disk = .ok p) :
    p.IsRooted := by
  intro path hpath
  cases dsn with
  | memory =>
      cases h
      cases hpath
  | file text =>
      cases h
      cases hpath
      exact Path.isAbsolute_join hhome text
  | database target =>
      obtain ⟨handle, hdatabase⟩ := backend_of_openDatabase h
      rw [hdatabase] at hpath
      cases hpath

/-- Whoever wrote a document finds the directory to watch. -/
theorem isWatchable_of_persist {notifier : Notifier} (hn : notifier.IsUnlimited) {p p' : Place}
    (hp : p.IsRooted) {id : String} {d : Document} {bytes : Bytes}
    (h : Medium.persist id d p = (.ok bytes, p')) : p'.isWatchable notifier = true := by
  obtain ⟨backend, disk⟩ := p
  obtain rfl : _ = p' := congrArg Prod.snd h
  have hbytes := congrArg Prod.fst h
  cases backend with
  | memory | slot | database => rfl
  | file path =>
      change (FileMedium.persist d ⟨path, disk⟩).1 = _ at hbytes
      refine hn _ _ ?_
      change (Disk.find _ (FileMedium.persist d ⟨path, disk⟩).2.disk).isOk = true
      unfold FileMedium.persist FileMedium.replace at hbytes ⊢
      dsimp only at hbytes ⊢
      cases hdisk : disk.replace path (FileMedium.codec ⟨path, disk⟩ |>.encode d) with
      | error fault =>
          rw [hdisk] at hbytes
          cases hbytes
      | ok after => exact Disk.isOk_find_parent_of_replace (hp path rfl) hdisk

end Place

/-! ## Opening -/

namespace Store

variable {σ κ : Type} [Medium σ] {options : Options} {salt : String} {fresh : Fresh}

/-- A load that saves nothing leaves the medium alone, and one that saves stores a document. -/
theorem medium_of_load {s s' : Store σ κ} {loaded : Loaded}
    (h : s.load fresh = (.ok loaded, s')) :
    loaded.saved = false ∧ s'.medium = s.medium ∨
      loaded.saved = true ∧
        ∃ id d bytes, Medium.persist id d s.medium = (.ok bytes, s'.medium) := by
  rcases s.load_cases fresh with ⟨_, hload⟩ | ⟨bytes, _, hload⟩
  · rw [hload] at h
    cases h
  · rw [hload] at h
    rcases s.loadBytes_cases fresh bytes with ⟨_, _, _, hbytes⟩ |
      ⟨d, needsSave, e, written, medium, _, _, hw, hbytes⟩
    · rw [hbytes] at h
      cases h
    · rw [hbytes] at h
      cases h
      cases needsSave with
      | false =>
          cases hw
          exact Or.inl ⟨rfl, rfl⟩
      | true =>
          by_cases hread : s.options.readOnly = true
          · rw [if_pos rfl, writeBack, if_pos hread] at hw
            cases hw
            exact Or.inl ⟨rfl, rfl⟩
          · obtain ⟨b, rfl, hpersist⟩ := writeBack_eq_ok (Bool.not_eq_true _ ▸ hread) hw
            exact Or.inr ⟨rfl, _, _, b, hpersist⟩

theorem medium_of_openMedium_error {medium : σ} (hm : Medium.Atomic medium)
    (h : (openMedium options salt fresh medium : _ × Store σ κ).1.isOk = false) :
    (openMedium options salt fresh medium : _ × Store σ κ).2.medium = medium := by
  have hsame : (openMedium options salt fresh medium).2 =
      (ofMedium options salt medium : Store σ κ) :=
    snd_eq_of_not_isOk (load_error hm) ((Bool.not_eq_true' _).mpr h)
  rw [hsame]
  rfl

/-- An opening that loaded a document and saved it, and then could not watch the place. -/
structure SavedUnwatched (notifier : Notifier) (options : Options) (salt : String) (fresh : Fresh)
    (p : Place) (opened : Opened κ) : Prop where
  result : opened.result = .error .unwatchable
  load : ∃ (loaded : Loaded) (s : Store Place κ),
    openMedium options salt fresh p = (.ok loaded, s) ∧ loaded.saved = true ∧
      s.medium.isWatchable notifier = false ∧ opened.disk = s.medium.disk

variable {notifier : Notifier}

theorem openPlace_error {p : Place}
    (h : (openPlace notifier options salt fresh p : Opened κ).result.isOk = false) :
    (openPlace notifier options salt fresh p : Opened κ).disk = p.disk ∨
      SavedUnwatched notifier options salt fresh p
        (openPlace notifier options salt fresh p : Opened κ) := by
  have hfails (hnot : (openMedium options salt fresh p : _ × Store Place κ).1.isOk = false) :=
    medium_of_openMedium_error (ReliableMedium.atomic p) hnot
  unfold openPlace at h ⊢
  cases hopen : (openMedium options salt fresh p : _ × Store Place κ) with
  | mk loaded s =>
      rw [hopen] at h hfails
      cases loaded with
      | error cause => exact Or.inl (congrArg Place.disk (hfails rfl))
      | ok loaded =>
          rcases medium_of_load hopen with ⟨_, hsame⟩ | ⟨hsaved, _⟩
          · exact Or.inl (congrArg Place.disk hsame)
          · by_cases hunwatched : (options.watch && !s.medium.isWatchable notifier) = true
            · simp only [hunwatched, if_true]
              have hwatch := (Bool.and_eq_true_iff.mp hunwatched).2
              exact Or.inr ⟨rfl, loaded, s, hopen, hsaved, (Bool.not_eq_true' _).mp hwatch, rfl⟩
            · simp only [hunwatched] at h
              cases h

theorem openMedium_eq_loadBytes {p : Place} {bytes : Option Bytes}
    (hload : Medium.load p = .ok bytes) :
    (openMedium options salt fresh p : _ × Store Place κ) =
      (ofMedium options salt p).loadBytes fresh bytes := by
  change (ofMedium options salt p : Store Place κ).load fresh = _
  rw [load, show Medium.load (ofMedium options salt p : Store Place κ).medium = _ from hload]

theorem openPlace_of_undecodable {p : Place} {bytes : Option Bytes} {cause : DecodeError}
    (hload : Medium.load p = .ok bytes)
    (hd : (ofMedium options salt p : Store Place κ).decode fresh.salt (content bytes) =
      .error cause) :
    (openPlace notifier options salt fresh p : Opened κ) =
      ⟨.error (.undecodable cause), p.disk⟩ := by
  rw [openPlace, openMedium_eq_loadBytes hload, loadBytes_of_undecodable hd]
  rfl

/-- A document that needed to be saved stays on the medium when watching it is refused. -/
theorem openPlace_of_refused {p p' : Place} {bytes : Option Bytes} {d : Document} {e : Effective}
    {b : Bytes} (hwatch : options.watch = true) (hwrite : options.readOnly = false)
    (hload : Medium.load p = .ok bytes)
    (hd : (ofMedium options salt p : Store Place κ).decode fresh.salt (content bytes) =
      .ok (d, true))
    (he : options.effective d = .ok e)
    (hpersist : Medium.persist fresh.revision d p = (.ok b, p'))
    (hrefused : p'.isWatchable notifier = false) :
    (openPlace notifier options salt fresh p : Opened κ) = ⟨.error .unwatchable, p'.disk⟩ := by
  let s : Store Place κ := ofMedium options salt p
  have hw : (if true then s.writeBack fresh.revision d else (.ok none, s.medium)) =
      (.ok (some b), p') := by
    rw [if_pos rfl, writeBack, show s.options.readOnly = false from hwrite]
    simp only [show Medium.persist fresh.revision d s.medium = _ from hpersist]
    rfl
  have hrefuses : (options.watch && !p'.isWatchable notifier) = true := by
    rw [hwatch, hrefused]
    rfl
  rw [openPlace, openMedium_eq_loadBytes hload, loadBytes_of_written hd he hw]
  simp only [adopt, hrefuses]
  rfl

/-- A system that watches whatever there is does not refuse once a document is saved. -/
theorem not_savedUnwatched (hn : notifier.IsUnlimited) {p : Place} (hp : p.IsRooted)
    (opened : Opened κ) : ¬SavedUnwatched notifier options salt fresh p opened := by
  rintro ⟨_, loaded, s, hopen, hsaved, hunwatched, _⟩
  rcases medium_of_load hopen with ⟨hunsaved, _⟩ | ⟨_, id, d, bytes, hpersist⟩
  · rw [hsaved] at hunsaved
    cases hunsaved
  · rw [Place.isWatchable_of_persist hn hp hpersist] at hunwatched
    cases hunwatched

theorem openNamed_of_place {name : String} {disk : Disk} {dsn : Dsn} {p : Place}
    (hdsn : Dsn.parse name = .ok dsn) (hplace : dsn.place options.maxWriteLength disk = .ok p) :
    (openNamed notifier options salt fresh name disk : Opened κ) =
      openPlace notifier options salt fresh p := by
  unfold openNamed
  rw [hdsn]
  simp only [hplace]

theorem found_of_openNamed_error {name : String} {disk : Disk} {dsn : Dsn}
    (hdsn : Dsn.parse name = .ok dsn)
    (h : (openNamed notifier options salt fresh name disk : Opened κ).result.isOk = false) :
    dsn.found options.maxWriteLength
        (openNamed notifier options salt fresh name disk : Opened κ).disk =
      dsn.found options.maxWriteLength disk ∨
    ∃ p, dsn.place options.maxWriteLength disk = .ok p ∧
      SavedUnwatched notifier options salt fresh p
        (openNamed notifier options salt fresh name disk : Opened κ) := by
  cases hplace : dsn.place options.maxWriteLength disk with
  | error cause =>
      unfold openNamed
      rw [hdsn]
      simp only [hplace, true_or]
  | ok p =>
      rw [openNamed_of_place hdsn hplace] at h ⊢
      rcases openPlace_error h with hdisk | hunwatched
      · rw [hdisk]
        exact Or.inl (Dsn.found_of_place hplace)
      · exact Or.inr ⟨p, rfl, hunwatched⟩

/-! ## Failures -/

/-- What fails does not show: an action that fails leaves the whole store as it was, so it can be
left out of a run. An opening that fails leaves the document that is kept as it was, unless it
saved the document and then could not watch it, which happens only where the system refuses to
watch what there is. -/
theorem invisible_of_failure (options : Options) (salt : String) (fresh : Fresh) :
    (∀ (s : Store σ κ) (earlier : List (Action σ κ)) (a : Action σ κ),
      Medium.Atomic (s.run earlier).medium → ((s.run earlier).answer a).isFailure = true →
        (s.run earlier).act a = s.run earlier ∧
        ∀ later, s.run (earlier ++ a :: later) = s.run (earlier ++ later) ∧
          (s.answers (earlier ++ a :: later)).eraseIdx earlier.length =
            s.answers (earlier ++ later)) ∧
    (∀ medium : σ, Medium.Atomic medium →
      (openMedium options salt fresh medium : _ × Store σ κ).1.isOk = false →
        (openMedium options salt fresh medium : _ × Store σ κ).2.medium = medium) ∧
    ∀ (notifier : Notifier) (name : String) (dsn : Dsn) (disk : Disk),
      Dsn.parse name = .ok dsn →
      let opened : Opened κ := openNamed notifier options salt fresh name disk
      let kept (disk : Disk) := dsn.found options.maxWriteLength disk
      opened.result.isOk = false →
        (kept opened.disk = kept disk ∨
          ∃ p, dsn.place options.maxWriteLength disk = .ok p ∧
            SavedUnwatched notifier options salt fresh p opened) ∧
        (notifier.IsUnlimited → Path.isAbsolute disk.home = true →
          kept opened.disk = kept disk) := by
  refine ⟨fun s earlier a hm hfails => ⟨act_eq_self_of_isFailure hm hfails, fun later => ?_⟩,
    fun medium hm h => medium_of_openMedium_error hm h,
    fun notifier name dsn disk hdsn => ?_⟩
  · exact ⟨run_of_isFailure hm hfails later, answers_eraseIdx_of_isFailure hm hfails later⟩
  · intro opened kept h
    refine ⟨found_of_openNamed_error hdsn h, fun hn hhome => ?_⟩
    rcases found_of_openNamed_error hdsn h with hsame | ⟨p, hplace, hunwatched⟩
    · exact hsame
    · exact absurd hunwatched (not_savedUnwatched hn (Place.isRooted_of_place hhome hplace) _)

/-- A policy is refused, a medium fails to keep a document, and a file is not a document. -/
theorem invisible_refusals :
    let salt := "0123456789abcdef0123456789abcdef"
    let fresh : Fresh := ⟨"fedcba9876543210fedcba9876543210", "first"⟩
    let s := (inMemory []).2
    let refused : Action Memory Unit := .set fresh { password := { minimumLength := 1 } }
    let slot := { Slot.holding .json none with failsToPersist := true }
    let path := "/work/settings.json"
    let disk := Disk.withSettings "x".toUTF8
    let opened : Opened Unit := openNamed .unlimited .default salt fresh path disk
    let kept (disk : Disk) := Dsn.found Options.default.maxWriteLength disk (.file path)
    ((s.answer refused).isFailure = true ∧ s.act refused = s ∧
      ∀ later, s.run (refused :: later) = s.run later) ∧
    ((openMedium .default salt fresh slot : _ × Store Slot Unit).1.isOk = false ∧
      (openMedium .default salt fresh slot : _ × Store Slot Unit).2.medium = slot) ∧
    opened.result.isOk = false ∧ kept opened.disk = kept disk := by
  intro salt fresh s refused slot path disk opened kept
  have hset : (s.answer refused).isFailure = true := by decide +kernel
  have hslot : (openMedium .default salt fresh slot : _ × Store Slot Unit).1.isOk = false := by
    decide +kernel
  have hname : Dsn.parse path = .ok (.file path) :=
    Dsn.parse_of_plain (by decide +kernel) (by decide) (by decide) (by decide) (by decide)
  have hplace : Place.openFile path disk = ⟨.file path, disk⟩ :=
    Place.openFile_of_isAbsolute (by decide +kernel) disk
  have hdecode : ((ofMedium .default salt ⟨.file path, disk⟩ : Store Place Unit).decode fresh.salt
      (content (some "x".toUTF8))).isOk = false := by
    decide +kernel
  have hopened : opened.result.isOk = false := by
    obtain ⟨cause, hcause⟩ := exists_error_of_isOk_eq_false hdecode
    rw [show opened = _ from openNamed_of_place hname (congrArg Except.ok hplace),
      openPlace_of_undecodable (FileMedium.load_of_read (Disk.read_withSettings _)) hcause]
    rfl
  obtain ⟨hactions, _, _⟩ := invisible_of_failure (σ := Memory) (κ := Unit) .default salt fresh
  obtain ⟨_, hmedia, hplaces⟩ := invisible_of_failure (σ := Slot) (κ := Unit) .default salt fresh
  obtain ⟨hact, hrun⟩ := hactions s [] refused (ReliableMedium.atomic s.medium) hset
  exact ⟨⟨hset, hact, fun later => (hrun later).1⟩,
    ⟨hslot, hmedia slot (ReliableMedium.atomic slot) hslot⟩,
    hopened, (hplaces .unlimited path _ disk hname hopened).2 (fun _ _ h => h) (by decide +kernel)⟩

/-- A file is completed for a store that then is not opened, because the system refuses to watch
its directory. -/
theorem found_ne_of_refused :
    let path := "/work/settings.json"
    let disk := Disk.withSettings "{}".toUTF8
    let opened : Opened Unit := openNamed (fun _ _ => false) .default
      "0123456789abcdef0123456789abcdef" ⟨"fedcba9876543210fedcba9876543210", "first"⟩ path disk
    let kept (disk : Disk) := Dsn.found Options.default.maxWriteLength disk (.file path)
    Dsn.parse path = .ok (.file path) ∧ opened.result.isOk = false ∧
      kept disk = .ok (some "{}".toUTF8) ∧ kept opened.disk ≠ kept disk := by
  intro path disk opened kept
  let fresh : Fresh := ⟨"fedcba9876543210fedcba9876543210", "first"⟩
  let p : Place := ⟨.file path, disk⟩
  let s : Store Place Unit := ofMedium .default "0123456789abcdef0123456789abcdef" p
  have hname : Dsn.parse path = .ok (.file path) :=
    Dsn.parse_of_plain (by decide +kernel) (by decide) (by decide) (by decide) (by decide)
  have habsolute : Path.isAbsolute path = true := by decide +kernel
  have hplace : Place.openFile path disk = p := Place.openFile_of_isAbsolute habsolute disk
  have hkept : kept disk = .ok (some "{}".toUTF8) :=
    Dsn.found_of_read habsolute (Disk.read_withSettings _)
  -- The document has to be completed, so it is stored before watching can be refused.
  have hdecode : (s.decode fresh.salt (content (some "{}".toUTF8))).toOption.any (fun x =>
      x.2 && (s.options.effective x.1).isOk && decide (x.1 ≠ Document.default)) = true := by
    decide +kernel
  obtain ⟨⟨d, needsSave⟩, hd, hfacts⟩ := exists_ok_of_any hdecode
  simp only [Bool.and_eq_true] at hfacts
  obtain ⟨⟨rfl, hvalid⟩, hcompleted⟩ := hfacts
  obtain ⟨e, he⟩ := exists_ok_of_isOk hvalid
  let written := (Codec.ofPath path).encode d
  let after : Disk := { disk with root := disk.root.put ["work", "settings.json"] (.file written) }
  have hreplace : disk.replace path written = .ok after :=
    Disk.replace_of_locate (Disk.locate_withSettings "{}".toUTF8) (by decide) _
  have hopened : opened = ⟨.error .unwatchable, after⟩ := by
    have hrefused : (openPlace (fun _ _ => false) .default _ fresh p : Opened Unit) =
        ⟨.error .unwatchable, after⟩ :=
      openPlace_of_refused rfl rfl (FileMedium.load_of_read (Disk.read_withSettings _)) hd he
        (Place.persist_of_replace hreplace _) rfl
    rw [← hrefused]
    exact openNamed_of_place hname (congrArg Except.ok hplace)
  have hafter : kept after = .ok (some written) :=
    Dsn.found_of_read habsolute (Disk.read_replace hreplace)
  refine ⟨hname, by rw [hopened]; rfl, hkept, fun hsame => ?_⟩
  rw [hkept, hopened, hafter] at hsame
  have hbytes : written = "{}".toUTF8 := Option.some.inj (Except.ok.inj hsame)
  have hdecoded : (Codec.ofPath path).decode written = .ok d := Codec.decode_encode _ d
  rw [hbytes] at hdecoded
  have hempty : ((Codec.ofPath path).decode "{}".toUTF8).toOption = some .default := by
    decide +kernel
  rw [hdecoded] at hempty
  exact of_decide_eq_true hcompleted (Option.some.inj hempty)

end Store

end SettingsStore
