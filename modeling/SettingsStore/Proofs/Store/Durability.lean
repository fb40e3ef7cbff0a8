import SettingsStore.Proofs.Store.Contents

/-!
# Sets that last

What a set makes the document in use should be in use after a reload, and in a store that is opened
later. A set repairs the document before it puts back what is kept of the leaves that are
overridden, though, and a load repairs the document that it reads. If the environment overrides only
one leaf of a pair that is repaired together, what was put back can be in need of repair, and then
the next load writes another document and can put another one to use. It lasts exactly if the pairs
of the kept document are whole.
-/

namespace SettingsStore

namespace Store

variable {σ κ : Type} {s s' : Store σ κ} {fresh : Fresh}

/-- The pairs of what is kept are whole if none of them is overridden by half. -/
theorem Coherent.isPaired (h : s.Coherent)
    (hfiles : .fileDriver ∈ s.overridden ↔ .fileDirectory ∈ s.overridden)
    (hlocales : .defaultClientLocale ∈ s.overridden ↔ .availableLocales ∈ s.overridden) :
    s.persisted.IsPaired := by
  obtain ⟨n, m, hn, hm, hmixed⟩ := h.mixed
  rw [hmixed]
  exact Document.isPaired_restore hn hm hfiles hlocales

theorem Coherent.isNormal_iff (h : s.Coherent) : s.persisted.IsNormal ↔ s.persisted.IsPaired := by
  obtain ⟨n, m, hn, hm, hmixed⟩ := h.mixed
  rw [hmixed]
  exact Document.isNormal_restore_iff hn hm s.overridden

variable [Medium σ]

/-- A load that has nothing to write, or must not write, adopts what it decoded. -/
theorem loadBytes_unwritten {bytes : Option Bytes} {d : Document} {needsSave : Bool}
    {e : Effective} (hd : s.decode fresh.salt (content bytes) = .ok (d, needsSave))
    (hunwritten : needsSave = true → s.options.readOnly = true)
    (he : s.options.effective d = .ok e) :
    s.loadBytes fresh bytes =
      (.ok ⟨false, decide (s.active ≠ e.document)⟩, (s.adopt d e (content bytes)).2) :=
  loadBytes_of_written hd he (writeBack_of_unwritten hunwritten fresh.revision d)

/-- What makes the document in use again changes nothing but the kept document. -/
theorem loadBytes_unchanged {bytes : Option Bytes} {d : Document} {needsSave : Bool}
    (hd : s.decode fresh.salt (content bytes) = .ok (d, needsSave))
    (hunwritten : needsSave = true → s.options.readOnly = true)
    (he : s.options.effective d = .ok ⟨s.active, s.overridden⟩)
    (hsynced : s.synced = content bytes) :
    s.loadBytes fresh bytes = (.ok ⟨false, false⟩, { s with persisted := d }) := by
  rw [loadBytes_unwritten hd hunwritten he, ← hsynced]
  simp only [adopt, ne_eq, not_true_eq_false, decide_false, Bool.false_eq_true, if_false]

/-- A store on whose medium its normal document is has nothing to reload. -/
theorem reload_eq_self (h : s.Coherent) (hremembers : s.Remembers) (huntouched : s.Untouched)
    (hopen : s.closed = false) (hnormal : s.persisted.IsNormal) (fresh : Fresh) :
    s.reload fresh = (.ok ⟨false, false⟩, s) := by
  obtain ⟨b, hsynced, hb, hdecode⟩ := hremembers
  have hload : Medium.load s.medium = .ok (some b) := hsynced ▸ huntouched
  have hcontent : content (some b) = some b := content_eq_some.mpr ⟨rfl, hb⟩
  have hd := s.decode_of_isComplete fresh.salt hdecode h.complete
  rw [hnormal.repaired_eq, hnormal.repair_eq, ← hcontent] at hd
  rw [reload_eq_loadBytes hopen hload]
  exact loadBytes_unchanged hd (absurd · Bool.false_ne_true) h.effective
    (hsynced.trans hcontent.symm)

theorem isNormal_of_reload {loaded : Loaded} (h : s.reload fresh = (.ok loaded, s')) :
    s'.persisted.IsNormal := by
  obtain ⟨_, bytes, _, hload⟩ := exists_load_of_reload h
  exact isNormal_of_loadBytes hload

theorem exists_openMedium {options : Options} {medium : σ} {b : Bytes} {d : Document}
    {e : Effective} (hload : Medium.load medium = .ok (some b)) (hb : b.isEmpty = false)
    (hdecode : (Medium.codec medium).decode b = .ok d) (hcomplete : d.IsComplete)
    (hnormal : d.IsNormal) (he : options.effective d = .ok e) (salt : String) (fresh : Fresh) :
    ∃ loaded, ∃ s : Store σ κ, openMedium options salt fresh medium = (.ok loaded, s) ∧
      s.active = e.document := by
  let s : Store σ κ := ofMedium options salt medium
  have hcontent : content (some b) = some b := content_eq_some.mpr ⟨rfl, hb⟩
  have hd := s.decode_of_isComplete fresh.salt hdecode hcomplete
  rw [hnormal.repaired_eq, hnormal.repair_eq, ← hcontent] at hd
  have hopened : openMedium options salt fresh medium = s.loadBytes fresh (some b) := by
    rw [openMedium, load, show Medium.load s.medium = _ from hload]
  exact ⟨_, _, hopened.trans (loadBytes_unwritten hd (absurd · Bool.false_ne_true) he), rfl⟩

/-- A set lasts exactly if the pairs of the document that it keeps are whole. -/
theorem Reachable.durable_iff [LawfulMedium σ] (hs : s.Reachable)
    (hmedium : Medium.Faithful s.medium) {candidate d : Document}
    (hset : s.set fresh candidate = (.ok d, s')) :
    ((∀ fresh', s'.reload fresh' = (.ok ⟨false, false⟩, s')) ∧ s'.active = d ∧
      ∀ salt fresh', ∃ loaded, ∃ s₂ : Store σ κ,
        openMedium s.options salt fresh' s'.medium = (.ok loaded, s₂) ∧ s₂.active = d) ↔
    s'.persisted.IsPaired := by
  have hdone := setsTo_of_set hset
  have hafter := hs.set hset
  have hwrite : s'.options.readOnly = false := hdone.options ▸ hdone.mayWrite
  have hcoherent := hafter.coherent
  have huntouched := untouched_of_set hmedium hset
  constructor
  · rintro ⟨hreload, _⟩
    exact (isNormal_of_reload (hreload fresh)).isPaired
  · intro hpaired
    have hnormal := hcoherent.isNormal_iff.mpr hpaired
    have hremembers := hafter.remembers hwrite
    refine ⟨reload_eq_self hcoherent hremembers huntouched hdone.closed hnormal, hdone.active, ?_⟩
    obtain ⟨b, hsynced, hb, hdecode⟩ := hremembers
    have hload : Medium.load s'.medium = .ok (some b) := hsynced ▸ huntouched
    have he := hcoherent.effective
    rw [hdone.options, hdone.active] at he
    exact exists_openMedium hload hb hdecode hcoherent.complete hnormal he

/-- Where nothing is overridden, a set lasts. -/
theorem durable_of_set_directory :
    let s := (inMemory []).2
    let s' := (s.set ⟨"", ""⟩ { files := { directory := "uploads" } }).2
    ∃ d : Document, d.files.directory = "uploads/" ∧ s.Reachable ∧ Medium.Faithful s.medium ∧
      s.set ⟨"", ""⟩ { files := { directory := "uploads" } } = (.ok d, s') ∧
      s'.reload ⟨"", ""⟩ = (.ok ⟨false, false⟩, s') ∧ s'.active = d := by
  intro s s'
  have hs : s.Reachable := reachable_inMemory (by decide +kernel)
  have hok : (s.set ⟨"", ""⟩ { files := { directory := "uploads" } }).1.isOk = true := by
    decide +kernel
  obtain ⟨d, hset⟩ : ∃ d, s.set ⟨"", ""⟩ { files := { directory := "uploads" } } = (.ok d, s') :=
    exists_set_of_isOk hok
  have hdirectory : s'.active.files.directory = "uploads/" := by decide +kernel
  have hoverridden : s'.overridden = [] := by decide +kernel
  have hmedium : Medium.Faithful s.medium := Memory.faithful s.medium
  have hs' : s'.Reachable := hs.set hset
  have hpaired : s'.persisted.IsPaired := by
    apply hs'.coherent.isPaired
    · rw [hoverridden]
      exact iff_of_false List.not_mem_nil List.not_mem_nil
    · rw [hoverridden]
      exact iff_of_false List.not_mem_nil List.not_mem_nil
  obtain ⟨hreload, hactive, _⟩ := (hs.durable_iff hmedium hset).mpr hpaired
  exact ⟨d, hactive ▸ hdirectory, hs, hmedium, hset, hreload ⟨"", ""⟩, hactive⟩

end Store

end SettingsStore
