import SettingsStore.Proofs.Store.Candidate
import SettingsStore.Proofs.Store.Contents

/-!
# Setting what is shown

A user who sets the document that is in use, as it is or with its secrets masked, changes nothing.
What the environment overrides is put back, so the environment's own values do not reach the medium.
But a repair derives the directory from the driver and the locales on offer from the one that
clients start with, and what was derived from a value of the environment is stored if the derived
leaf is not overridden itself. This happens exactly if the kept value of such a leaf does not fit the
document in use.
-/

namespace SettingsStore

namespace Document

/-- If two normal documents are mixed, only the derived leaves can be in need of repair. -/
theorem get_repaired_restore {n m : Document} (hn : n.IsNormal) (hm : m.IsNormal)
    (leaves : List Leaf) {l : Leaf} (hdirectory : l ≠ .fileDirectory)
    (havailable : l ≠ .availableLocales) :
    (n.restore m leaves).repaired.get l = (n.restore m leaves).get l := by
  have hself : SelfContained (· = l) :=
    ⟨fun h => absurd h.symm hdirectory, fun h => absurd h.symm havailable⟩
  rcases n.get_restore_or m leaves l with hl | hl
  · have hagree : AgreesOn (· = l) (n.restore m leaves) n := by
      rintro _ rfl
      exact hl
    rw [hagree.repaired hself l rfl, hn.repaired_eq, hl]
  · have hagree : AgreesOn (· = l) (n.restore m leaves) m := by
      rintro _ rfl
      exact hl
    rw [hagree.repaired hself l rfl, hm.repaired_eq, hl]

end Document

namespace Store

variable {σ κ : Type} {s s' : Store σ κ} {fresh : Fresh}

/-! ## What is kept -/

theorem Coherent.get_active (h : s.Coherent) {l : Leaf} (hl : l ∉ s.overridden)
    (hdirectory : l ≠ .fileDirectory) (havailable : l ≠ .availableLocales) :
    s.active.get l = s.persisted.get l := by
  obtain ⟨n, m, hn, hm, hmixed⟩ := h.mixed
  have hfits := (Options.effective_eq_ok_iff.mp h.effective).1
  have hnone : s.options.value? l = none :=
    Options.value?_of_notMem hfits (h.overridden_eq ▸ hl)
  have hagree : Document.AgreesOn (· = l) (s.options.overlay s.persisted) s.persisted := by
    rintro _ rfl
    rw [Options.get_overlay, hnone]
    rfl
  have hself : Document.SelfContained (· = l) :=
    ⟨fun heq => absurd heq.symm hdirectory, fun heq => absurd heq.symm havailable⟩
  rw [h.active_eq, hagree.repaired hself l rfl, hmixed]
  exact Document.get_repaired_restore hn hm s.overridden hdirectory havailable

/-- The directory in use is kept if it fits the driver in use. -/
theorem Coherent.directory_active_iff (h : s.Coherent) (hl : .fileDirectory ∉ s.overridden) :
    s.active.files.directory = s.persisted.files.directory ↔
      (s.active.files.driverName = "local" →
        Document.endsWithSlash s.persisted.files.directory = true) := by
  have hfits := (Options.effective_eq_ok_iff.mp h.effective).1
  have hnone : s.options.value? .fileDirectory = none :=
    Options.value?_of_notMem hfits (h.overridden_eq ▸ hl)
  constructor
  · intro heq
    exact heq ▸ h.isNormal_active.directory
  · intro hfit
    have hoverlay : (s.options.overlay s.persisted).files.directory =
        s.persisted.files.directory := by
      rw [show (s.options.overlay s.persisted).files.directory = _ from
        s.options.get_overlay s.persisted .fileDirectory, hnone]
      rfl
    have hactive : s.active.files.directory = (Document.repairDirectory
        s.active.files.driverName (s.options.overlay s.persisted).files.directory).1 := by
      rw [h.active_eq]
      rfl
    rw [hactive, hoverlay, Document.repairDirectory_of_imp hfit]

/-- The locales on offer are kept if the one that clients start with is among them. -/
theorem Coherent.availableLocales_active_iff (h : s.Coherent)
    (hl : .availableLocales ∉ s.overridden) :
    s.active.localization.availableLocales = s.persisted.localization.availableLocales ↔
      Document.Offers s.active.localization.defaultClientLocale
        s.persisted.localization.availableLocales := by
  have hfits := (Options.effective_eq_ok_iff.mp h.effective).1
  have hnone : s.options.value? .availableLocales = none :=
    Options.value?_of_notMem hfits (h.overridden_eq ▸ hl)
  constructor
  · intro heq
    exact heq ▸ h.isNormal_active.availableLocales
  · intro hfit
    have hoverlay : (s.options.overlay s.persisted).localization.availableLocales =
        s.persisted.localization.availableLocales := by
      rw [show (s.options.overlay s.persisted).localization.availableLocales = _ from
        s.options.get_overlay s.persisted .availableLocales, hnone]
      rfl
    have hactive : s.active.localization.availableLocales = (Document.repairAvailable
        s.active.localization.defaultClientLocale
        (s.options.overlay s.persisted).localization.availableLocales).1 := by
      rw [h.active_eq]
      rfl
    rw [hactive, hoverlay, Document.repairAvailable_of_offers hfit]

/-- What an echo keeps of a leaf that is not overridden is the value in use. -/
theorem Coherent.toPersist_echo (h : s.Coherent) {candidate : Document}
    (hecho : candidate = s.active ∨ candidate = s.active.masked) (salt : String) :
    s.toPersist salt candidate = s.active.restore s.persisted s.overridden := by
  rw [h.toPersist_eq]
  rcases hecho with rfl | rfl
  · rw [h.prepared_active]
  · rw [h.prepared_masked]

theorem Coherent.get_echo (h : s.Coherent) {l : Leaf} (hdirectory : l ≠ .fileDirectory)
    (havailable : l ≠ .availableLocales) :
    (s.active.restore s.persisted s.overridden).get l = s.persisted.get l := by
  by_cases hl : l ∈ s.overridden
  · rw [Document.get_restore_of_mem hl]
  · rw [Document.get_restore_of_notMem hl, h.get_active hl hdirectory havailable]

/-- An echo keeps what was kept exactly if the two derived leaves fit the document in use. -/
theorem Coherent.echo_eq_iff (h : s.Coherent) :
    s.active.restore s.persisted s.overridden = s.persisted ↔
      (.fileDirectory ∈ s.overridden ∨ (s.active.files.driverName = "local" →
        Document.endsWithSlash s.persisted.files.directory = true)) ∧
      (.availableLocales ∈ s.overridden ∨
        Document.Offers s.active.localization.defaultClientLocale
          s.persisted.localization.availableLocales) := by
  constructor
  · intro heq
    constructor
    · by_cases hl : .fileDirectory ∈ s.overridden
      · exact Or.inl hl
      · refine Or.inr ((h.directory_active_iff hl).mp ?_)
        exact (Document.get_restore_of_notMem hl s.active s.persisted).symm.trans
          (congrArg (·.get .fileDirectory) heq)
    · by_cases hl : .availableLocales ∈ s.overridden
      · exact Or.inl hl
      · refine Or.inr ((h.availableLocales_active_iff hl).mp ?_)
        exact (Document.get_restore_of_notMem hl s.active s.persisted).symm.trans
          (congrArg (·.get .availableLocales) heq)
  · rintro ⟨hdirectory, havailable⟩
    apply Document.ext_get
    intro l
    by_cases hl : l ∈ s.overridden
    · rw [Document.get_restore_of_mem hl]
    · by_cases hd : l = .fileDirectory
      · subst hd
        rw [Document.get_restore_of_notMem hl]
        exact (h.directory_active_iff hl).mpr (hdirectory.resolve_left hl)
      · by_cases ha : l = .availableLocales
        · subst ha
          rw [Document.get_restore_of_notMem hl]
          exact (h.availableLocales_active_iff hl).mpr (havailable.resolve_left hl)
        · exact h.get_echo hd ha

/-! ## What is stored -/

variable [Medium σ] [LawfulMedium σ]

/-- Setting the document in use stores what was stored, but for the two derived leaves, and these
change exactly if what is kept of them does not fit the document in use. -/
theorem Reachable.echo_iff (hs : s.Reachable) (hmedium : Medium.Faithful s.medium)
    (huntouched : s.Untouched) {candidate d : Document}
    (hecho : candidate = s.active ∨ candidate = s.active.masked)
    (hset : s.set fresh candidate = (.ok d, s')) :
    ∃ before after, Medium.Holds s.medium before ∧ Medium.Holds s'.medium after ∧
      (∀ l : Leaf, l ≠ .fileDirectory → l ≠ .availableLocales → after.get l = before.get l) ∧
      (after = before ↔
        (.fileDirectory ∈ s.overridden ∨ (s.active.files.driverName = "local" →
          Document.endsWithSlash before.files.directory = true)) ∧
        (.availableLocales ∈ s.overridden ∨
          Document.Offers s.active.localization.defaultClientLocale
            before.localization.availableLocales)) := by
  have h := hs.coherent
  have hdone := setsTo_of_set hset
  have hbefore := hs.holds hdone.mayWrite huntouched
  have hstored := (hs.set hset).holds (hdone.options ▸ hdone.mayWrite)
    (untouched_of_set hmedium hset)
  rw [hdone.persisted, h.toPersist_echo hecho fresh.salt] at hstored
  exact ⟨s.persisted, s.active.restore s.persisted s.overridden, hbefore, hstored,
    fun l hd ha => h.get_echo hd ha, h.echo_eq_iff⟩

/-- Where nothing is overridden, an echo stores what was stored. -/
theorem echo_in_memory :
    let s := (inMemory []).2
    let s' := (s.set ⟨"", ""⟩ s.active.masked).2
    s.Reachable ∧ Medium.Faithful s.medium ∧ s.Untouched ∧
      ∃ d before, s.set ⟨"", ""⟩ s.active.masked = (.ok d, s') ∧
        Medium.Holds s.medium before ∧ Medium.Holds s'.medium before := by
  intro s s'
  have hopen : inMemory [] = (.ok ⟨true, true⟩, s) := by rfl
  have hs : s.Reachable := reachable_inMemory (by decide +kernel)
  have hmedium : Medium.Faithful s.medium := Memory.faithful s.medium
  have hwrite : s.options.readOnly = false := by decide +kernel
  have huntouched : s.Untouched :=
    untouched_of_openMedium (Memory.faithful .empty) rfl hopen
  have hok : (s.set ⟨"", ""⟩ s.active.masked).1.isOk = true := by decide +kernel
  obtain ⟨d, hset⟩ : ∃ d, s.set ⟨"", ""⟩ s.active.masked = (.ok d, s') := exists_set_of_isOk hok
  obtain ⟨before, after, hbefore, hstored, _, hiff⟩ :=
    hs.echo_iff hmedium huntouched (Or.inr rfl) hset
  have hkept := hbefore.unique (hs.holds hwrite huntouched)
  have hdirectory : Document.endsWithSlash s.persisted.files.directory = true := by
    decide +kernel
  have havailable : Text.entries s.persisted.localization.availableLocales = [] := by
    decide +kernel
  have heq : after = before := by
    rw [hiff, hkept]
    exact ⟨Or.inr fun _ => hdirectory, Or.inr fun _ _ => Or.inl havailable⟩
  exact ⟨hs, hmedium, huntouched, d, before, hset, hbefore, heq ▸ hstored⟩

end Store

end SettingsStore
