import SettingsStore.Proofs.Document.Masking
import SettingsStore.Proofs.Document.NormalForm
import SettingsStore.Proofs.Document.Overrides

/-!
# Documents that agree on some leaves

Two documents agree on a set of leaves if both have the same values there. Every operation on
documents works leaf by leaf but for the repair, which derives the directory from the driver and
the locales on offer from the one that clients start with. So what two documents agree on, they
still agree on after the same operation, and a repair needs no more than a set that has with each
of these two leaves the one it is derived from.
-/

namespace SettingsStore.Document

def AgreesOn (p : Leaf → Prop) (d e : Document) : Prop := ∀ l, p l → d.get l = e.get l

namespace AgreesOn

variable {p q : Leaf → Prop} {d e f : Document}

theorem refl (p : Leaf → Prop) (d : Document) : AgreesOn p d d := fun _ _ => rfl

theorem symm (h : AgreesOn p d e) : AgreesOn p e d := fun l hl => (h l hl).symm

theorem trans (h : AgreesOn p d e) (k : AgreesOn p e f) : AgreesOn p d f :=
  fun l hl => (h l hl).trans (k l hl)

theorem inherit (h : AgreesOn p d e) (previous : Document) :
    AgreesOn p (d.inherit previous) (e.inherit previous) := by
  intro l hl
  cases l
  case publicLinkSalt => exact congrArg (· <|> previous.files.publicLinkSalt) (h _ hl)
  all_goals exact h _ hl

theorem fill (h : AgreesOn p d e) (salt : String) : AgreesOn p (d.fill salt) (e.fill salt) := by
  intro l hl
  cases l
  case dataSource => exact congrArg (fun o => some (o.getD "app.db")) (h _ hl)
  case publicLinkSalt => exact congrArg (fun o => some (o.getD salt)) (h _ hl)
  case defaultServerLocale => exact congrArg (fun o => some (o.getD Locale.default)) (h _ hl)
  case defaultClientLocale => exact congrArg (fun o => some (o.getD Locale.default)) (h _ hl)
  all_goals exact h _ hl

/-- A mask stands for the value that it hides, which is no change. -/
theorem unmask (h : AgreesOn p d e) : AgreesOn p (d.unmask e) e := by
  intro l hl
  rw [get_unmask]
  split
  · rfl
  · exact h l hl

theorem restore (h : AgreesOn p d e) (kept : Document) (leaves : List Leaf) :
    AgreesOn p (d.restore kept leaves) (e.restore kept leaves) := by
  intro l hl
  rw [get_restore, get_restore, h l hl]

end AgreesOn

theorem unmask_self (d : Document) : d.unmask d = d :=
  ext_get fun l => (AgreesOn.refl (fun _ => True) d).unmask l trivial

theorem get_restore_of_mem {l : Leaf} {leaves : List Leaf} (h : l ∈ leaves) (d kept : Document) :
    (d.restore kept leaves).get l = kept.get l := by
  rw [get_restore, if_pos h]

theorem get_restore_of_notMem {l : Leaf} {leaves : List Leaf} (h : l ∉ leaves)
    (d kept : Document) : (d.restore kept leaves).get l = d.get l := by
  rw [get_restore, if_neg h]

theorem restore_nil (d kept : Document) : d.restore kept [] = d :=
  ext_get fun _ => get_restore_of_notMem List.not_mem_nil d kept

theorem restore_self (d : Document) (leaves : List Leaf) : d.restore d leaves = d :=
  ext_get fun l => by simp

theorem restore_restore (d e f : Document) (leaves : List Leaf) :
    d.restore (e.restore f leaves) leaves = d.restore f leaves := by
  apply ext_get
  intro l
  simp only [get_restore]
  split
  · rfl
  · rfl

theorem IsComplete.restore {d kept : Document} (h : d.IsComplete) (hk : kept.IsComplete)
    (leaves : List Leaf) : (d.restore kept leaves).IsComplete where
  dataSource := by
    rw [show (d.restore kept leaves).sql.dataSource = _ from d.get_restore kept leaves .dataSource]
    split
    · exact hk.dataSource
    · exact h.dataSource
  publicLinkSalt := by
    rw [show (d.restore kept leaves).files.publicLinkSalt = _ from
      d.get_restore kept leaves .publicLinkSalt]
    split
    · exact hk.publicLinkSalt
    · exact h.publicLinkSalt
  defaultServerLocale := by
    rw [show (d.restore kept leaves).localization.defaultServerLocale = _ from
      d.get_restore kept leaves .defaultServerLocale]
    split
    · exact hk.defaultServerLocale
    · exact h.defaultServerLocale
  defaultClientLocale := by
    rw [show (d.restore kept leaves).localization.defaultClientLocale = _ from
      d.get_restore kept leaves .defaultClientLocale]
    split
    · exact hk.defaultClientLocale
    · exact h.defaultClientLocale

/-! ## Mixing normal documents -/

/-- The two leaves that a repair derives fit those that it derives them from. -/
structure IsPaired (d : Document) : Prop where
  directory : d.files.driverName = "local" → endsWithSlash d.files.directory = true
  availableLocales : Offers d.localization.defaultClientLocale d.localization.availableLocales

theorem IsNormal.isPaired {d : Document} (h : d.IsNormal) : d.IsPaired :=
  ⟨h.directory, h.availableLocales⟩

theorem get_restore_or (d kept : Document) (leaves : List Leaf) (l : Leaf) :
    (d.restore kept leaves).get l = d.get l ∨ (d.restore kept leaves).get l = kept.get l := by
  rw [get_restore]
  split
  · exact Or.inr rfl
  · exact Or.inl rfl

/-- Mixing two normal documents can only tear such pairs apart. -/
theorem isNormal_restore_iff {n m : Document} (hn : n.IsNormal) (hm : m.IsNormal)
    (leaves : List Leaf) : (n.restore m leaves).IsNormal ↔ (n.restore m leaves).IsPaired := by
  refine ⟨IsNormal.isPaired, fun h => ⟨?_, h.directory, ?_, ?_, h.availableLocales⟩⟩
  · rcases n.get_restore_or m leaves .siteUrl with hl | hl
    · exact (congrArg endsWithSlash hl).trans hn.siteUrl
    · exact (congrArg endsWithSlash hl).trans hm.siteUrl
  · intro l hl
    rcases n.get_restore_or m leaves .defaultServerLocale with heq | heq
    · exact hn.defaultServerLocale l (heq.symm.trans hl)
    · exact hm.defaultServerLocale l (heq.symm.trans hl)
  · intro l hl
    rcases n.get_restore_or m leaves .defaultClientLocale with heq | heq
    · exact hn.defaultClientLocale l (heq.symm.trans hl)
    · exact hm.defaultClientLocale l (heq.symm.trans hl)

/-- A pair stays whole if both of its leaves are put back, or neither. -/
theorem isPaired_restore {n m : Document} (hn : n.IsNormal) (hm : m.IsNormal) {leaves : List Leaf}
    (hfiles : .fileDriver ∈ leaves ↔ .fileDirectory ∈ leaves)
    (hlocales : .defaultClientLocale ∈ leaves ↔ .availableLocales ∈ leaves) :
    (n.restore m leaves).IsPaired := by
  have hget : ∀ l, (n.restore m leaves).get l = if l ∈ leaves then m.get l else n.get l := by
    intro l
    split
    · next hl => exact get_restore_of_mem hl n m
    · next hl => exact get_restore_of_notMem hl n m
  have hdriver := hget .fileDriver
  have hdirectory := hget .fileDirectory
  have hclient := hget .defaultClientLocale
  have havailable := hget .availableLocales
  refine ⟨?_, ?_⟩
  · by_cases h : .fileDirectory ∈ leaves
    · rw [if_pos (hfiles.mpr h)] at hdriver
      rw [if_pos h] at hdirectory
      change (n.restore m leaves).files.driverName = m.files.driverName at hdriver
      change (n.restore m leaves).files.directory = m.files.directory at hdirectory
      rw [hdriver, hdirectory]
      exact hm.directory
    · rw [if_neg fun h' => h (hfiles.mp h')] at hdriver
      rw [if_neg h] at hdirectory
      change (n.restore m leaves).files.driverName = n.files.driverName at hdriver
      change (n.restore m leaves).files.directory = n.files.directory at hdirectory
      rw [hdriver, hdirectory]
      exact hn.directory
  · by_cases h : .availableLocales ∈ leaves
    · rw [if_pos (hlocales.mpr h)] at hclient
      rw [if_pos h] at havailable
      change (n.restore m leaves).localization.defaultClientLocale = _ at hclient
      change (n.restore m leaves).localization.availableLocales = _ at havailable
      rw [hclient, havailable]
      exact hm.availableLocales
    · rw [if_neg fun h' => h (hlocales.mp h')] at hclient
      rw [if_neg h] at havailable
      change (n.restore m leaves).localization.defaultClientLocale = _ at hclient
      change (n.restore m leaves).localization.availableLocales = _ at havailable
      rw [hclient, havailable]
      exact hn.availableLocales

/-! ## Repairing -/

/-- A set of leaves that has with each leaf those from which a repair derives it. -/
structure SelfContained (p : Leaf → Prop) : Prop where
  directory : p .fileDirectory → p .fileDriver
  availableLocales : p .availableLocales → p .defaultClientLocale

theorem AgreesOn.repaired {p : Leaf → Prop} {d e : Document} (h : AgreesOn p d e)
    (hp : SelfContained p) : AgreesOn p d.repaired e.repaired := by
  intro l hl
  cases l
  case siteUrl => exact congrArg (fun s => (repairSiteUrl s).1) (h .siteUrl hl)
  case fileDirectory =>
    exact congrArg₂ (fun driver directory => (repairDirectory driver directory).1)
      (h .fileDriver (hp.directory hl)) (h .fileDirectory hl)
  case defaultServerLocale =>
    exact congrArg (fun l => (repairLocale l).1) (h .defaultServerLocale hl)
  case defaultClientLocale =>
    exact congrArg (fun l => (repairLocale l).1) (h .defaultClientLocale hl)
  case availableLocales =>
    exact congrArg₂ (fun client available => (repairAvailable (repairLocale client).1 available).1)
      (h .defaultClientLocale (hp.availableLocales hl)) (h .availableLocales hl)
  all_goals exact h _ hl

theorem idempotent_eq_of_or {α : Type} {f : α → α} (hf : ∀ x, f (f x) = f x) {x y : α}
    (h : x = y ∨ x = f y) : f x = f y := by
  rcases h with rfl | rfl
  · rfl
  · exact hf y

/-- A document in which some leaves are repaired and others are still to be repaired comes to the
same as the one in which none is. -/
theorem repaired_eq_of_between {d e : Document}
    (h : ∀ l, e.get l = d.get l ∨ e.get l = d.repaired.get l) : e.repaired = d.repaired := by
  have hd := isNormal_repaired d
  have hclient : (repairLocale e.localization.defaultClientLocale).1 =
      (repairLocale d.localization.defaultClientLocale).1 :=
    idempotent_eq_of_or (f := fun l => (repairLocale l).1) repairLocale_repairLocale
      (h .defaultClientLocale)
  apply ext_get
  intro l
  have hl := h l
  cases l
  case siteUrl =>
    exact idempotent_eq_of_or (f := fun s => (repairSiteUrl s).1) repairSiteUrl_repairSiteUrl hl
  case fileDirectory =>
    have hdriver : e.files.driverName = d.files.driverName := (h .fileDriver).elim id id
    have he : e.repaired.files.directory =
        (repairDirectory d.files.driverName e.files.directory).1 :=
      congrArg (fun driver => (repairDirectory driver e.files.directory).1) hdriver
    exact he.trans (idempotent_eq_of_or (f := fun s => (repairDirectory _ s).1)
      (repairDirectory_repairDirectory _) hl)
  case defaultServerLocale =>
    exact idempotent_eq_of_or (f := fun l => (repairLocale l).1) repairLocale_repairLocale hl
  case defaultClientLocale => exact hclient
  case availableLocales =>
    have he : e.repaired.localization.availableLocales =
        (repairAvailable d.repaired.localization.defaultClientLocale
          e.localization.availableLocales).1 :=
      congrArg (fun c => (repairAvailable c e.localization.availableLocales).1) hclient
    have hentry : ∀ c, d.repaired.localization.defaultClientLocale = some c → Text.IsEntry c :=
      fun c hc => Locale.isEntry_of_isSupported (hd.defaultClientLocale c hc)
    exact he.trans (idempotent_eq_of_or (f := fun s => (repairAvailable _ s).1)
      (repairAvailable_repairAvailable hentry) hl)
  all_goals rcases hl with hl | hl <;> exact hl

end SettingsStore.Document
