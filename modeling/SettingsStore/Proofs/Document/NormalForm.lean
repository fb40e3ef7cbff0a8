import SettingsStore.Document.Repair
import SettingsStore.Proofs.Text.CommaList

/-!
# Complete and normal documents

A document is complete if its optional settings have values, and normal if there is nothing to
repair in it. Completing gives a complete document and repairing a normal one, each leaves a
document alone that is so already, and a repair says truly whether it changed anything. It touches
five settings, and keeps the locales that clients could choose.
-/

namespace SettingsStore

namespace Locale

theorem isEntry_of_isSupported {l : String} (h : isSupported l = true) : Text.IsEntry l := by
  simp only [isSupported, supported, List.contains_eq_mem, decide_eq_true_eq, List.mem_cons,
    List.not_mem_nil, or_false] at h
  rcases h with rfl | rfl | rfl | rfl | rfl | rfl | rfl | rfl | rfl | rfl | rfl | rfl | rfl | rfl
    | rfl | rfl <;> exact ⟨by decide, by decide, by decide⟩

end Locale

namespace Document

/-! ## Complete documents -/

structure IsComplete (d : Document) : Prop where
  dataSource : d.sql.dataSource.isSome
  publicLinkSalt : d.files.publicLinkSalt.isSome
  defaultServerLocale : d.localization.defaultServerLocale.isSome
  defaultClientLocale : d.localization.defaultClientLocale.isSome

theorem isComplete_fill (salt : String) (d : Document) : (d.fill salt).IsComplete :=
  ⟨rfl, rfl, rfl, rfl⟩

theorem some_getD_of_isSome {α : Type} {o : Option α} (h : o.isSome) (x : α) :
    some (o.getD x) = o := by
  cases o with
  | none => cases h
  | some y => rfl

theorem IsComplete.fill_eq {d : Document} (h : d.IsComplete) (salt : String) :
    d.fill salt = d := by
  apply ext_get
  intro l
  cases l
  case dataSource => exact some_getD_of_isSome h.dataSource _
  case publicLinkSalt => exact some_getD_of_isSome h.publicLinkSalt _
  case defaultServerLocale => exact some_getD_of_isSome h.defaultServerLocale _
  case defaultClientLocale => exact some_getD_of_isSome h.defaultClientLocale _
  all_goals rfl

theorem IsComplete.inherit_eq {d : Document} (h : d.IsComplete) (previous : Document) :
    d.inherit previous = d := by
  obtain ⟨salt, hsalt⟩ := Option.isSome_iff_exists.mp h.publicLinkSalt
  apply ext_get
  intro l
  cases l
  case publicLinkSalt =>
    change (d.files.publicLinkSalt <|> previous.files.publicLinkSalt) = d.files.publicLinkSalt
    rw [hsalt]
    rfl
  all_goals rfl

/-! ## Repairing single settings -/

theorem endsWithSlash_withoutSlashes (s : String) : endsWithSlash (withoutSlashes s) = false := by
  have h := List.head?_dropWhile_not (· == '/') s.toList.reverse
  simp only [endsWithSlash, withoutSlashes, String.toList_ofList, List.getLast?_reverse]
  cases hs : (s.toList.reverse.dropWhile (· == '/')).head? with
  | none => rfl
  | some c =>
      rw [hs] at h
      simpa using h

theorem endsWithSlash_append_slash (s : String) : endsWithSlash (s ++ "/") = true := by
  simp [endsWithSlash]

theorem repairSiteUrl_of_not {s : String} (h : endsWithSlash s = false) :
    repairSiteUrl s = (s, false) := by
  simp [repairSiteUrl, h]

theorem repairSiteUrl_snd (s : String) : (repairSiteUrl s).2 = endsWithSlash s := by
  by_cases h : endsWithSlash s = true <;> simp [repairSiteUrl, h]

theorem endsWithSlash_repairSiteUrl (s : String) :
    endsWithSlash (repairSiteUrl s).1 = false := by
  unfold repairSiteUrl
  split
  · exact endsWithSlash_withoutSlashes s
  · simpa using ‹¬endsWithSlash s = true›

theorem repairDirectory_of_imp {driver directory : String}
    (h : driver = "local" → endsWithSlash directory = true) :
    repairDirectory driver directory = (directory, false) := by
  unfold repairDirectory
  rw [if_neg]
  rintro ⟨hd, hs⟩
  simp [h hd] at hs

theorem endsWithSlash_of_repairDirectory_snd {driver directory : String}
    (h : (repairDirectory driver directory).2 = false) (hd : driver = "local") :
    endsWithSlash directory = true := by
  by_contra hs
  rw [repairDirectory, if_pos ⟨hd, by simpa using hs⟩] at h
  cases h

theorem endsWithSlash_repairDirectory (driver directory : String) (h : driver = "local") :
    endsWithSlash (repairDirectory driver directory).1 = true := by
  unfold repairDirectory
  split
  · exact endsWithSlash_append_slash directory
  · next hn =>
    by_contra hs
    exact hn ⟨h, by simpa using hs⟩

theorem repairLocale_of_forall {locale : Option String}
    (h : ∀ l, locale = some l → Locale.isSupported l = true) :
    repairLocale locale = (locale, false) := by
  cases locale with
  | none => rfl
  | some l => simp [repairLocale, h l rfl]

theorem isSupported_of_repairLocale_snd {locale : Option String}
    (h : (repairLocale locale).2 = false) {l : String} (hl : locale = some l) :
    Locale.isSupported l = true := by
  by_contra hs
  simp [repairLocale, hl, hs] at h

theorem isSupported_repairLocale {locale : Option String} {l : String}
    (h : (repairLocale locale).1 = some l) : Locale.isSupported l = true := by
  cases locale with
  | none => cases h
  | some m =>
      by_cases hm : Locale.isSupported m = true
      · rw [repairLocale, if_pos hm] at h
        cases h
        exact hm
      · rw [repairLocale, if_neg hm] at h
        cases h
        decide

/-- Clients can choose the locale they start with. -/
def Offers (client : Option String) (available : String) : Prop :=
  ∀ c, client = some c → Text.entries available = [] ∨ c ∈ Text.entries available

theorem repairAvailable_of_offers {client : Option String} {available : String}
    (h : Offers client available) : repairAvailable client available = (available, false) := by
  cases client with
  | none => cases hs : Text.entries available <;> simp only [repairAvailable, hs]
  | some c =>
      rcases h c rfl with hs | hc
      · simp only [repairAvailable, hs]
      · obtain ⟨e, es, hs⟩ := List.exists_cons_of_ne_nil (List.ne_nil_of_mem hc)
        rw [hs] at hc
        simp only [repairAvailable, hs, List.contains_eq_mem, hc, decide_true, if_true]

theorem repairAvailable_of_not {c available : String} (h : ¬Offers (some c) available) :
    repairAvailable (some c) available =
      (Text.join "," (Text.entries available) ++ "," ++ c, true) := by
  simp only [Offers, Option.some.injEq, forall_eq', not_or] at h
  obtain ⟨e, es, hs⟩ := List.exists_cons_of_ne_nil h.1
  rw [hs] at h
  simp only [repairAvailable, hs, List.contains_eq_mem, h.2, decide_false, Bool.false_eq_true,
    if_false]

theorem offers_of_repairAvailable_snd {client : Option String} {available : String}
    (h : (repairAvailable client available).2 = false) : Offers client available := by
  by_contra ho
  cases client with
  | none => exact ho fun _ hc => nomatch hc
  | some c => simp [repairAvailable_of_not ho] at h

theorem offers_repairAvailable {client : Option String} (available : String)
    (h : ∀ c, client = some c → Text.IsEntry c) :
    Offers client (repairAvailable client available).1 := by
  by_cases ho : Offers client available
  · rw [repairAvailable_of_offers ho]
    exact ho
  · intro c hc
    subst hc
    rw [repairAvailable_of_not ho, Text.entries_join_append available (h c rfl)]
    simp

/-- The entries of a list that is not empty are kept, and the locale comes behind them if it is not
among them. -/
theorem entries_repairAvailable {c available : String} (hc : Text.IsEntry c)
    (hne : Text.entries available ≠ []) :
    Text.entries (repairAvailable (some c) available).1 =
      if c ∈ Text.entries available then Text.entries available
      else Text.entries available ++ [c] := by
  by_cases hmem : c ∈ Text.entries available
  · have ho : Offers (some c) available := fun _ h => Or.inr (Option.some.inj h ▸ hmem)
    rw [repairAvailable_of_offers ho, if_pos hmem]
  · have ho : ¬Offers (some c) available := fun ho => (ho c rfl).elim hne hmem
    rw [repairAvailable_of_not ho, Text.entries_join_append available hc, if_neg hmem]

/-! ## Repairing twice -/

theorem repairSiteUrl_repairSiteUrl (s : String) :
    (repairSiteUrl (repairSiteUrl s).1).1 = (repairSiteUrl s).1 := by
  rw [repairSiteUrl_of_not (endsWithSlash_repairSiteUrl s)]

theorem repairDirectory_repairDirectory (driver directory : String) :
    (repairDirectory driver (repairDirectory driver directory).1).1 =
      (repairDirectory driver directory).1 := by
  rw [repairDirectory_of_imp (endsWithSlash_repairDirectory driver directory)]

theorem repairLocale_repairLocale (locale : Option String) :
    (repairLocale (repairLocale locale).1).1 = (repairLocale locale).1 := by
  rw [repairLocale_of_forall fun _ => isSupported_repairLocale]

theorem repairAvailable_repairAvailable {client : Option String}
    (h : ∀ c, client = some c → Text.IsEntry c) (available : String) :
    (repairAvailable client (repairAvailable client available).1).1 =
      (repairAvailable client available).1 := by
  rw [repairAvailable_of_offers (offers_repairAvailable available h)]

/-! ## Normal documents -/

/-- There is nothing to repair: the site's address has no slash at its end, a local directory has
one, locales are supported, and clients can choose the one they start with. -/
structure IsNormal (d : Document) : Prop where
  siteUrl : endsWithSlash d.service.siteUrl = false
  directory : d.files.driverName = "local" → endsWithSlash d.files.directory = true
  defaultServerLocale : ∀ l, d.localization.defaultServerLocale = some l →
    Locale.isSupported l = true
  defaultClientLocale : ∀ l, d.localization.defaultClientLocale = some l →
    Locale.isSupported l = true
  availableLocales : Offers d.localization.defaultClientLocale d.localization.availableLocales

theorem isNormal_repaired (d : Document) : d.repaired.IsNormal where
  siteUrl := endsWithSlash_repairSiteUrl _
  directory := endsWithSlash_repairDirectory _ _
  defaultServerLocale _ := isSupported_repairLocale
  defaultClientLocale _ := isSupported_repairLocale
  availableLocales := offers_repairAvailable _ fun _ h =>
    Locale.isEntry_of_isSupported (isSupported_repairLocale h)

theorem IsNormal.repair_eq {d : Document} (h : d.IsNormal) : d.repair = (d, false) := by
  have hclient := repairLocale_of_forall h.defaultClientLocale
  simp only [repair, repairSiteUrl_of_not h.siteUrl, repairDirectory_of_imp h.directory,
    repairLocale_of_forall h.defaultServerLocale, hclient,
    repairAvailable_of_offers h.availableLocales, Bool.or_self]

theorem IsNormal.repaired_eq {d : Document} (h : d.IsNormal) : d.repaired = d :=
  congrArg Prod.fst h.repair_eq

theorem repaired_repaired (d : Document) : d.repaired.repaired = d.repaired :=
  (isNormal_repaired d).repaired_eq

theorem repaired_eq_self_iff {d : Document} : d.repaired = d ↔ d.IsNormal :=
  ⟨fun h => h ▸ isNormal_repaired d, IsNormal.repaired_eq⟩

theorem repair_snd_eq_false_iff {d : Document} : d.repair.2 = false ↔ d.IsNormal := by
  constructor
  · intro h
    simp only [repair, Bool.or_eq_false_iff] at h
    obtain ⟨⟨⟨⟨hsite, hdirectory⟩, hserver⟩, hclient⟩, havailable⟩ := h
    have hclient' : ∀ l, d.localization.defaultClientLocale = some l →
        Locale.isSupported l = true := fun _ => isSupported_of_repairLocale_snd hclient
    rw [repairLocale_of_forall hclient'] at havailable
    exact ⟨repairSiteUrl_snd _ ▸ hsite, endsWithSlash_of_repairDirectory_snd hdirectory,
      fun _ => isSupported_of_repairLocale_snd hserver, hclient',
      offers_of_repairAvailable_snd havailable⟩
  · intro h
    rw [h.repair_eq]

/-- A repair says that it changed something exactly if it did. -/
theorem repair_snd_eq_false_iff_repaired_eq {d : Document} :
    d.repair.2 = false ↔ d.repaired = d :=
  repair_snd_eq_false_iff.trans repaired_eq_self_iff.symm

theorem IsComplete.repaired {d : Document} (h : d.IsComplete) : d.repaired.IsComplete where
  dataSource := h.dataSource
  publicLinkSalt := h.publicLinkSalt
  defaultServerLocale := by
    obtain ⟨l, hl⟩ := Option.isSome_iff_exists.mp h.defaultServerLocale
    change (repairLocale d.localization.defaultServerLocale).1.isSome
    rw [hl, repairLocale]
    split <;> rfl
  defaultClientLocale := by
    obtain ⟨l, hl⟩ := Option.isSome_iff_exists.mp h.defaultClientLocale
    change (repairLocale d.localization.defaultClientLocale).1.isSome
    rw [hl, repairLocale]
    split <;> rfl

/-! ## What a repair does -/

/-- Clients can choose the locale that they start with after a repair, and all that they could
choose before. -/
theorem entries_repaired {d : Document} {c : String}
    (hc : d.repaired.localization.defaultClientLocale = some c)
    (hne : Text.entries d.localization.availableLocales ≠ []) :
    c ∈ Text.entries d.repaired.localization.availableLocales ∧
      Text.entries d.localization.availableLocales <+:
        Text.entries d.repaired.localization.availableLocales := by
  have hentry : Text.IsEntry c :=
    Locale.isEntry_of_isSupported (d.isNormal_repaired.defaultClientLocale c hc)
  have havailable : d.repaired.localization.availableLocales = (repairAvailable
      d.repaired.localization.defaultClientLocale d.localization.availableLocales).1 := rfl
  rw [havailable, hc, entries_repairAvailable hentry hne]
  split
  · next hmem => exact ⟨hmem, List.prefix_rfl⟩
  · exact ⟨List.mem_append_right _ List.mem_cons_self, List.prefix_append ..⟩

/-- The settings that are repaired. -/
def repairable : List Leaf :=
  [.siteUrl, .fileDirectory, .defaultServerLocale, .defaultClientLocale, .availableLocales]

theorem get_repaired_of_notMem {l : Leaf} (hl : l ∉ repairable) (d : Document) :
    d.repaired.get l = d.get l := by
  cases l <;> first | rfl | exact absurd (by decide) hl

/-- A repair gives a document that needs none, leaves one as it is exactly if it needs none, tells
whether it changed the one that it was given, and changes nothing but what it is for. -/
theorem repair_exact (d : Document) :
    d.repaired.repair = (d.repaired, false) ∧
    (d.repaired = d ↔ d.IsNormal) ∧
    (d.repair.2 = true ↔ d.repaired ≠ d) ∧
    endsWithSlash d.repaired.service.siteUrl = false ∧
    (d.repaired.files.driverName = "local" →
      endsWithSlash d.repaired.files.directory = true) ∧
    (∀ locale, d.repaired.localization.defaultServerLocale = some locale →
      Locale.isSupported locale = true) ∧
    (∀ locale, d.repaired.localization.defaultClientLocale = some locale →
      Locale.isSupported locale = true) ∧
    (∀ c, d.repaired.localization.defaultClientLocale = some c →
      Text.entries d.localization.availableLocales ≠ [] →
      c ∈ Text.entries d.repaired.localization.availableLocales ∧
        Text.entries d.localization.availableLocales <+:
          Text.entries d.repaired.localization.availableLocales) ∧
    ∀ l, l ∉ repairable → d.repaired.get l = d.get l := by
  have hnormal := d.isNormal_repaired
  have hchanged : d.repair.2 = true ↔ d.repaired ≠ d := by
    rw [Ne, ← repair_snd_eq_false_iff_repaired_eq, Bool.not_eq_false]
  exact ⟨hnormal.repair_eq, repaired_eq_self_iff, hchanged, hnormal.siteUrl, hnormal.directory,
    hnormal.defaultServerLocale, hnormal.defaultClientLocale, fun _ => entries_repaired,
    fun _ hl => get_repaired_of_notMem hl d⟩

/-- A client locale that is not supported is replaced before it is looked for in the list. -/
theorem repair_exact_of_unsupported :
    let d : Document := {
      service.siteUrl := "https://example.com//"
      files.directory := "uploads"
      localization := ⟨none, some "xx", " fr ,,de"⟩ }
    d.repair.2 = true ∧ endsWithSlash d.repaired.service.siteUrl = false ∧
      endsWithSlash d.repaired.files.directory = true ∧
      Locale.isSupported "en" = true ∧
      "en" ∈ Text.entries d.repaired.localization.availableLocales ∧
      Text.entries d.localization.availableLocales <+:
        Text.entries d.repaired.localization.availableLocales ∧
      d.repaired.get .fileDriver = d.get .fileDriver := by
  intro d
  obtain ⟨_, _, hchanged, hsite, hdirectory, _, hclient, havailable, hother⟩ := repair_exact d
  have hne : d.repaired ≠ d := by
    intro heq
    have hsame := hsite
    rw [heq] at hsame
    exact absurd hsame (by decide)
  have hentries : Text.entries d.localization.availableLocales ≠ [] := by decide +kernel
  obtain ⟨hmem, hkept⟩ := havailable "en" rfl hentries
  exact ⟨hchanged.mpr hne, hsite, hdirectory rfl, hclient "en" rfl, hmem, hkept,
    hother .fileDriver (by decide)⟩

end Document

end SettingsStore
