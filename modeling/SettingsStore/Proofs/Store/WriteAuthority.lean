import SettingsStore.Proofs.Access.Patch
import SettingsStore.Proofs.Store.Candidate

/-!
# Who may change the document in use

An update is a patch of the document in use that is then set. Setting completes and repairs the
patched document, puts back what is kept of the leaves that are overridden, overrides them again and
repairs once more, and all of this can change leaves that the patch is not about. But each leaf that
a repair derives from another needs the same permissions as that one, and the overriding values are
in the document in use already. So an update changes only leaves that its caller may write, and
while system administrators are restricted, no update changes a leaf that is restricted for them.
-/

namespace SettingsStore

theorem Filter.isAllowed_congr {field field' : Field} (h : field.access = field'.access)
    (f : Filter) (access : Access) (restricted : Bool) :
    f.isAllowed field access restricted = f.isAllowed field' access restricted := by
  unfold isAllowed Field.isWriteRestrictable scopes Field.accessTokens
  rw [h]

/-- Leaves that are repaired together need the same permissions. -/
theorem Filter.selfContained_of_isAllowed (f : Filter) (restricted : Bool) :
    Document.SelfContained fun l => f.isAllowed l.field .write restricted = false where
  directory h := by
    have htags : Leaf.fileDirectory.field.access = Leaf.fileDriver.field.access := rfl
    exact f.isAllowed_congr htags .write restricted ▸ h
  availableLocales h := by
    have htags : Leaf.availableLocales.field.access = Leaf.defaultClientLocale.field.access := rfl
    exact f.isAllowed_congr htags .write restricted ▸ h

theorem Filter.isAllowed_write_restricted (f : Filter) {field : Field}
    (h : field.isWriteRestrictable = true) : f.isAllowed field .write true = false := by
  unfold isAllowed
  rw [if_pos ⟨rfl, rfl, h⟩]

/-- A patch, its caller, and the new identifiers for setting its result. -/
structure Request where
  filter : Filter
  patch : Json
  fresh : Fresh

namespace Store

variable {σ κ : Type} [Medium σ]

/-- Patches the document in use, as far as the caller may, and sets the result. -/
def update (s : Store σ κ) (r : Request) : Except StoreError Document × Store σ κ :=
  match r.filter.applyPatch s.active r.patch with
  | .error cause => (.error cause, s)
  | .ok candidate => s.set r.fresh candidate

def updates (s : Store σ κ) (rs : List Request) : Store σ κ :=
  rs.foldl (fun s r => (s.update r).2) s

theorem Coherent.agreesOn_set {s s' : Store σ κ} (h : s.Coherent) {p : Leaf → Prop}
    (hp : Document.SelfContained p) {candidate d : Document} {fresh : Fresh}
    (hc : Document.AgreesOn p candidate s.active) (hs : s.set fresh candidate = (.ok d, s')) :
    s'.active = d ∧ Document.AgreesOn p d s.active := by
  have hdone := setsTo_of_set hs
  refine ⟨hdone.active, fun l hl => ?_⟩
  have hd : d = (s.options.overlay (s.toPersist fresh.salt candidate)).repaired :=
    congrArg Effective.document (Options.effective_eq_ok_iff.mp hdone.effective).2.1
  have hover := Options.agreesOn_overlay (o := s.options) (h.agreesOn_prepared hp hc fresh.salt)
  rw [hd, h.overlay_toPersist, hover.repaired hp l hl, h.active_eq,
    Options.repaired_overlay_repaired]

/-- An update fails and changes nothing in use, or it changes what its caller may write. -/
theorem Coherent.update_cases {s : Store σ κ} (h : s.Coherent) (r : Request) :
    (s.update r).2.Coherent ∧
      ((∃ cause, (s.update r).1 = .error cause ∧ (s.update r).2.active = s.active) ∨
        ∃ d, (s.update r).1 = .ok d ∧ (s.update r).2.active = d ∧
          Document.AgreesOn
            (fun l => r.filter.isAllowed l.field .write s.active.restrictsSystemAdmin = false)
            d s.active) := by
  unfold update
  cases hpatch : r.filter.applyPatch s.active r.patch with
  | error cause => exact ⟨h, Or.inl ⟨cause, rfl, rfl⟩⟩
  | ok candidate =>
      refine ⟨h.act (.set r.fresh candidate), ?_⟩
      have hc : Document.AgreesOn
          (fun l => r.filter.isAllowed l.field .write s.active.restrictsSystemAdmin = false)
          candidate s.active := fun l hl => Filter.get_of_applyPatch hpatch hl
      have hp := r.filter.selfContained_of_isAllowed s.active.restrictsSystemAdmin
      rcases s.set_cases r.fresh candidate with ⟨cause, medium, _, hset⟩ |
        ⟨e, bytes, medium, _, _, _, _, hset⟩
      · dsimp only
        rw [hset]
        exact Or.inl ⟨cause, rfl, rfl⟩
      · have hagree := h.agreesOn_set hp hc hset
        dsimp only
        rw [hset]
        exact Or.inr ⟨e.document, rfl, hagree⟩

/-- While system administrators are restricted, updates keep what is restricted for them. -/
theorem Coherent.get_updates {s : Store σ κ} (h : s.Coherent)
    (hrestricted : s.active.restrictsSystemAdmin = true) (rs : List Request) {l : Leaf}
    (hl : l.field.isWriteRestrictable = true) :
    (s.updates rs).active.get l = s.active.get l := by
  induction rs generalizing s with
  | nil => rfl
  | cons r rs ih =>
      obtain ⟨hcoherent, hcases⟩ := h.update_cases r
      have hkept : ∀ m : Leaf, m.field.isWriteRestrictable = true →
          (s.update r).2.active.get m = s.active.get m := by
        intro m hm
        rcases hcases with ⟨_, _, hactive⟩ | ⟨d, _, hactive, hagree⟩
        · rw [hactive]
        · rw [hactive]
          refine hagree m ?_
          rw [hrestricted]
          exact r.filter.isAllowed_write_restricted hm
      have hflag : (s.update r).2.active.restrictsSystemAdmin = true :=
        (hkept .restrictSystemAdmin (by decide +kernel)).trans hrestricted
      exact (ih hcoherent hflag).trans (hkept l hl)

/-- An update changes only leaves that its caller may write, and no sequence of updates changes a
restricted leaf while system administrators are restricted. -/
theorem Reachable.write_authority {s : Store σ κ} (hs : s.Reachable) :
    (∀ (r : Request) (candidate d : Document) (s' : Store σ κ),
      r.filter.applyPatch s.active r.patch = .ok candidate →
      s.set r.fresh candidate = (.ok d, s') →
      s'.active = d ∧ ∀ l : Leaf, s'.active.get l ≠ s.active.get l →
        r.filter.isAllowed l.field .write s.active.restrictsSystemAdmin = true) ∧
    (s.active.restrictsSystemAdmin = true → ∀ (rs : List Request) (l : Leaf),
      l.field.isWriteRestrictable = true → (s.updates rs).active.get l = s.active.get l) := by
  have h := hs.coherent
  refine ⟨?_, fun hrestricted rs l hl => h.get_updates hrestricted rs hl⟩
  intro r candidate d s' hpatch hset
  have hp := r.filter.selfContained_of_isAllowed s.active.restrictsSystemAdmin
  obtain ⟨hactive, hagree⟩ := h.agreesOn_set hp
    (fun l hl => Filter.get_of_applyPatch hpatch hl) hset
  refine ⟨hactive, fun l hne => ?_⟩
  by_contra hl
  rw [Bool.not_eq_true] at hl
  exact hne (hactive ▸ hagree l hl)

/-- Who puts another client locale to use changes the locales on offer too, and may. Not even one
who holds everything changes the address of a restricted site. -/
theorem write_authority_in_memory :
    let fresh : Fresh := ⟨"0123456789abcdef0123456789abcdef", "first"⟩
    let english := (inMemory []).2.run [.set fresh { localization := ⟨some "en", some "en", "en"⟩ }]
    let german : Request := ⟨⟨⟨[⟨"sysconsole_write_site", "system_scope"⟩]⟩, fun _ => true⟩,
      .obj [("localization_settings", .obj [("default_client_locale", .str "de")])], fresh⟩
    let candidate := { english.active with localization := ⟨some "en", some "de", "en"⟩ }
    let s := (inMemory []).2.run
      [.set ⟨"", ""⟩ { experimental := { restrictSystemAdmin := true } }]
    let r : Request := ⟨⟨.standard, fun _ => true⟩,
      .obj [("service_settings", .obj [("site_url", .str "http://other")])], ⟨"", ""⟩⟩
    (english.Reachable ∧
      german.filter.applyPatch english.active german.patch = .ok candidate ∧
      (∃ d t, english.set german.fresh candidate = (.ok d, t) ∧
        t.active.localization.availableLocales = "en,de") ∧
      german.filter.isAllowed Leaf.availableLocales.field .write
        english.active.restrictsSystemAdmin = true) ∧
    (s.Reachable ∧ s.active.restrictsSystemAdmin = true ∧
      Leaf.siteUrl.field.isWriteRestrictable = true ∧
      (s.updates [r]).active.service.siteUrl = s.active.service.siteUrl) := by
  intro fresh english german candidate s r
  constructor
  · have henglish : english.Reachable := (reachable_inMemory (by decide +kernel)).run _
    have hbefore : english.active.localization.availableLocales = "en" := by decide +kernel
    have hpatched : (german.filter.applyPatch english.active german.patch).toOption.any
        (· = candidate) = true := by
      decide +kernel
    have hlocales : (english.set german.fresh candidate).1.toOption.any
        (·.localization.availableLocales = "en,de") = true := by
      decide +kernel
    clear_value candidate english german
    obtain ⟨patched, hpatch, hsame⟩ := exists_ok_of_any hpatched
    obtain rfl : patched = candidate := of_decide_eq_true hsame
    obtain ⟨d, hd, hafter⟩ := exists_ok_of_any hlocales
    have hset : english.set german.fresh patched = (.ok d, (english.set german.fresh patched).2) :=
      Prod.ext hd rfl
    obtain ⟨hactive, hallowed⟩ := henglish.write_authority.1 german patched d _ hpatch hset
    rw [← hactive, decide_eq_true_iff] at hafter
    refine ⟨henglish, hpatch, ⟨d, _, hset, hafter⟩, hallowed .availableLocales fun hsame => ?_⟩
    exact absurd (hafter.symm.trans (hsame.trans hbefore)) (by decide)
  · have hs : s.Reachable := (reachable_inMemory (by decide +kernel)).run _
    have hrestricted : s.active.restrictsSystemAdmin = true := by decide +kernel
    have hl : Leaf.siteUrl.field.isWriteRestrictable = true := by decide +kernel
    exact ⟨hs, hrestricted, hl, hs.write_authority.2 hrestricted [r] .siteUrl hl⟩

end Store

end SettingsStore
