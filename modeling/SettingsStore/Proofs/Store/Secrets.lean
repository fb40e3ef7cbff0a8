import SettingsStore.Proofs.Store.Echo

/-!
# Secrets that are set

A user may send back a document with its secrets masked, in whole or in part. A set puts the secrets
in use in place of the masks, fills in no mask of its own, and puts back what is kept of the leaves
that are overridden. So if there was no mask in the documents of a store, there is none afterwards,
neither in use nor on the medium, but for one case: nothing of a list is restored that has the mask
beside other items, and the mask is stored as a secret unless the environment overrides the list.
-/

namespace SettingsStore

namespace Document

theorem get_repaired_of_isSecret {l : Leaf} (h : l.isSecret = true) (d : Document) :
    d.repaired.get l = d.get l := by
  cases l
  case dataSource | dataSourceReplicas | publicLinkSalt | smtpPassword => rfl
  all_goals cases h

/-- The replacement for an unset secret is not the mask. -/
theorem hasMask_get_fill_inherit_iff {previous : Document} (h : ¬previous.HasMask)
    (hcomplete : previous.IsComplete) (d : Document) (salt : String) {l : Leaf}
    (hsecret : l.isSecret = true) :
    l.type.HasMask (((d.inherit previous).fill salt).get l) ↔ l.type.HasMask (d.get l) := by
  cases l
  case dataSource =>
    change some (d.sql.dataSource.getD "app.db") = some mask ↔ d.sql.dataSource = some mask
    cases d.sql.dataSource with
    | none => decide
    | some x => rfl
  case publicLinkSalt =>
    change some ((d.files.publicLinkSalt <|> previous.files.publicLinkSalt).getD salt) =
      some mask ↔ d.files.publicLinkSalt = some mask
    cases d.files.publicLinkSalt with
    | some x => rfl
    | none =>
        obtain ⟨x, hx⟩ := Option.isSome_iff_exists.mp hcomplete.publicLinkSalt
        refine iff_of_false (fun hmask => h ⟨.publicLinkSalt, rfl, ?_⟩) nofun
        rw [hx] at hmask
        exact hx.trans hmask
  case dataSourceReplicas | smtpPassword => rfl
  all_goals cases hsecret

theorem hasMask_iff {d : Document} {leaves : List Leaf} {mixes : Prop}
    (h : ∀ l : Leaf, l.isSecret = true → (l.type.HasMask (d.get l) ↔
      l ∉ leaves ∧ l = .dataSourceReplicas ∧ mixes)) :
    d.HasMask ↔ .dataSourceReplicas ∉ leaves ∧ mixes := by
  constructor
  · rintro ⟨l, hsecret, hmask⟩
    obtain ⟨hl, rfl, hmixes⟩ := (h l hsecret).mp hmask
    exact ⟨hl, hmixes⟩
  · rintro ⟨hl, hmixes⟩
    exact ⟨.dataSourceReplicas, rfl, (h _ rfl).mpr ⟨hl, rfl, hmixes⟩⟩

end Document

namespace Store

variable {σ κ : Type} {s s' : Store σ κ} {fresh : Fresh}

theorem Coherent.get_active_of_mem (h : s.Coherent) {l : Leaf} (hl : l ∈ s.overridden)
    (hsecret : l.isSecret = true) : s.options.value? l = some (s.active.get l) := by
  have hfits := (Options.effective_eq_ok_iff.mp h.effective).1
  rw [h.overridden_eq, Options.mem_overridden_iff hfits] at hl
  obtain ⟨v, hv⟩ := Option.isSome_iff_exists.mp hl
  rw [h.active_eq, Document.get_repaired_of_isSecret hsecret, Options.get_overlay, hv]
  rfl

/-- What is made of a candidate has the mask in a secret only if the candidate mixes it in. -/
theorem Coherent.hasMask_get_prepared_iff (h : s.Coherent) (hactive : ¬s.active.HasMask)
    (hpersisted : ¬s.persisted.HasMask) (salt : String) (candidate : Document) {l : Leaf}
    (hsecret : l.isSecret = true) : l.type.HasMask ((s.prepared salt candidate).get l) ↔
      l = .dataSourceReplicas ∧ LeafType.MixesMask candidate.sql.dataSourceReplicas := by
  rw [prepared, Document.get_repaired_of_isSecret hsecret,
    Document.hasMask_get_fill_inherit_iff hpersisted h.complete _ _ hsecret]
  exact Document.hasMask_get_unmask_iff hactive hsecret

theorem Coherent.hasMask_get_toPersist_iff (h : s.Coherent) (hactive : ¬s.active.HasMask)
    (hpersisted : ¬s.persisted.HasMask) (salt : String) (candidate : Document) {l : Leaf}
    (hsecret : l.isSecret = true) : l.type.HasMask ((s.toPersist salt candidate).get l) ↔
      l ∉ s.overridden ∧ l = .dataSourceReplicas ∧
        LeafType.MixesMask candidate.sql.dataSourceReplicas := by
  rw [h.toPersist_eq]
  by_cases hl : l ∈ s.overridden
  · rw [Document.get_restore_of_mem hl]
    exact iff_of_false (fun hmask => hpersisted ⟨l, hsecret, hmask⟩) fun hboth => hboth.1 hl
  · rw [Document.get_restore_of_notMem hl, and_iff_right hl]
    exact h.hasMask_get_prepared_iff hactive hpersisted salt candidate hsecret

/-- If a store with the same environment had no mask in use, only what is kept can bring one. -/
theorem Coherent.hasMask_get_active_iff (h : s.Coherent) (hactive : ¬s.active.HasMask)
    (h' : s'.Coherent) (hoptions : s'.options = s.options) {l : Leaf}
    (hsecret : l.isSecret = true) : l.type.HasMask (s'.active.get l) ↔
      l ∉ s.overridden ∧ l.type.HasMask (s'.persisted.get l) := by
  have hover : s'.overridden = s.overridden := by
    rw [h'.overridden_eq, hoptions, h.overridden_eq]
  by_cases hl : l ∈ s.overridden
  · have hsame : s'.active.get l = s.active.get l := by
      have hvalue := h'.get_active_of_mem (hover ▸ hl) hsecret
      rw [hoptions, h.get_active_of_mem hl hsecret] at hvalue
      exact (Option.some.inj hvalue).symm
    rw [hsame]
    exact iff_of_false (fun hmask => hactive ⟨l, hsecret, hmask⟩) fun hboth => hboth.1 hl
  · have hkept : s'.active.get l = s'.persisted.get l := by
      refine h'.get_active (hover ▸ hl) ?_ ?_
      · rintro rfl
        cases hsecret
      · rintro rfl
        cases hsecret
    rw [hkept, and_iff_right hl]

variable [Medium σ]

/-- A set puts a mask in use, and stores one, exactly if its candidate has the mask beside other
items in the replicas and these are not overridden. Values of the environment are among those in
use, so none of them is a mask. -/
theorem Reachable.hasMask_of_set_iff (hs : s.Reachable) (hactive : ¬s.active.HasMask)
    (hpersisted : ¬s.persisted.HasMask) {candidate d : Document}
    (hset : s.set fresh candidate = (.ok d, s')) :
    ∃ stored bytes, Medium.persist fresh.revision stored s.medium = (.ok bytes, s'.medium) ∧
      s'.active = d ∧
      (d.HasMask ↔ .dataSourceReplicas ∉ s.overridden ∧
        LeafType.MixesMask candidate.sql.dataSourceReplicas) ∧
      (stored.HasMask ↔ .dataSourceReplicas ∉ s.overridden ∧
        LeafType.MixesMask candidate.sql.dataSourceReplicas) := by
  have hsets := setsTo_of_set hset
  obtain ⟨bytes, _, hpersist⟩ := hsets.persist
  have hkept {l : Leaf} (hsecret : l.isSecret = true) :=
    hs.coherent.hasMask_get_toPersist_iff hactive hpersisted fresh.salt candidate hsecret
  refine ⟨_, bytes, hpersist, hsets.active, ?_, ?_⟩
  · refine Document.hasMask_iff fun l hsecret => ?_
    rw [← hsets.active, hs.coherent.hasMask_get_active_iff hactive (hs.set hset).coherent
      hsets.options hsecret, hsets.persisted, hkept hsecret, ← and_assoc, and_self]
  · exact Document.hasMask_iff fun l hsecret => hkept hsecret

/-- A store in memory that has a replica takes it for a mask alone, but not for a mask before a new
replica. -/
theorem hasMask_in_memory :
    let s := ((inMemory []).2.set ⟨"", ""⟩
      { sql.dataSourceReplicas := ["postgres://replica"] }).2
    let masked : Document := { sql.dataSourceReplicas := [mask] }
    let mixed : Document := { sql.dataSourceReplicas := [mask, "postgres://new"] }
    s.Reachable ∧ ¬s.active.HasMask ∧ ¬s.persisted.HasMask ∧
      (∃ d s' stored, s.set ⟨"", ""⟩ masked = (.ok d, s') ∧ s'.medium.saved = some stored ∧
        ¬d.HasMask ∧ ¬stored.HasMask) ∧
      ∃ d s' stored, s.set ⟨"", ""⟩ mixed = (.ok d, s') ∧ s'.medium.saved = some stored ∧
        d.HasMask ∧ stored.HasMask := by
  intro s masked mixed
  have hstart : (inMemory []).2.Reachable := reachable_inMemory (by decide +kernel)
  have hs : s.Reachable :=
    hstart.acted (.set ⟨"", ""⟩ { sql.dataSourceReplicas := ["postgres://replica"] })
  have hactive : ¬s.active.HasMask := by decide +kernel
  have hpersisted : ¬s.persisted.HasMask := by decide +kernel
  have hover : .dataSourceReplicas ∉ s.overridden := by decide +kernel
  have hmasked : (s.set ⟨"", ""⟩ masked).1.isOk = true := by decide +kernel
  have hmixed : (s.set ⟨"", ""⟩ mixed).1.isOk = true := by decide +kernel
  -- What follows is the same for each store with these properties.
  clear_value s
  have hsets : ∀ candidate, (s.set ⟨"", ""⟩ candidate).1.isOk = true →
      ∃ d s' stored, s.set ⟨"", ""⟩ candidate = (.ok d, s') ∧ s'.medium.saved = some stored ∧
        (d.HasMask ↔ LeafType.MixesMask candidate.sql.dataSourceReplicas) ∧
        (stored.HasMask ↔ LeafType.MixesMask candidate.sql.dataSourceReplicas) := by
    intro candidate hok
    obtain ⟨d, hset⟩ := exists_set_of_isOk hok
    obtain ⟨stored, bytes, hpersist, _, hshown, hstored⟩ :=
      hs.hasMask_of_set_iff hactive hpersisted hset
    rw [and_iff_right hover] at hshown hstored
    exact ⟨d, _, stored, hset, congrArg (·.2.saved) hpersist.symm, hshown, hstored⟩
  refine ⟨hs, hactive, hpersisted, ?_, ?_⟩
  · obtain ⟨d, s', stored, hset, hsaved, hshown, hstored⟩ := hsets masked hmasked
    have hnot : ¬LeafType.MixesMask masked.sql.dataSourceReplicas := by decide
    exact ⟨d, s', stored, hset, hsaved, hshown.not.mpr hnot, hstored.not.mpr hnot⟩
  · obtain ⟨d, s', stored, hset, hsaved, hshown, hstored⟩ := hsets mixed hmixed
    have hmixes : LeafType.MixesMask mixed.sql.dataSourceReplicas := by decide
    exact ⟨d, s', stored, hset, hsaved, hshown.mpr hmixes, hstored.mpr hmixes⟩

end Store

end SettingsStore
