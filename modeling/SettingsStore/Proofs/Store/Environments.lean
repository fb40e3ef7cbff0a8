import SettingsStore.Proofs.Store.Coherence
import SettingsStore.Proofs.Store.Echo

/-!
# Stores that differ in the values of their environments

Two stores whose environments have the same variables keep the same documents and store the same
bytes, whatever the values are, as long as the same operations succeed on both. What a store keeps
of a load does not depend on its environment, and what it keeps of a set only by the secrets that
are put in place of masks. A secret that is in use from the environment is overridden, so what is
kept of it is put back, and any other is in use as it is kept.
-/

namespace SettingsStore

namespace Options

/-- Options that differ in nothing but the values of variables. -/
structure Twins (o₁ o₂ : Options) : Prop where
  others : { o₁ with environment := o₂.environment } = o₂
  present (l : Leaf) : (o₁.environment.find? (l.variableName o₁.lead)).isSome =
    (o₂.environment.find? (l.variableName o₁.lead)).isSome

variable {o₁ o₂ : Options}

theorem twins_of_names (o : Options) {e₁ e₂ : Environment}
    (h : e₁.map Prod.fst = e₂.map Prod.fst) :
    Twins { o with environment := e₁ } { o with environment := e₂ } := by
  have hmem (e : Environment) (name : String) :
      (e.find? name).isSome = true ↔ name ∈ e.map Prod.fst := by
    simp [Environment.find?, List.lookup_isSome_iff]
  refine ⟨rfl, fun l => ?_⟩
  rw [Bool.eq_iff_iff, hmem, hmem, h]

theorem Twins.readOnly_eq (h : o₁.Twins o₂) : o₁.readOnly = o₂.readOnly := by
  rw [← h.others]

theorem Twins.overridden_eq (h : o₁.Twins o₂) : o₁.overridden = o₂.overridden := by
  have hfilter : o₁.environment.overridden o₁.lead = o₂.environment.overridden o₁.lead :=
    List.filter_congr fun l _ => h.present l
  rw [overridden, hfilter, ← h.others]
  rfl

theorem exists_effective {o : Options} (hfits : o.Fits) (hskip : o.skipValidation = true)
    (d : Document) : ∃ e, o.effective d = .ok e := by
  refine ⟨_, effective_eq_ok_iff.mpr ⟨hfits, rfl, fun hcheck => ?_⟩⟩
  rw [hskip] at hcheck
  cases hcheck

end Options

namespace Store

variable {σ κ : Type} {s₁ s₂ : Store σ κ} {fresh : Fresh}

/-- A leaf that is not overridden if it is a secret. -/
def Unshadowed (s : Store σ κ) (l : Leaf) : Prop := l.isSecret = true → l ∉ s.overridden

/-- A repair derives no secret, and derives nothing from one. -/
theorem selfContained_unshadowed (s : Store σ κ) : Document.SelfContained s.Unshadowed :=
  ⟨fun _ hsecret => absurd hsecret Bool.false_ne_true,
    fun _ hsecret => absurd hsecret Bool.false_ne_true⟩

/-- Stores that keep and know the same, with environments that have the same variables. -/
structure Alike (s₁ s₂ : Store σ κ) : Prop where
  options : s₁.options.Twins s₂.options
  medium : s₁.medium = s₂.medium
  persisted : s₁.persisted = s₂.persisted
  synced : s₁.synced = s₂.synced
  closed : s₁.closed = s₂.closed

namespace Alike

/-- Stores stay alike if an operation that fails leaves them as they were and the same fails on
both. -/
theorem of_results (h : Alike s₁ s₂) {α : Type} {r₁ r₂ : Except StoreError α × Store σ κ}
    (hsame : r₁.1.isOk = r₂.1.isOk)
    (herror₁ : ∀ {cause s'}, r₁ = (.error cause, s') → s' = s₁)
    (herror₂ : ∀ {cause s'}, r₂ = (.error cause, s') → s' = s₂)
    (hok : ∀ {x₁ x₂ s₁' s₂'}, r₁ = (.ok x₁, s₁') → r₂ = (.ok x₂, s₂') → Alike s₁' s₂') :
    Alike r₁.2 r₂.2 := by
  obtain ⟨result₁, s₁'⟩ := r₁
  obtain ⟨result₂, s₂'⟩ := r₂
  cases result₁ with
  | error cause₁ =>
      cases result₂ with
      | error cause₂ =>
          rw [herror₁ rfl, herror₂ rfl]
          exact h
      | ok x₂ => cases hsame
  | ok x₁ =>
      cases result₂ with
      | error cause₂ => cases hsame
      | ok x₂ => exact hok rfl rfl

theorem withListeners (h : Alike s₁ s₂) (ls₁ ls₂ : Listeners κ) :
    Alike { s₁ with listeners := ls₁ } { s₂ with listeners := ls₂ } :=
  ⟨h.options, h.medium, h.persisted, h.synced, h.closed⟩

theorem withMedium (h : Alike s₁ s₂) (medium : σ) :
    Alike { s₁ with medium } { s₂ with medium } :=
  ⟨h.options, rfl, h.persisted, h.synced, h.closed⟩

theorem change (h : Alike s₁ s₂) (f : σ → Except PersistenceError Unit × σ) :
    Alike (s₁.change f).2 (s₂.change f).2 := by
  unfold Store.change
  rw [← h.closed, ← h.options.readOnly_eq, ← h.medium]
  split
  · exact h
  · split
    · exact h
    · exact ⟨h.options, rfl, h.persisted, h.synced, rfl⟩

theorem close (h : Alike s₁ s₂) : Alike s₁.close.2 s₂.close.2 := by
  unfold Store.close
  rw [← h.closed]
  split
  · exact h
  · exact ⟨h.options, h.medium, h.persisted, h.synced, rfl⟩

/-! ## Sets -/

theorem overridden_eq (h : Alike s₁ s₂) (h₁ : s₁.Coherent) (h₂ : s₂.Coherent) :
    s₁.overridden = s₂.overridden :=
  h₁.overridden_eq.trans (h.options.overridden_eq.trans h₂.overridden_eq.symm)

theorem get_active (h : Alike s₁ s₂) (h₁ : s₁.Coherent) (h₂ : s₂.Coherent) {l : Leaf}
    (hsecret : l.isSecret = true) (hl : l ∉ s₁.overridden) :
    s₁.active.get l = s₂.active.get l := by
  have hdirectory : l ≠ .fileDirectory := fun heq => by
    rw [heq] at hsecret
    cases hsecret
  have havailable : l ≠ .availableLocales := fun heq => by
    rw [heq] at hsecret
    cases hsecret
  have hl₂ : l ∉ s₂.overridden := h.overridden_eq h₁ h₂ ▸ hl
  rw [h₁.get_active hl hdirectory havailable, h₂.get_active hl₂ hdirectory havailable, h.persisted]

/-- What the two stores make of a candidate differs in overridden secrets only. -/
theorem agreesOn_prepared (h : Alike s₁ s₂) (h₁ : s₁.Coherent) (h₂ : s₂.Coherent) (salt : String)
    (candidate : Document) :
    Document.AgreesOn s₁.Unshadowed (s₁.prepared salt candidate)
      (s₂.prepared salt candidate) := by
  have hunmask : Document.AgreesOn s₁.Unshadowed (candidate.unmask s₁.active)
      (candidate.unmask s₂.active) := by
    intro l hl
    rw [Document.get_unmask, Document.get_unmask]
    split
    · next hmask =>
        rw [Bool.and_eq_true] at hmask
        exact h.get_active h₁ h₂ hmask.1 (hl hmask.1)
    · rfl
  rw [prepared, prepared, ← h.persisted]
  exact ((hunmask.inherit s₁.persisted).fill salt).repaired (selfContained_unshadowed s₁)

theorem toPersist_eq (h : Alike s₁ s₂) (h₁ : s₁.Coherent) (h₂ : s₂.Coherent) (salt : String)
    (candidate : Document) : s₁.toPersist salt candidate = s₂.toPersist salt candidate := by
  rw [h₁.toPersist_eq, h₂.toPersist_eq, ← h.overridden_eq h₁ h₂, ← h.persisted]
  apply Document.ext_get
  intro l
  -- What is overridden is put back, and a leaf that is not overridden is no overridden secret.
  by_cases hl : l ∈ s₁.overridden
  · rw [Document.get_restore_of_mem hl, Document.get_restore_of_mem hl]
  · rw [Document.get_restore_of_notMem hl, Document.get_restore_of_notMem hl]
    exact h.agreesOn_prepared h₁ h₂ salt candidate l fun _ => hl

variable [Medium σ]

theorem set (h : Alike s₁ s₂) (hm : Medium.Atomic s₁.medium) (h₁ : s₁.Coherent) (h₂ : s₂.Coherent)
    {candidate : Document}
    (hsame : (s₁.set fresh candidate).1.isOk = (s₂.set fresh candidate).1.isOk) :
    Alike (s₁.set fresh candidate).2 (s₂.set fresh candidate).2 := by
  refine h.of_results hsame (set_error hm) (set_error (h.medium ▸ hm))
    fun {d₁ d₂ s₁' s₂'} hset₁ hset₂ => ?_
  have hd₁ := setsTo_of_set hset₁
  have hd₂ := setsTo_of_set hset₂
  have hkept := h.toPersist_eq h₁ h₂ fresh.salt candidate
  obtain ⟨b₁, hb₁, hp₁⟩ := hd₁.persist
  obtain ⟨b₂, hb₂, hp₂⟩ := hd₂.persist
  rw [← hkept, ← h.medium, hp₁, Prod.mk.injEq, Except.ok.injEq] at hp₂
  refine ⟨?_, hp₂.2, ?_, ?_, hd₁.closed.trans hd₂.closed.symm⟩
  · rw [hd₁.options, hd₂.options]
    exact h.options
  · rw [hd₁.persisted, hd₂.persisted, hkept]
  · rw [hb₁, hb₂, hp₂.1]

/-! ## Loads -/

theorem decode_eq (h : Alike s₁ s₂) (salt : String) (bytes : Option Bytes) :
    s₁.decode salt bytes = s₂.decode salt bytes := by
  unfold decode
  rw [h.medium, h.persisted]

theorem writeBack_eq (h : Alike s₁ s₂) (revision : String) (d : Document) :
    s₁.writeBack revision d = s₂.writeBack revision d := by
  unfold writeBack
  rw [h.medium, h.options.readOnly_eq]

theorem loadBytes (h : Alike s₁ s₂) (hm : Medium.Atomic s₁.medium) {bytes : Option Bytes}
    (hsame : (s₁.loadBytes fresh bytes).1.isOk = (s₂.loadBytes fresh bytes).1.isOk) :
    Alike (s₁.loadBytes fresh bytes).2 (s₂.loadBytes fresh bytes).2 := by
  refine h.of_results hsame (loadBytes_error hm) (loadBytes_error (h.medium ▸ hm))
    fun {x₁ x₂ s₁' s₂'} hload₁ hload₂ => ?_
  -- Both decode the same document and write it back with the same result. Only what each of them
  -- puts to use is its own.
  rcases s₁.loadBytes_cases fresh bytes with ⟨_, _, _, hfails⟩ |
    ⟨d, needsSave, e₁, written, medium, hd₁, _, hw₁, hok₁⟩
  · rw [hload₁] at hfails
    cases hfails
  rcases s₂.loadBytes_cases fresh bytes with ⟨_, _, _, hfails⟩ |
    ⟨_, _, e₂, _, _, hd₂, _, hw₂, hok₂⟩
  · rw [hload₂] at hfails
    cases hfails
  rw [← h.decode_eq, hd₁, Except.ok.injEq, Prod.mk.injEq] at hd₂
  obtain ⟨rfl, rfl⟩ := hd₂
  rw [← h.writeBack_eq, ← h.medium, hw₁, Prod.mk.injEq, Except.ok.injEq] at hw₂
  obtain ⟨rfl, rfl⟩ := hw₂
  rw [hload₁] at hok₁
  rw [hload₂] at hok₂
  cases hok₁
  cases hok₂
  exact ⟨h.options, rfl, rfl, rfl, h.closed⟩

theorem load (h : Alike s₁ s₂) (hm : Medium.Atomic s₁.medium)
    (hsame : (s₁.load fresh).1.isOk = (s₂.load fresh).1.isOk) :
    Alike (s₁.load fresh).2 (s₂.load fresh).2 := by
  unfold Store.load at hsame ⊢
  rw [← h.medium] at hsame ⊢
  split
  · exact h
  · next bytes hbytes =>
      rw [hbytes] at hsame
      exact h.loadBytes hm hsame

theorem reload (h : Alike s₁ s₂) (hm : Medium.Atomic s₁.medium)
    (hsame : (s₁.reload fresh).1.isOk = (s₂.reload fresh).1.isOk) :
    Alike (s₁.reload fresh).2 (s₂.reload fresh).2 := by
  unfold Store.reload at hsame ⊢
  rw [← h.closed] at hsame ⊢
  split
  · exact h
  · next hopen =>
      rw [if_neg hopen, if_neg hopen] at hsame
      exact h.load hm hsame

theorem isOk_map {α β ε : Type} (f : α → β) (r : Except ε α) : (r.map f).isOk = r.isOk := by
  cases r <;> rfl

theorem sync (h : Alike s₁ s₂) (hm : Medium.Atomic s₁.medium)
    (hsame : (s₁.sync fresh).1.isOk = (s₂.sync fresh).1.isOk) :
    Alike (s₁.sync fresh).2 (s₂.sync fresh).2 := by
  unfold Store.sync at hsame ⊢
  rw [← h.closed, ← h.medium, ← h.synced] at hsame ⊢
  split
  · exact h
  · next hopen =>
      rw [if_neg hopen, if_neg hopen] at hsame
      split
      · exact h
      · next bytes hbytes =>
          rw [hbytes] at hsame
          dsimp only at hsame ⊢
          split
          · exact h
          · next hother =>
              rw [if_neg hother, if_neg hother] at hsame
              rw [isOk_map, isOk_map] at hsame
              exact h.loadBytes hm hsame

/-! ## Actions -/

theorem act (h : Alike s₁ s₂) (hm : Medium.Atomic s₁.medium) (h₁ : s₁.Coherent) (h₂ : s₂.Coherent)
    {a : Action σ κ} (hsame : (s₁.answer a).isFailure = (s₂.answer a).isFailure) :
    Alike (s₁.act a) (s₂.act a) := by
  cases a with
  | set fresh candidate => exact h.set hm h₁ h₂ (Bool.not_inj hsame)
  | reload fresh => exact h.reload hm (Bool.not_inj hsame)
  | sync fresh => exact h.sync hm (Bool.not_inj hsame)
  | putFile name bytes => exact h.change _
  | eraseFile name => exact h.change _
  | listen callback => exact h.withListeners _ _
  | unlisten id => exact h.withListeners _ _
  | deliver =>
      rw [Store.act, Store.act]
      split
      · split
        · exact h.withListeners _ _
        · exact h.withListeners _ _
      · split
        · exact h.withListeners _ _
        · exact h
  | close => exact h.close
  | edit medium =>
      rw [Store.act, Store.act, ← h.medium]
      split
      · exact h.withMedium medium
      · exact h

end Alike

theorem alike_openMedium [Medium σ] {o₁ o₂ : Options} (ho : o₁.Twins o₂) {medium : σ}
    (hm : Medium.Atomic medium) {salt : String}
    (hsame : (openMedium o₁ salt fresh medium : _ × Store σ κ).1.isOk =
      (openMedium o₂ salt fresh medium : _ × Store σ κ).1.isOk) :
    Alike (openMedium o₁ salt fresh medium : _ × Store σ κ).2
      (openMedium o₂ salt fresh medium).2 := by
  have hclosed : Alike (ofMedium o₁ salt medium : Store σ κ) (ofMedium o₂ salt medium) :=
    ⟨ho, rfl, rfl, rfl, rfl⟩
  exact hclosed.load hm hsame

/-! ## Where nothing is validated -/

theorem isOk_openMedium_empty {o : Options} (hfits : o.Fits) (hskip : o.skipValidation = true)
    (salt : String) (fresh : Fresh) :
    (openMedium o salt fresh Memory.empty : _ × Store Memory κ).1.isOk = true := by
  let s : Store Memory κ := ofMedium o salt Memory.empty
  obtain ⟨e, he⟩ := Options.exists_effective hfits hskip
    (s.completed fresh.salt ((Medium.initial s.medium).fill fresh.salt)).repaired
  have hwritten (d : Document) : ∃ written medium,
      s.writeBack fresh.revision d = (.ok written, medium) := by
    unfold writeBack
    split
    · exact ⟨none, s.medium, rfl⟩
    · exact ⟨_, _, rfl⟩
  obtain ⟨written, medium, hw⟩ := hwritten
    (s.completed fresh.salt ((Medium.initial s.medium).fill fresh.salt)).repaired
  change (s.loadBytes fresh none).1.isOk = true
  unfold loadBytes
  simp only [Option.filter_none, s.decode_none fresh.salt, show s.options = o from rfl, he, if_true,
    hw]
  rfl

theorem isOk_set {s : Store Memory κ} (hopen : s.closed = false)
    (hwrite : s.options.readOnly = false) (hfits : s.options.Fits)
    (hskip : s.options.skipValidation = true) (fresh : Fresh) (candidate : Document) :
    (s.set fresh candidate).1.isOk = true := by
  obtain ⟨e, he⟩ := Options.exists_effective hfits hskip (s.toPersist fresh.salt candidate)
  unfold set
  rw [if_neg (hopen ▸ Bool.false_ne_true), if_neg (hwrite ▸ Bool.false_ne_true)]
  simp only [he]
  rfl

/-! ## What sets leave alone -/

variable [Medium σ] {s : Store σ κ}

def sets (changes : List (Fresh × Document)) : List (Action σ κ) :=
  changes.map fun c => .set c.1 c.2

theorem alone_sets (changes : List (Fresh × Document)) : s.Alone (sets changes) := by
  induction changes generalizing s with
  | nil => trivial
  | cons c changes ih => exact ⟨trivial, ih⟩

theorem run_sets_of_readOnly (hread : s.options.readOnly = true)
    (changes : List (Fresh × Document)) : s.run (sets changes) = s := by
  have hset (c : Fresh × Document) : s.act (.set c.1 c.2) = s :=
    set_snd_of_readOnly hread c.1 c.2
  induction changes with
  | nil => rfl
  | cons c changes ih => exact (congrArg (·.run (sets changes)) (hset c)).trans ih

variable [ReliableMedium σ]

/-- A set keeps what was kept of the leaves that are overridden. -/
theorem Coherent.get_persisted_set (h : s.Coherent) (fresh : Fresh) (candidate : Document)
    {l : Leaf} (hl : l ∈ s.overridden) :
    (s.set fresh candidate).2.persisted.get l = s.persisted.get l := by
  cases hset : s.set fresh candidate with
  | mk result s' =>
      cases result with
      | error cause => rw [set_error (ReliableMedium.atomic s.medium) hset]
      | ok d =>
          rw [(setsTo_of_set hset).persisted, h.toPersist_eq, Document.get_restore_of_mem hl]

theorem Coherent.get_persisted_run_sets (h : s.Coherent) {l : Leaf} (hl : l ∈ s.overridden)
    (changes : List (Fresh × Document)) :
    (s.run (sets changes)).persisted.get l = s.persisted.get l := by
  induction changes generalizing s with
  | nil => rfl
  | cons c changes ih =>
      have hact := h.act (.set c.1 c.2)
      have hover : (s.act (.set c.1 c.2)).overridden = s.overridden := by
        rw [hact.overridden_eq, options_act, h.overridden_eq]
      exact (ih hact (hover.symm ▸ hl)).trans (h.get_persisted_set c.1 c.2 hl)

/-- The stored document keeps what it has of the leaves that are overridden. -/
theorem Reachable.exists_holds_run_sets (hs : s.Reachable)
    (huntouched : s.options.readOnly = false → s.Untouched) {before : Document}
    (hbefore : Medium.Holds s.medium before) (changes : List (Fresh × Document)) :
    ∃ after, Medium.Holds (s.run (sets changes)).medium after ∧
      ∀ l ∈ s.overridden, after.get l = before.get l := by
  cases hread : s.options.readOnly with
  | true => exact ⟨before, by rwa [run_sets_of_readOnly hread], fun _ _ => rfl⟩
  | false =>
      have hkept := hbefore.unique (hs.holds hread (huntouched hread))
      have hrun := (huntouched hread).run hread (alone_sets changes)
      have hwrite : (s.run (sets changes)).options.readOnly = false :=
        (s.options_run _).symm ▸ hread
      refine ⟨_, (hs.run (sets changes)).holds hwrite hrun, fun l hl => ?_⟩
      rw [hkept, hs.coherent.get_persisted_run_sets hl]

end Store

end SettingsStore
