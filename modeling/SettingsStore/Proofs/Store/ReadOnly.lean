import SettingsStore.Proofs.Store.Durability
import SettingsStore.Proofs.Store.Echo
import SettingsStore.Proofs.Store.Quiet
import Mathlib.Data.Fintype.EquivFin

/-!
# Read-only stores

A store that must not write leaves its medium alone, so each load reads what the first one read. If
that is a document, it is completed in the same way each time: a salt that it lacks is the one that
was generated when it was loaded first. But a medium without a document has a new one made for each
load, which comes with a new salt, and nothing is inherited. So a read-only store never changes
exactly if there is a document on its medium or the salt in use comes from elsewhere.
-/

namespace SettingsStore

/-- Whether there are bytes on a medium that can be a document. -/
def Medium.HasDocument {σ : Type} [Medium σ] (m : σ) : Prop :=
  ∃ b, Medium.load m = .ok (some b) ∧ b.isEmpty = false

theorem Medium.hasDocument_iff {σ : Type} [Medium σ] {m : σ} {bytes : Option Bytes}
    (h : Medium.load m = .ok bytes) : Medium.HasDocument m ↔ Store.content bytes ≠ none := by
  unfold HasDocument
  simp only [h, Except.ok.injEq, Option.ne_none_iff_exists', Store.content_eq_some]

/-- The salts that are generated for an action. -/
def Action.salts {σ κ : Type} : Action σ κ → List String
  | .set fresh _ | .reload fresh | .sync fresh => [fresh.salt]
  | _ => []

namespace Store

variable {σ κ : Type} {s t : Store σ κ} {fresh : Fresh}

/-- A salt that was generated once is inherited ever after. -/
theorem completed_of_persisted {salt : String} {d : Document}
    (h : t.persisted = (s.completed salt d).repaired) (salt' : String) :
    t.completed salt' d = s.completed salt d := by
  have hsalt : t.persisted.files.publicLinkSalt =
      some ((d.files.publicLinkSalt <|> s.persisted.files.publicLinkSalt).getD salt) := by
    rw [h]
    rfl
  apply Document.ext_get
  intro l
  cases l
  case publicLinkSalt =>
    change some ((d.files.publicLinkSalt <|> t.persisted.files.publicLinkSalt).getD salt') =
      some ((d.files.publicLinkSalt <|> s.persisted.files.publicLinkSalt).getD salt)
    rw [hsalt]
    cases d.files.publicLinkSalt with
    | none => rfl
    | some x => rfl
  all_goals rfl

variable [Medium σ]

/-- The document that is made for a medium without one. -/
def made (medium : σ) (salt : String) : Document := ((Medium.initial medium).fill salt).repaired

theorem decode_none_eq_made (s : Store σ κ) (salt : String) :
    s.decode salt none = .ok (made s.medium salt, true) := by
  rw [decode_none, s.completed_of_isComplete salt (Document.isComplete_fill salt _)]
  rfl

/-- Documents that are made for one medium differ in their salts only. -/
theorem get_made_of_ne (medium : σ) (salt salt' : String) {l : Leaf} (hl : l ≠ .publicLinkSalt) :
    (made medium salt).get l = (made medium salt').get l := by
  cases l
  case publicLinkSalt => exact absurd rfl hl
  all_goals rfl

theorem publicLinkSalt_made (medium : σ) (salt : String) :
    (made medium salt).files.publicLinkSalt =
      some ((Medium.initial medium).files.publicLinkSalt.getD salt) := rfl

/-- If the salt in use comes from elsewhere, each document that is made comes to the same. -/
theorem effective_made {o : Options} {medium : σ} {salt : String} {e : Effective}
    (helsewhere : (Medium.initial medium).files.publicLinkSalt ≠ none ∨
      .publicLinkSalt ∈ o.overridden)
    (h : o.effective (made medium salt) = .ok e) (salt' : String) :
    o.effective (made medium salt') = .ok e := by
  obtain ⟨hfits, he, hvalid⟩ := Options.effective_eq_ok_iff.mp h
  have hoverlay : o.overlay (made medium salt') = o.overlay (made medium salt) := by
    apply Document.ext_get
    intro l
    rw [Options.get_overlay, Options.get_overlay]
    by_cases hl : l = .publicLinkSalt
    · subst hl
      rcases helsewhere with hown | hover
      · obtain ⟨x, hx⟩ := Option.ne_none_iff_exists'.mp hown
        have hsame : (made medium salt').get .publicLinkSalt =
            (made medium salt).get .publicLinkSalt := by
          change (made medium salt').files.publicLinkSalt = (made medium salt).files.publicLinkSalt
          rw [publicLinkSalt_made, publicLinkSalt_made, hx]
          rfl
        rw [hsame]
      · obtain ⟨v, hv⟩ := Option.isSome_iff_exists.mp ((Options.mem_overridden_iff hfits).mp hover)
        rw [hv]
        rfl
    · rw [get_made_of_ne medium salt' salt hl]
  rw [← hoverlay] at he hvalid
  exact Options.effective_eq_ok_iff.mpr ⟨hfits, he, hvalid⟩

/-- Once a document is kept, the bytes that it was decoded from are decoded to it again. -/
theorem exists_decode_of_persisted {salt : String} {b : Bytes} {needsSave : Bool}
    (hd : s.decode salt (some b) = .ok (t.persisted, needsSave))
    (hcodec : Medium.codec t.medium = Medium.codec s.medium) (salt' : String) :
    ∃ needsSave', t.decode salt' (some b) = .ok (t.persisted, needsSave') := by
  rw [decode_some] at hd
  cases hb : (Medium.codec s.medium).decode b with
  | error cause =>
      rw [hb] at hd
      cases hd
  | ok decoded =>
      rw [hb, Except.map, Except.ok.injEq, Prod.mk.injEq] at hd
      rw [decode_some, hcodec, hb, Except.map, completed_of_persisted hd.1.symm, hd.1]
      exact ⟨_, rfl⟩

/-! ## Loads that do not write -/

theorem loadBytes_cases_of_readOnly (hread : s.options.readOnly = true) (fresh : Fresh)
    (bytes : Option Bytes) :
    (∃ cause, s.loadBytes fresh bytes = (.error cause, s)) ∨
    ∃ d needsSave e, s.decode fresh.salt (content bytes) = .ok (d, needsSave) ∧
      s.options.effective d = .ok e ∧
      s.loadBytes fresh bytes =
        (.ok ⟨false, decide (s.active ≠ e.document)⟩, (s.adopt d e (content bytes)).2) := by
  cases hd : s.decode fresh.salt (content bytes) with
  | error cause => exact Or.inl ⟨.undecodable cause, loadBytes_of_undecodable hd⟩
  | ok p =>
      obtain ⟨d, needsSave⟩ := p
      cases he : s.options.effective d with
      | error violations => exact Or.inl ⟨.invalid violations, loadBytes_of_invalid hd he⟩
      | ok e => exact Or.inr ⟨d, needsSave, e, rfl, he, loadBytes_unwritten hd (fun _ => hread) he⟩

omit [Medium σ] in
theorem change_of_readOnly (hread : s.options.readOnly = true)
    (f : σ → Except PersistenceError Unit × σ) : (s.change f).2 = s := by
  rw [change, if_pos hread]
  split
  · rfl
  · rfl

/-! ## What stays -/

/-- A read-only store that was loaded: it remembers what it read and keeps what it decoded. -/
structure Settled (s : Store σ κ) (bytes : Option Bytes) : Prop where
  readOnly : s.options.readOnly = true
  coherent : s.Coherent
  load : Medium.load s.medium = .ok bytes
  synced : s.synced = content bytes
  decoded : ∃ (s₀ : Store σ κ) (salt : String) (needsSave : Bool), s₀.medium = s.medium ∧
    s₀.decode salt (content bytes) = .ok (s.persisted, needsSave)

/-- A store after more was asked of it that is as it was, but for those who listen. If a document is
made anew for each load, the last one is kept. -/
structure Stays (s t : Store σ κ) : Prop where
  options : t.options = s.options
  medium : t.medium = s.medium
  active : t.active = s.active
  overridden : t.overridden = s.overridden
  synced : t.synced = s.synced
  persisted : Medium.HasDocument s.medium → t.persisted = s.persisted

theorem Stays.refl (s : Store σ κ) : Stays s s := ⟨rfl, rfl, rfl, rfl, rfl, fun _ => rfl⟩

/-- Whether the document in use has the same salt after each load. -/
def HasSalt (s : Store σ κ) : Prop :=
  Medium.HasDocument s.medium ∨ (Medium.initial s.medium).files.publicLinkSalt ≠ none ∨
    .publicLinkSalt ∈ s.overridden

theorem settled_of_openMedium {options : Options} {salt : String} {medium : σ} {loaded : Loaded}
    (hread : options.readOnly = true)
    (h : openMedium options salt fresh medium = (.ok loaded, s)) : ∃ bytes, s.Settled bytes := by
  obtain ⟨bytes, hbytes, hload⟩ := exists_load_of_openMedium h
  rcases loadBytes_cases_of_readOnly (s := ofMedium options salt medium) hread fresh bytes with
    ⟨cause, hfails⟩ | ⟨d, needsSave, e, hd, _, hok⟩
  · rw [hload] at hfails
    cases hfails
  · have hcoherent := coherent_of_openMedium h
    rw [hload] at hok
    cases hok
    exact ⟨bytes, hread, hcoherent, hbytes, rfl, ofMedium options salt medium, fresh.salt,
      needsSave, rfl, hd⟩

theorem Settled.exists_decode {bytes : Option Bytes} (h : s.Settled bytes) (hsalt : s.HasSalt)
    (ht : Stays s t) (salt' : String) :
    ∃ d needsSave, t.decode salt' (content bytes) = .ok (d, needsSave) ∧
      s.options.effective d = .ok ⟨s.active, s.overridden⟩ ∧
      (Medium.HasDocument s.medium → d = s.persisted) := by
  obtain ⟨s₀, salt, needsSave, hmedium, hd⟩ := h.decoded
  have heffective := h.coherent.effective
  cases hcontent : content bytes with
  | some b =>
      have hkept := ht.persisted ((Medium.hasDocument_iff h.load).mpr (by simp [hcontent]))
      have hcodec : Medium.codec t.medium = Medium.codec s₀.medium := by rw [ht.medium, hmedium]
      rw [hcontent, ← hkept] at hd
      obtain ⟨needsSave', hd'⟩ := exists_decode_of_persisted hd hcodec salt'
      exact ⟨t.persisted, needsSave', hd', hkept ▸ heffective, fun _ => hkept⟩
  | none =>
      have hnone : ¬Medium.HasDocument s.medium := by
        rw [Medium.hasDocument_iff h.load, hcontent]
        exact not_not.mpr rfl
      have helsewhere := hsalt.resolve_left hnone
      rw [hcontent, decode_none_eq_made, hmedium, Except.ok.injEq, Prod.mk.injEq] at hd
      rw [← hd.1] at heffective
      rw [h.coherent.overridden_eq] at helsewhere
      refine ⟨made s.medium salt', true, ?_, effective_made helsewhere heffective salt',
        fun hdocument => absurd hdocument hnone⟩
      rw [decode_none_eq_made, ht.medium]

theorem Settled.exists_loadBytes {bytes : Option Bytes} (h : s.Settled bytes) (hsalt : s.HasSalt)
    (ht : Stays s t) (fresh' : Fresh) :
    ∃ d, Stays s { t with persisted := d } ∧
      t.loadBytes fresh' bytes = (.ok ⟨false, false⟩, { t with persisted := d }) := by
  obtain ⟨d, needsSave, hd, he, hkept⟩ := h.exists_decode hsalt ht fresh'.salt
  have hread : t.options.readOnly = true := ht.options ▸ h.readOnly
  rw [← ht.options, ← ht.active, ← ht.overridden] at he
  exact ⟨d, ⟨ht.options, ht.medium, ht.active, ht.overridden, ht.synced, hkept⟩,
    loadBytes_unchanged hd (fun _ => hread) he (ht.synced.trans h.synced)⟩

theorem Settled.stays_act_load {bytes : Option Bytes} (h : s.Settled bytes) (hsalt : s.HasSalt)
    (ht : Stays s t) {a : Action σ κ} (ha : a = .reload fresh ∨ a = .sync fresh) :
    Stays s (t.act a) := by
  rcases t.act_load_cases ha with hact | ⟨bytes', _, hbytes, hact⟩
  · rw [hact]
    exact ht
  · obtain rfl : bytes = bytes' := by
      rw [ht.medium, h.load] at hbytes
      exact Except.ok.inj hbytes
    obtain ⟨d, hstays, hload⟩ := h.exists_loadBytes hsalt ht fresh
    rw [hact, hload]
    exact hstays

/-- Only others can change more than what is kept. -/
theorem Settled.stays_act {bytes : Option Bytes} (h : s.Settled bytes) (hsalt : s.HasSalt)
    (ht : Stays s t) {a : Action σ κ} (ha : ∀ medium, a ≠ .edit medium) : Stays s (t.act a) := by
  have hread : t.options.readOnly = true := ht.options ▸ h.readOnly
  have hlisteners (ls : Listeners κ) (closed : Bool) :
      Stays s { t with listeners := ls, closed } :=
    ⟨ht.options, ht.medium, ht.active, ht.overridden, ht.synced, ht.persisted⟩
  cases a with
  | set fresh candidate =>
      rw [act, set_snd_of_readOnly hread]
      exact ht
  | reload fresh => exact h.stays_act_load hsalt ht (Or.inl rfl)
  | sync fresh => exact h.stays_act_load hsalt ht (Or.inr rfl)
  | putFile name bytes =>
      rw [act, putFile, change_of_readOnly hread]
      exact ht
  | eraseFile name =>
      rw [act, eraseFile, change_of_readOnly hread]
      exact ht
  | listen callback => exact hlisteners _ _
  | unlisten id => exact hlisteners _ _
  | deliver =>
      rw [act]
      split
      · exact hlisteners _ _
      · exact ht
  | close =>
      rw [act, close]
      split
      · exact ht
      · exact hlisteners _ _
  | edit medium => exact absurd rfl (ha medium)

theorem Settled.stays_run {bytes : Option Bytes} (h : s.Settled bytes) (hsalt : s.HasSalt)
    (ht : Stays s t) {actions : List (Action σ κ)} (hactions : ∀ medium, .edit medium ∉ actions) :
    Stays s (t.run actions) := by
  induction actions generalizing t with
  | nil => exact ht
  | cons a actions ih =>
      have ha : ∀ medium, a ≠ .edit medium := fun medium heq =>
        hactions medium (heq ▸ List.mem_cons_self)
      exact ih (h.stays_act hsalt ht ha) fun medium hmem =>
        hactions medium (List.mem_cons_of_mem a hmem)

/-! ## Constancy -/

/-- A store has the given document in use, and asking it to load changes nothing of it that shows. -/
structure Rests (d : Document) (t : Store σ κ) (fresh : Fresh) : Prop where
  active : t.active = d
  reload : t.closed = false →
    ∃ kept, t.reload fresh = (.ok ⟨false, false⟩, { t with persisted := kept })
  sync : t.closed = false → t.sync fresh = (.ok false, t)

theorem Settled.rests {bytes : Option Bytes} (h : s.Settled bytes) (hsalt : s.HasSalt)
    (ht : Stays s t) (fresh' : Fresh) : t.Rests s.active fresh' := by
  have hload : Medium.load t.medium = .ok bytes := ht.medium ▸ h.load
  refine ⟨ht.active, fun hopen => ?_, fun hopen => ?_⟩
  · obtain ⟨d, _, hloaded⟩ := h.exists_loadBytes hsalt ht fresh'
    exact ⟨d, (reload_eq_loadBytes hopen hload fresh').trans hloaded⟩
  · refine sync_eq_self hopen hload ?_ fresh'
    rw [ht.synced, h.synced, content_content]

/-- If each load makes a new document with a new salt, the next one puts another one to use. -/
theorem Settled.hasSalt_of_rests {bytes : Option Bytes} (h : s.Settled bytes)
    (hreachable : s.Reachable) (hopen : s.closed = false)
    (hnew : s.active.files.publicLinkSalt ≠ some fresh.salt) (hrests : s.Rests s.active fresh) :
    s.HasSalt := by
  by_contra hsalt
  obtain ⟨hnone, hown, hover⟩ := not_or.mp hsalt |>.imp_right not_or.mp
  obtain ⟨d, hreload⟩ := hrests.reload hopen
  obtain ⟨_, bytes', hbytes, hload⟩ := exists_load_of_reload hreload
  rw [Medium.hasDocument_iff hbytes, not_not] at hnone
  rcases loadBytes_cases_of_readOnly h.readOnly fresh bytes' with ⟨cause, hfails⟩ |
    ⟨d', needsSave, e, hd, _, hok⟩
  · rw [hload] at hfails
    cases hfails
  rw [hnone, decode_none_eq_made, Except.ok.injEq, Prod.mk.injEq] at hd
  have hkept : d = d' := congrArg (fun r => r.2.persisted) (hload.symm.trans hok)
  have hcoherent := (hreachable.reload hreload).coherent
  have hactive := hcoherent.get_active (l := .publicLinkSalt) hover Leaf.noConfusion
    Leaf.noConfusion
  have hmade : d.files.publicLinkSalt = some fresh.salt := by
    rw [hkept, ← hd.1, publicLinkSalt_made, not_not.mp hown]
    rfl
  exact hnew (hactive.trans hmade)

/-- Whether nothing that others ask of a store shows, as long as the medium is left alone and no salt
is generated twice. -/
def Constant (s : Store σ κ) (generated : List String) : Prop :=
  ∀ (actions : List (Action σ κ)) (fresh : Fresh), (∀ medium, .edit medium ∉ actions) →
    (generated ++ fresh.salt :: actions.flatMap Action.salts).Nodup →
    (s.run actions).Rests s.active fresh

/-- A read-only store is constant exactly if there is a document on its medium or the salt in use is
not generated. -/
theorem constant_iff {options : Options} {salt : String} {medium : σ} {loaded : Loaded}
    (hread : options.readOnly = true) (hnew : salt ≠ fresh.salt)
    (h : openMedium options salt fresh medium = (.ok loaded, s)) :
    s.Constant [salt, fresh.salt] ↔ s.HasSalt := by
  obtain ⟨bytes, hsettled⟩ := settled_of_openMedium hread h
  constructor
  · intro hconstant
    obtain ⟨x, hx⟩ := Infinite.exists_notMem_finset
      {salt, fresh.salt, s.active.files.publicLinkSalt.getD ""}
    simp only [Finset.mem_insert, Finset.mem_singleton, not_or] at hx
    have hother : s.active.files.publicLinkSalt ≠ some x := fun heq => hx.2.2 (by rw [heq]; rfl)
    have hgenerated : ([salt, fresh.salt] ++ [x]).Nodup := by
      simp [hnew, Ne.symm hx.1, Ne.symm hx.2.1]
    exact hsettled.hasSalt_of_rests (.opened h) (closed_of_openMedium h) hother
      (hconstant [] ⟨x, ""⟩ (fun _ => List.not_mem_nil) hgenerated)
  · intro hsalt actions fresh' hactions _
    exact hsettled.rests hsalt (hsettled.stays_run hsalt (.refl s) hactions) fresh'

/-- A read-only store in memory is constant if there is a document without a salt, but not if there is
none. -/
theorem constant_in_memory :
    let salt := "0123456789abcdef0123456789abcdef"
    let fresh : Fresh := ⟨"fedcba9876543210fedcba9876543210", "first"⟩
    let opened (saved : Option Document) : Except StoreError Loaded × Store Memory Unit :=
      openMedium { Options.default with readOnly := true } salt fresh ⟨saved, []⟩
    (∃ loaded s, opened (some {}) = (.ok loaded, s) ∧ s.Constant [salt, fresh.salt]) ∧
      ∃ loaded s, opened none = (.ok loaded, s) ∧ ¬s.Constant [salt, fresh.salt] := by
  intro salt fresh opened
  have hnew : salt ≠ fresh.salt := by decide
  refine ⟨?_, ?_⟩
  · let s₀ : Store Memory Unit :=
      ofMedium { Options.default with readOnly := true } salt ⟨some {}, []⟩
    have hfull := Codec.isEmpty_encode .json {}
    have hd := s₀.decode_some fresh.salt (Codec.json.encode {})
    rw [show Medium.codec s₀.medium = .json from rfl, Codec.decode_encode,
      ← content_eq_some.mpr ⟨rfl, hfull⟩] at hd
    obtain ⟨e, he⟩ : ∃ e, s₀.options.effective (s₀.completed fresh.salt {}).repaired = .ok e :=
      exists_ok_of_isOk (by decide +kernel)
    have hload : Medium.load s₀.medium = .ok (some (Codec.json.encode {})) := rfl
    have hopened : opened (some {}) = s₀.loadBytes fresh (some (Codec.json.encode {})) := by
      rw [show opened (some {}) = s₀.load fresh from rfl, load, hload]
    obtain ⟨loaded, s, h, hmedium⟩ :
        ∃ loaded s, opened (some {}) = (.ok loaded, s) ∧ s.medium = s₀.medium :=
      ⟨_, _, hopened.trans (loadBytes_unwritten hd (fun _ => rfl) he), rfl⟩
    have hdocument : Medium.HasDocument s.medium := by
      rw [hmedium]
      exact ⟨Codec.json.encode {}, hload, hfull⟩
    exact ⟨loaded, s, h, (constant_iff rfl hnew h).mpr (Or.inl hdocument)⟩
  · obtain ⟨loaded, h⟩ := exists_eq_ok (show (opened none).1.isOk = true by decide +kernel)
    have hsaved : (opened none).2.medium.saved = none := by decide +kernel
    have hover : .publicLinkSalt ∉ (opened none).2.overridden := by decide +kernel
    have hload : Medium.load (opened none).2.medium = .ok none :=
      congrArg (fun saved => Except.ok (Option.map Codec.json.encode saved)) hsaved
    refine ⟨loaded, _, h, ?_⟩
    rw [constant_iff rfl hnew h]
    rintro (hdocument | hown | hmem)
    · exact (Medium.hasDocument_iff hload).mp hdocument rfl
    · exact hown rfl
    · exact hover hmem

end Store

end SettingsStore
