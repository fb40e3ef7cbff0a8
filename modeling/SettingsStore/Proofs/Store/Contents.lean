import SettingsStore.Proofs.Document.Text
import SettingsStore.Proofs.Medium.Faithful
import SettingsStore.Proofs.Store.Run

/-!
# What a store knows of its medium

A store that may write remembers bytes that stand for the document it keeps, whatever others do to
the medium: the bytes that it wrote last, or those that it read and had no need to write again. As
long as nobody else changes the medium, these are the bytes there.
-/

namespace SettingsStore

namespace Store

variable {σ κ : Type} [Medium σ] {s s' : Store σ κ} {fresh : Fresh}

/-- The remembered bytes stand for the kept document. -/
def Remembers (s : Store σ κ) : Prop :=
  ∃ b, s.synced = some b ∧ b.isEmpty = false ∧
    (Medium.codec s.medium).decode b = .ok s.persisted

/-- The medium has the remembered bytes. -/
def Untouched (s : Store σ κ) : Prop := Medium.load s.medium = .ok s.synced

/-! ## Loading -/

theorem content_eq_some {bytes : Option Bytes} {b : Bytes} :
    content bytes = some b ↔ bytes = some b ∧ b.isEmpty = false := by
  simp [content]

theorem decode_of_isComplete {b : Bytes} {d : Document} (s : Store σ κ) (salt : String)
    (h : (Medium.codec s.medium).decode b = .ok d) (hd : d.IsComplete) :
    s.decode salt (some b) = .ok (d.repaired, d.repair.2) := by
  rw [decode_some, h]
  simp [Except.map, s.completed_of_isComplete salt hd]

/-- What need not be written again is on the medium as it is. -/
theorem of_decode_false {salt : String} {bytes : Option Bytes} {d : Document}
    (h : s.decode salt bytes = .ok (d, false)) :
    ∃ b, bytes = some b ∧ (Medium.codec s.medium).decode b = .ok d ∧ d.IsNormal := by
  cases bytes with
  | none =>
      rw [decode_none] at h
      cases h
  | some b =>
      rw [decode_some] at h
      cases hb : (Medium.codec s.medium).decode b with
      | error cause =>
          rw [hb] at h
          cases h
      | ok decoded =>
          rw [hb, Except.map, Except.ok.injEq, Prod.mk.injEq, Bool.or_eq_false_iff,
            Bool.not_eq_false', decide_eq_true_eq] at h
          obtain ⟨hd, hcompleted, hrepair⟩ := h
          rw [hcompleted] at hd hrepair
          have hnormal := Document.repair_snd_eq_false_iff.mp hrepair
          rw [hnormal.repaired_eq] at hd
          exact ⟨b, rfl, hd ▸ hb, hd ▸ hnormal⟩

theorem writeBack_eq_ok {revision : String} {d : Document} {written : Option Bytes} {medium : σ}
    (hwrite : s.options.readOnly = false)
    (h : s.writeBack revision d = (.ok written, medium)) :
    ∃ b, written = some b ∧ Medium.persist revision d s.medium = (.ok b, medium) := by
  rw [writeBack, hwrite] at h
  cases hp : Medium.persist revision d s.medium with
  | mk done medium' =>
      rw [hp] at h
      cases done with
      | error cause => cases h
      | ok b =>
          cases h
          exact ⟨b, rfl, rfl⟩

/-- A load writes the document that it adopts, or finds it on the medium. -/
theorem loadBytes_ok {bytes : Option Bytes} {loaded : Loaded}
    (hwrite : s.options.readOnly = false)
    (h : s.loadBytes fresh bytes = (.ok loaded, s')) :
    (∃ b, loaded.saved = true ∧ s'.synced = some b ∧
      Medium.persist fresh.revision s'.persisted s.medium = (.ok b, s'.medium)) ∨
    ∃ b, loaded.saved = false ∧ s'.synced = some b ∧ content bytes = some b ∧
      s'.medium = s.medium ∧ (Medium.codec s.medium).decode b = .ok s'.persisted ∧
      s'.persisted.IsNormal := by
  rcases s.loadBytes_cases fresh bytes with ⟨cause, medium, _, hload⟩ |
    ⟨d, needsSave, e, written, medium, hd, _, hw, hload⟩
  · rw [hload] at h
    cases h
  · rw [hload] at h
    cases h
    cases needsSave with
    | true =>
        obtain ⟨b, rfl, hpersist⟩ := writeBack_eq_ok hwrite hw
        exact Or.inl ⟨b, rfl, rfl, hpersist⟩
    | false =>
        obtain ⟨b, hb, hdecode, hnormal⟩ := of_decode_false hd
        cases hw
        exact Or.inr ⟨b, rfl, hb, hb, rfl, hdecode, hnormal⟩

/-! ## Remembered bytes -/

theorem Remembers.withMedium (h : s.Remembers) {medium : σ}
    (hcodec : Medium.codec medium = Medium.codec s.medium) :
    ({ s with medium } : Store σ κ).Remembers := by
  obtain ⟨b, hsynced, hb, hdecode⟩ := h
  exact ⟨b, hsynced, hb, hcodec ▸ hdecode⟩

theorem Remembers.change (h : s.Remembers) {f : σ → Except PersistenceError Unit × σ}
    (hf : Medium.codec (f s.medium).2 = Medium.codec s.medium) : (s.change f).2.Remembers := by
  unfold Store.change
  split
  · exact h
  · split
    · exact h
    · exact h.withMedium hf

section

variable [LawfulMedium σ]

theorem codec_of_attempt {m m' : σ} (h : Attempt m m') : Medium.codec m' = Medium.codec m := by
  rcases h with rfl | ⟨id, d, cause, h⟩
  · rfl
  · have hcodec := LawfulMedium.codec_persist id d m
    rwa [h] at hcodec

theorem remembers_of_persist {b : Bytes} {id : String} {m : σ} (hsynced : s.synced = some b)
    (h : Medium.persist id s.persisted m = (.ok b, s.medium)) : s.Remembers := by
  have hcodec := LawfulMedium.codec_persist id s.persisted m
  have hbytes := LawfulMedium.bytes_of_persist id (congrArg Prod.fst h)
  rw [h] at hcodec
  refine ⟨b, hsynced, ?_, ?_⟩
  · rw [hbytes]
    exact Codec.isEmpty_encode _ _
  · rw [hcodec, hbytes]
    exact Codec.decode_encode _ _

theorem remembers_of_loadBytes {bytes : Option Bytes} {loaded : Loaded}
    (hwrite : s.options.readOnly = false)
    (h : s.loadBytes fresh bytes = (.ok loaded, s')) : s'.Remembers := by
  rcases loadBytes_ok hwrite h with ⟨b, _, hsynced, hpersist⟩ |
    ⟨b, _, hsynced, hcontent, hmedium, hdecode, _⟩
  · exact remembers_of_persist hsynced hpersist
  · exact ⟨b, hsynced, (content_eq_some.mp hcontent).2, hmedium ▸ hdecode⟩

theorem Remembers.loadBytes (h : s.Remembers) (hwrite : s.options.readOnly = false)
    (fresh : Fresh) (bytes : Option Bytes) : (s.loadBytes fresh bytes).2.Remembers := by
  rcases s.loadBytes_cases fresh bytes with ⟨cause, medium, hmedium, hload⟩ |
    ⟨d, needsSave, e, written, medium, _, _, _, hload⟩
  · rw [hload]
    exact h.withMedium (codec_of_attempt hmedium)
  · rw [hload]
    exact remembers_of_loadBytes hwrite hload

theorem Remembers.act_load (h : s.Remembers) (hwrite : s.options.readOnly = false)
    {a : Action σ κ} (ha : a = .reload fresh ∨ a = .sync fresh) : (s.act a).Remembers := by
  rcases s.act_load_cases ha with hact | ⟨bytes, _, _, hact⟩
  · rw [hact]
    exact h
  · rw [hact]
    exact h.loadBytes hwrite fresh bytes

theorem Remembers.set (h : s.Remembers) (fresh : Fresh) (candidate : Document) :
    (s.set fresh candidate).2.Remembers := by
  rcases s.set_cases fresh candidate with ⟨cause, medium, hmedium, hset⟩ |
    ⟨e, b, medium, _, _, _, hpersist, hset⟩
  · rw [hset]
    exact h.withMedium (codec_of_attempt hmedium)
  · rw [hset]
    exact remembers_of_persist rfl hpersist

theorem Remembers.act (h : s.Remembers) (hwrite : s.options.readOnly = false)
    (a : Action σ κ) : (s.act a).Remembers := by
  cases a with
  | set fresh candidate => exact h.set fresh candidate
  | reload fresh => exact h.act_load hwrite (Or.inl rfl)
  | sync fresh => exact h.act_load hwrite (Or.inr rfl)
  | putFile name bytes => exact h.change (LawfulMedium.codec_putFile name bytes s.medium)
  | eraseFile name => exact h.change (LawfulMedium.codec_eraseFile name s.medium)
  | listen callback => exact h
  | unlisten id => exact h
  | deliver =>
      rw [Store.act]
      split
      · exact h
      · exact h
  | close =>
      rw [Store.act, Store.close]
      split
      · exact h
      · exact h
  | edit medium =>
      rw [Store.act]
      split
      · next hcodec => exact h.withMedium hcodec
      · exact h

/-- A store that may write always remembers what it keeps. -/
theorem Reachable.remembers (h : s.Reachable) (hwrite : s.options.readOnly = false) :
    s.Remembers := by
  induction h with
  | @opened options salt fresh medium loaded s hopen =>
      have hoptions := options_of_openMedium hopen
      obtain ⟨bytes, _, hload⟩ := exists_load_of_openMedium hopen
      exact remembers_of_loadBytes (s := ofMedium options salt medium) (hoptions ▸ hwrite) hload
  | @acted s a _ ih =>
      rw [options_act] at hwrite
      exact (ih hwrite).act hwrite a

/-- A store that may write and that nobody interfered with holds what it keeps. -/
theorem Reachable.holds (h : s.Reachable) (hwrite : s.options.readOnly = false)
    (huntouched : s.Untouched) : Medium.Holds s.medium s.persisted := by
  obtain ⟨b, hsynced, _, hdecode⟩ := h.remembers hwrite
  exact ⟨b, hsynced ▸ huntouched, hdecode⟩

end

/-! ## Untouched media -/

/-- A set leaves its bytes on a faithful medium. -/
theorem untouched_of_set {candidate d : Document} (hmedium : Medium.Faithful s.medium)
    (h : s.set fresh candidate = (.ok d, s')) : s'.Untouched := by
  obtain ⟨b, hsynced, hpersist⟩ := (setsTo_of_set h).persist
  rw [Untouched, hsynced]
  exact hmedium hpersist

/-- A load finds its bytes on a faithful medium, or leaves them there. -/
theorem untouched_of_loadBytes {bytes : Option Bytes} {loaded : Loaded}
    (hmedium : Medium.Faithful s.medium) (hwrite : s.options.readOnly = false)
    (hbytes : Medium.load s.medium = .ok bytes)
    (h : s.loadBytes fresh bytes = (.ok loaded, s')) : s'.Untouched := by
  rcases loadBytes_ok hwrite h with ⟨b, _, hsynced, hpersist⟩ |
    ⟨b, _, hsynced, hcontent, hsame, _, _⟩
  · rw [Untouched, hsynced]
    exact hmedium hpersist
  · rw [Untouched, hsynced, hsame, hbytes, (content_eq_some.mp hcontent).1]

theorem untouched_of_load {loaded : Loaded} (hmedium : Medium.Faithful s.medium)
    (hwrite : s.options.readOnly = false) (h : s.load fresh = (.ok loaded, s')) :
    s'.Untouched := by
  rcases s.load_cases fresh with ⟨cause, hload⟩ | ⟨bytes, hbytes, hload⟩
  · rw [hload] at h
    cases h
  · rw [hload] at h
    exact untouched_of_loadBytes hmedium hwrite hbytes h

theorem untouched_of_openMedium {options : Options} {salt : String} {medium : σ} {loaded : Loaded}
    (hmedium : Medium.Faithful medium) (hwrite : options.readOnly = false)
    (h : openMedium options salt fresh medium = (.ok loaded, s)) : s.Untouched :=
  untouched_of_load (s := ofMedium options salt medium) hmedium hwrite h

end Store

end SettingsStore
