import SettingsStore.Medium.Memory
import SettingsStore.Proofs.Store.Effective

/-!
# Runs of a store

A run of a store is a list of actions: what its users do, the calls that its listeners receive, and
what others do to the medium. Every action either leaves the documents of the store as they are or
adopts another document to keep, and then the one in use is made from it. So in every state that a
store can reach, the document in use is the one that is made from the kept document, the kept
document is complete, and it is a mix of two normal documents: one for the leaves that are
overridden, and one for the others.
-/

namespace SettingsStore

/-- What can happen to a store. The last action is the others'. -/
inductive Action (σ κ : Type) where
  | set (fresh : Fresh) (candidate : Document)
  | reload (fresh : Fresh)
  | sync (fresh : Fresh)
  | putFile (name : String) (bytes : Bytes)
  | eraseFile (name : String)
  | listen (callback : κ)
  | unlisten (id : Nat)
  /-- The call that is due first is made. -/
  | deliver
  | close
  | edit (medium : σ)

namespace Store

variable {σ κ : Type}

theorem exists_ok_of_isOk {ε α : Type} {r : Except ε α} (h : r.isOk = true) : ∃ x, r = .ok x := by
  cases r with
  | error cause => cases h
  | ok x => exact ⟨x, rfl⟩

theorem exists_error_of_isOk_eq_false {ε α : Type} {r : Except ε α} (h : r.isOk = false) :
    ∃ cause, r = .error cause := by
  cases r with
  | error cause => exact ⟨cause, rfl⟩
  | ok x => cases h

theorem exists_ok_of_any {ε α : Type} {r : Except ε α} {p : α → Bool}
    (h : r.toOption.any p = true) : ∃ x, r = .ok x ∧ p x = true := by
  cases r with
  | error cause => cases h
  | ok x => exact ⟨x, rfl, h⟩

theorem exists_eq_ok {ε α β : Type} {r : Except ε α × β} (h : r.1.isOk = true) :
    ∃ x, r = (.ok x, r.2) :=
  (exists_ok_of_isOk h).imp fun _ hx => Prod.ext hx rfl

theorem eq_ok_of_toOption {ε α β : Type} {r : Except ε α × β} {x : α}
    (h : r.1.toOption = some x) : r = (.ok x, r.2) := by
  obtain ⟨result, b⟩ := r
  cases result with
  | error cause => cases h
  | ok y =>
      cases h
      rfl

/-! ## Changes of the kept document -/

/-- The bytes that can be a document: empty ones are none yet. -/
def content (bytes : Option Bytes) : Option Bytes := bytes.filter fun b => !b.isEmpty

/-- A document with its optional settings filled in. -/
def completed (s : Store σ κ) (salt : String) (d : Document) : Document :=
  (d.inherit s.persisted).fill salt

theorem completed_of_isComplete (s : Store σ κ) (salt : String) {d : Document}
    (h : d.IsComplete) : s.completed salt d = d := by
  rw [completed, h.inherit_eq, h.fill_eq]

theorem isComplete_repaired_completed (s : Store σ κ) (salt : String) (d : Document) :
    (s.completed salt d).repaired.IsComplete :=
  (Document.isComplete_fill salt _).repaired

/-- An action that leaves the documents of a store alone. Calls that were due can have been made. -/
structure Keeps (s s' : Store σ κ) : Prop where
  options : s'.options = s.options
  active : s'.active = s.active
  overridden : s'.overridden = s.overridden
  persisted : s'.persisted = s.persisted
  queue : ∀ c ∈ s'.listeners.queue, c ∈ s.listeners.queue

/-- An action that makes a store keep a document: a normal one, or one that has the leaves that are
overridden from the document kept before. -/
structure Adopts (s s' : Store σ κ) (d : Document) : Prop where
  options : s'.options = s.options
  persisted : s'.persisted = d
  effective : s.options.effective d = .ok ⟨s'.active, s'.overridden⟩
  complete : s.persisted.IsComplete → d.IsComplete
  mixed : ∃ n : Document, n.IsNormal ∧ (d = n ∨ d = n.restore s.persisted s.overridden)
  queue : ∀ c ∈ s'.listeners.queue, c ∈ s.listeners.queue ∨
    c.listener ∈ s.listeners.registered ∧ c.old = s.active ∧ c.new = s'.active

theorem Keeps.refl (s : Store σ κ) : Keeps s s := ⟨rfl, rfl, rfl, rfl, fun _ => id⟩

theorem keeps_medium (s : Store σ κ) (medium : σ) : Keeps s { s with medium } :=
  ⟨rfl, rfl, rfl, rfl, fun _ => id⟩

theorem mem_queue_publish {ls : Listeners κ} {old new : Document} {c : Call κ}
    (h : c ∈ (ls.publish old new).queue) :
    c ∈ ls.queue ∨ c.listener ∈ ls.registered ∧ c.old = old ∧ c.new = new := by
  unfold Listeners.publish at h
  split at h
  · exact Or.inl h
  · rcases List.mem_append.mp h with h | h
    · exact Or.inl h
    · obtain ⟨l, hl, rfl⟩ := List.mem_map.mp h
      exact Or.inr ⟨hl, rfl, rfl⟩

theorem toPersist_eq (s : Store σ κ) (salt : String) (candidate : Document) :
    ∃ n : Document, n.IsNormal ∧ n.IsComplete ∧
      (s.toPersist salt candidate = n ∨
        s.toPersist salt candidate = n.restore s.persisted s.overridden) := by
  refine ⟨(((candidate.unmask s.active).inherit s.persisted).fill salt).repaired,
    Document.isNormal_repaired _, (Document.isComplete_fill salt _).repaired, ?_⟩
  unfold toPersist
  split
  · exact Or.inr rfl
  · exact Or.inl rfl

theorem change_keeps (f : σ → Except PersistenceError Unit × σ) (s : Store σ κ) :
    Keeps s (s.change f).2 := by
  unfold change
  split
  · exact Keeps.refl s
  · split
    · exact Keeps.refl s
    · exact s.keeps_medium _

/-! ## Coherence -/

/-- The document in use is made from the kept one, which is complete, and has the leaves that are
overridden from one normal document and the others from another. -/
structure Coherent (s : Store σ κ) : Prop where
  effective : s.options.effective s.persisted = .ok ⟨s.active, s.overridden⟩
  complete : s.persisted.IsComplete
  mixed : ∃ n m : Document, n.IsNormal ∧ m.IsNormal ∧ s.persisted = n.restore m s.overridden

theorem Coherent.overridden_eq {s : Store σ κ} (h : s.Coherent) :
    s.overridden = s.options.overridden :=
  congrArg Effective.overridden (Options.effective_eq_ok_iff.mp h.effective).2.1

theorem Coherent.active_eq {s : Store σ κ} (h : s.Coherent) :
    s.active = (s.options.overlay s.persisted).repaired :=
  congrArg Effective.document (Options.effective_eq_ok_iff.mp h.effective).2.1

theorem Coherent.keeps {s s' : Store σ κ} (h : s.Coherent) (hk : Keeps s s') : s'.Coherent where
  effective := by rw [hk.options, hk.persisted, hk.active, hk.overridden]; exact h.effective
  complete := hk.persisted ▸ h.complete
  mixed := by rw [hk.persisted, hk.overridden]; exact h.mixed

theorem Coherent.adopts {s s' : Store σ κ} {d : Document} (h : s.Coherent) (ha : Adopts s s' d) :
    s'.Coherent where
  effective := by rw [ha.options, ha.persisted]; exact ha.effective
  complete := ha.persisted ▸ ha.complete h.complete
  mixed := by
    have hover : s'.overridden = s.overridden :=
      (congrArg Effective.overridden (Options.effective_eq_ok_iff.mp ha.effective).2.1).trans
        h.overridden_eq.symm
    obtain ⟨n, hn, hd⟩ := ha.mixed
    rw [ha.persisted, hover]
    rcases hd with rfl | rfl
    · exact ⟨d, d, hn, hn, (Document.restore_self d _).symm⟩
    · obtain ⟨_, m, _, hm, hp⟩ := h.mixed
      exact ⟨n, m, hn, hm, by rw [hp, Document.restore_restore]⟩

variable [Medium σ]

/-! ## Actions -/

/-- The store after an action. Others may leave anything on the medium but in its own format. -/
def act (s : Store σ κ) : Action σ κ → Store σ κ
  | .set fresh candidate => (s.set fresh candidate).2
  | .reload fresh => (s.reload fresh).2
  | .sync fresh => (s.sync fresh).2
  | .putFile name bytes => (s.putFile name bytes).2
  | .eraseFile name => (s.eraseFile name).2
  | .listen callback => (s.listen callback).2
  | .unlisten id => (s.unlisten id).2
  | .deliver => match s.listeners.next? with
    | some (_, listeners) => { s with listeners }
    | none => s
  | .close => s.close.2
  | .edit medium => if Medium.codec medium = Medium.codec s.medium then { s with medium } else s

def run (s : Store σ κ) (actions : List (Action σ κ)) : Store σ κ := actions.foldl act s

/-- The states of stores that were opened and then ran. -/
inductive Reachable : Store σ κ → Prop
  | opened {options : Options} {salt : String} {fresh : Fresh} {medium : σ} {loaded : Loaded}
      {s : Store σ κ} : openMedium options salt fresh medium = (.ok loaded, s) → Reachable s
  | acted {s : Store σ κ} (a : Action σ κ) : Reachable s → Reachable (s.act a)

theorem Reachable.run {s : Store σ κ} (h : s.Reachable) (actions : List (Action σ κ)) :
    (s.run actions).Reachable := by
  induction actions generalizing s with
  | nil => exact h
  | cons a actions ih => exact ih (.acted a h)

/-! ## What the operations do -/

/-- A medium as it was, or after it failed to store a document. -/
def Attempt (m m' : σ) : Prop :=
  m' = m ∨ ∃ id d cause, Medium.persist id d m = (.error cause, m')

theorem set_of_closed {s : Store σ κ} (h : s.closed = true) (fresh : Fresh)
    (candidate : Document) : s.set fresh candidate = (.error .closed, s) := if_pos h

theorem set_of_readOnly {s : Store σ κ} (hopen : s.closed = false)
    (hread : s.options.readOnly = true) (fresh : Fresh) (candidate : Document) :
    s.set fresh candidate = (.error .readOnly, s) := by
  rw [set, if_neg (hopen ▸ Bool.false_ne_true), if_pos hread]

theorem set_snd_of_readOnly {s : Store σ κ} (hread : s.options.readOnly = true) (fresh : Fresh)
    (candidate : Document) : (s.set fresh candidate).2 = s := by
  by_cases hclosed : s.closed = true
  · rw [set_of_closed hclosed]
  · rw [set_of_readOnly (eq_false_of_ne_true hclosed) hread]

theorem set_of_invalid {s : Store σ κ} {fresh : Fresh} {candidate : Document}
    {violations : List Violation} (hopen : s.closed = false)
    (hwrite : s.options.readOnly = false)
    (he : s.options.effective (s.toPersist fresh.salt candidate) = .error violations) :
    s.set fresh candidate = (.error (.invalid violations), s) := by
  rw [set, if_neg (hopen ▸ Bool.false_ne_true), if_neg (hwrite ▸ Bool.false_ne_true)]
  simp only [he]

theorem set_of_persist {s : Store σ κ} {fresh : Fresh} {candidate : Document} {e : Effective}
    {bytes : Bytes} {medium : σ} (hopen : s.closed = false)
    (hwrite : s.options.readOnly = false)
    (he : s.options.effective (s.toPersist fresh.salt candidate) = .ok e)
    (hpersist : Medium.persist fresh.revision (s.toPersist fresh.salt candidate) s.medium =
      (.ok bytes, medium)) :
    s.set fresh candidate = (.ok e.document, { s with
      medium
      active := e.document
      overridden := e.overridden
      persisted := s.toPersist fresh.salt candidate
      synced := some bytes
      listeners := s.listeners.publish s.active e.document }) := by
  rw [set, if_neg (hopen ▸ Bool.false_ne_true), if_neg (hwrite ▸ Bool.false_ne_true)]
  simp only [he, hpersist]

/-- A set fails and leaves all but the medium, or it keeps the document that it made. -/
theorem set_cases (s : Store σ κ) (fresh : Fresh) (candidate : Document) :
    (∃ cause medium, Attempt s.medium medium ∧
      s.set fresh candidate = (.error cause, { s with medium })) ∨
    ∃ e bytes medium, s.closed = false ∧ s.options.readOnly = false ∧
      s.options.effective (s.toPersist fresh.salt candidate) = .ok e ∧
      Medium.persist fresh.revision (s.toPersist fresh.salt candidate) s.medium =
        (.ok bytes, medium) ∧
      s.set fresh candidate = (.ok e.document, { s with
        medium
        active := e.document
        overridden := e.overridden
        persisted := s.toPersist fresh.salt candidate
        synced := some bytes
        listeners := s.listeners.publish s.active e.document }) := by
  by_cases hclosed : s.closed = true
  · exact Or.inl ⟨.closed, s.medium, Or.inl rfl, set_of_closed hclosed fresh candidate⟩
  have hopen := eq_false_of_ne_true hclosed
  by_cases hread : s.options.readOnly = true
  · exact Or.inl ⟨.readOnly, s.medium, Or.inl rfl, set_of_readOnly hopen hread fresh candidate⟩
  have hwrite := eq_false_of_ne_true hread
  cases he : s.options.effective (s.toPersist fresh.salt candidate) with
  | error violations =>
      exact Or.inl ⟨_, s.medium, Or.inl rfl, set_of_invalid hopen hwrite he⟩
  | ok e =>
      cases hp : Medium.persist fresh.revision (s.toPersist fresh.salt candidate) s.medium with
      | mk written medium =>
          cases written with
          | error cause =>
              refine Or.inl ⟨.persistence cause, medium, Or.inr ⟨_, _, cause, hp⟩, ?_⟩
              rw [set, if_neg hclosed, if_neg hread]
              simp only [he, hp]
          | ok bytes =>
              exact Or.inr ⟨e, bytes, medium, hopen, hwrite, rfl, rfl,
                set_of_persist hopen hwrite he hp⟩

/-- What a set has done that gave a document. -/
structure SetsTo (s : Store σ κ) (fresh : Fresh) (candidate d : Document) (s' : Store σ κ) :
    Prop where
  isOpen : s.closed = false
  mayWrite : s.options.readOnly = false
  effective : s.options.effective (s.toPersist fresh.salt candidate) = .ok ⟨d, s'.overridden⟩
  options : s'.options = s.options
  closed : s'.closed = false
  active : s'.active = d
  persisted : s'.persisted = s.toPersist fresh.salt candidate
  persist : ∃ bytes, s'.synced = some bytes ∧
    Medium.persist fresh.revision (s.toPersist fresh.salt candidate) s.medium =
      (.ok bytes, s'.medium)

theorem setsTo_of_set {s s' : Store σ κ} {fresh : Fresh} {candidate d : Document}
    (h : s.set fresh candidate = (.ok d, s')) : s.SetsTo fresh candidate d s' := by
  rcases s.set_cases fresh candidate with ⟨cause, medium, _, hset⟩ |
    ⟨e, bytes, medium, hopen, hwrite, he, hpersist, hset⟩
  · rw [hset] at h
    cases h
  · rw [hset] at h
    cases h
    exact ⟨hopen, hwrite, he, rfl, hopen, rfl, rfl, bytes, rfl, hpersist⟩

theorem exists_set_of_isOk {s : Store σ κ} {fresh : Fresh} {candidate : Document}
    (h : (s.set fresh candidate).1.isOk = true) :
    ∃ d, s.set fresh candidate = (.ok d, (s.set fresh candidate).2) :=
  exists_eq_ok h

theorem Reachable.set {s s' : Store σ κ} (hs : s.Reachable) {fresh : Fresh}
    {candidate d : Document} (h : s.set fresh candidate = (.ok d, s')) : s'.Reachable := by
  have hacted := hs.acted (.set fresh candidate)
  rwa [act, h] at hacted

theorem attempt_of_writeBack {s : Store σ κ} {revision : String} {d : Document}
    {cause : PersistenceError} {medium : σ}
    (h : s.writeBack revision d = (.error cause, medium)) : Attempt s.medium medium := by
  unfold writeBack at h
  split at h
  · cases h
  · cases hp : Medium.persist revision d s.medium with
    | mk written medium' =>
        rw [hp] at h
        cases written with
        | error cause' =>
            cases h
            exact Or.inr ⟨revision, d, cause, hp⟩
        | ok bytes => cases h

theorem writeBack_of_unwritten {s : Store σ κ} {needsSave : Bool}
    (h : needsSave = true → s.options.readOnly = true) (revision : String) (d : Document) :
    (if needsSave then s.writeBack revision d else (.ok none, s.medium)) =
      (.ok none, s.medium) := by
  cases needsSave with
  | false => rfl
  | true => rw [if_pos rfl, writeBack, if_pos (h rfl)]

theorem loadBytes_of_undecodable {s : Store σ κ} {fresh : Fresh} {bytes : Option Bytes}
    {cause : DecodeError} (hd : s.decode fresh.salt (content bytes) = .error cause) :
    s.loadBytes fresh bytes = (.error (.undecodable cause), s) := by
  rw [loadBytes, ← content]
  simp only [hd]

theorem loadBytes_of_invalid {s : Store σ κ} {fresh : Fresh} {bytes : Option Bytes} {d : Document}
    {needsSave : Bool} {violations : List Violation}
    (hd : s.decode fresh.salt (content bytes) = .ok (d, needsSave))
    (he : s.options.effective d = .error violations) :
    s.loadBytes fresh bytes = (.error (.invalid violations), s) := by
  rw [loadBytes, ← content]
  simp only [hd, he]

theorem loadBytes_of_written {s : Store σ κ} {fresh : Fresh} {bytes written : Option Bytes}
    {d : Document} {needsSave : Bool} {e : Effective} {medium : σ}
    (hd : s.decode fresh.salt (content bytes) = .ok (d, needsSave))
    (he : s.options.effective d = .ok e)
    (hw : (if needsSave then s.writeBack fresh.revision d else (.ok none, s.medium)) =
      (.ok written, medium)) :
    s.loadBytes fresh bytes = (.ok ⟨written.isSome, decide (s.active ≠ e.document)⟩,
      ({ s with medium }.adopt d e (written <|> content bytes)).2) := by
  rw [loadBytes, ← content]
  simp only [hd, he, hw]
  rfl

/-- A load fails and leaves all but the medium, or it adopts the document that it decoded. -/
theorem loadBytes_cases (s : Store σ κ) (fresh : Fresh) (bytes : Option Bytes) :
    (∃ cause medium, Attempt s.medium medium ∧
      s.loadBytes fresh bytes = (.error cause, { s with medium })) ∨
    ∃ d needsSave e written medium,
      s.decode fresh.salt (content bytes) = .ok (d, needsSave) ∧
      s.options.effective d = .ok e ∧
      (if needsSave then s.writeBack fresh.revision d else (.ok none, s.medium)) =
        (.ok written, medium) ∧
      s.loadBytes fresh bytes =
        (.ok ⟨written.isSome, decide (s.active ≠ e.document)⟩,
          ({ s with medium }.adopt d e (written <|> content bytes)).2) := by
  cases hd : s.decode fresh.salt (content bytes) with
  | error cause => exact Or.inl ⟨_, s.medium, Or.inl rfl, loadBytes_of_undecodable hd⟩
  | ok p =>
      obtain ⟨d, needsSave⟩ := p
      cases he : s.options.effective d with
      | error violations => exact Or.inl ⟨_, s.medium, Or.inl rfl, loadBytes_of_invalid hd he⟩
      | ok e =>
          cases hw : (if needsSave then s.writeBack fresh.revision d
              else (Except.ok none, s.medium)) with
          | mk written medium =>
              cases written with
              | error cause =>
                  refine Or.inl ⟨.persistence cause, medium, ?_, ?_⟩
                  · split at hw
                    · exact attempt_of_writeBack hw
                    · cases hw
                  · rw [loadBytes, ← content]
                    simp only [hd, he, hw]
              | ok written =>
                  exact Or.inr ⟨d, needsSave, e, written, medium, rfl, he, hw,
                    loadBytes_of_written hd he hw⟩

theorem closed_loadBytes (s : Store σ κ) (fresh : Fresh) (bytes : Option Bytes) :
    (s.loadBytes fresh bytes).2.closed = s.closed := by
  rcases s.loadBytes_cases fresh bytes with ⟨_, _, _, h⟩ | ⟨_, _, _, _, _, _, _, _, h⟩
  · rw [h]
  · rw [h]
    rfl

/-- A load fails to read the medium, or it goes on with the bytes that it read. -/
theorem load_cases (s : Store σ κ) (fresh : Fresh) :
    (∃ cause, s.load fresh = (.error cause, s)) ∨
    ∃ bytes, Medium.load s.medium = .ok bytes ∧ s.load fresh = s.loadBytes fresh bytes := by
  unfold load
  cases hb : Medium.load s.medium with
  | error cause => exact Or.inl ⟨.persistence cause, rfl⟩
  | ok bytes => exact Or.inr ⟨bytes, rfl, rfl⟩

theorem reload_eq_loadBytes {s : Store σ κ} {bytes : Option Bytes} (hopen : s.closed = false)
    (hload : Medium.load s.medium = .ok bytes) (fresh : Fresh) :
    s.reload fresh = s.loadBytes fresh bytes := by
  unfold reload load
  simp only [hopen, hload, Bool.false_eq_true, if_false]

theorem reload_cases (s : Store σ κ) (fresh : Fresh) :
    (∃ cause, s.reload fresh = (.error cause, s)) ∨
    s.closed = false ∧ s.reload fresh = s.load fresh := by
  unfold reload
  by_cases hclosed : s.closed = true
  · exact Or.inl ⟨.closed, if_pos hclosed⟩
  · exact Or.inr ⟨by simpa using hclosed, if_neg hclosed⟩

/-- A store that reloaded is open, and loaded what it read. -/
theorem exists_load_of_reload {s s' : Store σ κ} {fresh : Fresh} {loaded : Loaded}
    (h : s.reload fresh = (.ok loaded, s')) :
    s.closed = false ∧ ∃ bytes, Medium.load s.medium = .ok bytes ∧
      s.loadBytes fresh bytes = (.ok loaded, s') := by
  rcases s.reload_cases fresh with ⟨cause, hreload⟩ | ⟨hopen, hreload⟩
  · rw [hreload] at h
    cases h
  · rw [hreload] at h
    rcases s.load_cases fresh with ⟨cause, hload⟩ | ⟨bytes, hbytes, hload⟩
    · rw [hload] at h
      cases h
    · rw [hload] at h
      exact ⟨hopen, bytes, hbytes, h⟩

theorem Reachable.reload {s s' : Store σ κ} (hs : s.Reachable) {fresh : Fresh} {loaded : Loaded}
    (h : s.reload fresh = (.ok loaded, s')) : s'.Reachable := by
  have hacted := hs.acted (.reload fresh)
  rwa [act, h] at hacted

theorem sync_of_closed {s : Store σ κ} (h : s.closed = true) (fresh : Fresh) :
    s.sync fresh = (.error .closed, s) := if_pos h

theorem sync_of_load {s : Store σ κ} {bytes : Option Bytes} (hopen : s.closed = false)
    (hload : Medium.load s.medium = .ok bytes) (fresh : Fresh) :
    s.sync fresh = if bytes.all (·.isEmpty) || s.synced == bytes then (.ok false, s)
      else ((s.loadBytes fresh bytes).1.map fun _ => true, (s.loadBytes fresh bytes).2) := by
  rw [sync, if_neg (hopen ▸ Bool.false_ne_true), hload]

theorem sync_cases (s : Store σ κ) (fresh : Fresh) :
    (∃ result, s.sync fresh = (result, s)) ∨
    ∃ bytes, Medium.load s.medium = .ok bytes ∧
      s.sync fresh =
        ((s.loadBytes fresh bytes).1.map fun _ => true, (s.loadBytes fresh bytes).2) := by
  by_cases hclosed : s.closed = true
  · exact Or.inl ⟨.error .closed, sync_of_closed hclosed fresh⟩
  cases hb : Medium.load s.medium with
  | error cause =>
      refine Or.inl ⟨.error (.persistence cause), ?_⟩
      rw [sync, if_neg hclosed, hb]
  | ok bytes =>
      rw [sync_of_load (eq_false_of_ne_true hclosed) hb]
      split
      · exact Or.inl ⟨.ok false, rfl⟩
      · exact Or.inr ⟨bytes, rfl, rfl⟩

/-- A reload or a sync leaves the store as it is, or it is a load of what is on the medium. -/
theorem act_load_cases (s : Store σ κ) {fresh : Fresh} {a : Action σ κ}
    (ha : a = .reload fresh ∨ a = .sync fresh) :
    s.act a = s ∨ ∃ bytes, s.closed = false ∧ Medium.load s.medium = .ok bytes ∧
      s.act a = (s.loadBytes fresh bytes).2 := by
  by_cases hclosed : s.closed = true
  · refine Or.inl ?_
    rcases ha with rfl | rfl
    · rw [act, reload, if_pos hclosed]
    · rw [act, sync, if_pos hclosed]
  have hopen : s.closed = false := eq_false_of_ne_true hclosed
  rcases ha with rfl | rfl
  · rcases s.load_cases fresh with ⟨cause, hload⟩ | ⟨bytes, hbytes, hload⟩
    · rw [act, reload, if_neg hclosed, hload]
      exact Or.inl rfl
    · rw [act, reload, if_neg hclosed, hload]
      exact Or.inr ⟨bytes, hopen, hbytes, rfl⟩
  · rcases s.sync_cases fresh with ⟨result, hsync⟩ | ⟨bytes, hbytes, hsync⟩
    · rw [act, hsync]
      exact Or.inl rfl
    · rw [act, hsync]
      exact Or.inr ⟨bytes, hopen, hbytes, rfl⟩

/-! ## What loads decode -/

theorem decode_none (s : Store σ κ) (salt : String) :
    s.decode salt none =
      .ok ((s.completed salt ((Medium.initial s.medium).fill salt)).repaired, true) := by
  simp [decode, completed, Document.repaired, bind, Except.bind, pure, Except.pure]

theorem decode_some (s : Store σ κ) (salt : String) (b : Bytes) :
    s.decode salt (some b) = ((Medium.codec s.medium).decode b).map fun d =>
      ((s.completed salt d).repaired,
        !decide (s.completed salt d = d) || (s.completed salt d).repair.2) := by
  unfold decode
  cases hd : (Medium.codec s.medium).decode b with
  | error cause => simp [hd, bind, Except.bind, Except.map]
  | ok d =>
      simp [hd, completed, Document.repaired, bind, Except.bind, pure, Except.pure, Except.map]
      rfl

theorem exists_of_decode {s : Store σ κ} {salt : String} {bytes : Option Bytes} {d : Document}
    {needsSave : Bool} (h : s.decode salt bytes = .ok (d, needsSave)) :
    ∃ decoded, d = (s.completed salt decoded).repaired := by
  cases bytes with
  | none =>
      rw [decode_none] at h
      cases h
      exact ⟨_, rfl⟩
  | some b =>
      rw [decode_some] at h
      cases hd : (Medium.codec s.medium).decode b with
      | error cause => simp [hd, Except.map] at h
      | ok decoded =>
          rw [hd] at h
          cases h
          exact ⟨decoded, rfl⟩

/-! ## Steps -/

theorem loadBytes_step (s : Store σ κ) (fresh : Fresh) (bytes : Option Bytes) :
    (∃ cause, (s.loadBytes fresh bytes).1 = .error cause ∧ Keeps s (s.loadBytes fresh bytes).2) ∨
    ∃ loaded d, (s.loadBytes fresh bytes).1 = .ok loaded ∧ d.IsNormal ∧
      Adopts s (s.loadBytes fresh bytes).2 d := by
  rcases s.loadBytes_cases fresh bytes with ⟨cause, medium, _, h⟩ |
    ⟨d, needsSave, e, written, medium, hd, he, _, h⟩
  · rw [h]
    exact Or.inl ⟨cause, rfl, s.keeps_medium medium⟩
  · rw [h]
    obtain ⟨decoded, rfl⟩ := exists_of_decode hd
    have hnormal := Document.isNormal_repaired (s.completed fresh.salt decoded)
    refine Or.inr ⟨_, _, rfl, hnormal, rfl, rfl, he,
      fun _ => s.isComplete_repaired_completed _ _, ⟨_, hnormal, Or.inl rfl⟩, ?_⟩
    intro c hc
    by_cases hchanged : s.active = e.document
    · simp only [adopt, hchanged, ne_eq, not_true_eq_false, decide_false, Bool.false_eq_true,
        if_false] at hc
      exact Or.inl hc
    · simp only [adopt, ne_eq, hchanged, not_false_eq_true, decide_true, if_true] at hc
      exact mem_queue_publish hc

/-- What a load keeps is normal. -/
theorem isNormal_of_loadBytes {s s' : Store σ κ} {fresh : Fresh} {bytes : Option Bytes}
    {loaded : Loaded} (h : s.loadBytes fresh bytes = (.ok loaded, s')) : s'.persisted.IsNormal := by
  have hstep := s.loadBytes_step fresh bytes
  rw [h] at hstep
  rcases hstep with ⟨_, hcause, _⟩ | ⟨_, d, _, hnormal, hadopts⟩
  · cases hcause
  · rw [hadopts.persisted]
    exact hnormal

theorem act_load_step (s : Store σ κ) {fresh : Fresh} {a : Action σ κ}
    (ha : a = .reload fresh ∨ a = .sync fresh) :
    Keeps s (s.act a) ∨ ∃ d, Adopts s (s.act a) d := by
  rcases s.act_load_cases ha with h | ⟨bytes, _, _, h⟩
  · rw [h]
    exact Or.inl (Keeps.refl s)
  · rw [h]
    rcases s.loadBytes_step fresh bytes with ⟨_, _, hk⟩ | ⟨_, d, _, _, ha⟩
    · exact Or.inl hk
    · exact Or.inr ⟨d, ha⟩

theorem set_step (s : Store σ κ) (fresh : Fresh) (candidate : Document) :
    Keeps s (s.set fresh candidate).2 ∨ ∃ d, Adopts s (s.set fresh candidate).2 d := by
  rcases s.set_cases fresh candidate with ⟨cause, medium, _, h⟩ | ⟨e, bytes, medium, _, _, he, _, h⟩
  · rw [h]
    exact Or.inl (s.keeps_medium medium)
  · rw [h]
    obtain ⟨n, hnormal, hcomplete, hn⟩ := s.toPersist_eq fresh.salt candidate
    refine Or.inr ⟨_, rfl, rfl, he, fun hs => ?_, ⟨n, hnormal, hn⟩, fun _ => mem_queue_publish⟩
    rcases hn with hn | hn
    · exact hn ▸ hcomplete
    · exact hn ▸ hcomplete.restore hs s.overridden

/-- What an action can do to the documents of a store. -/
theorem act_step (s : Store σ κ) (a : Action σ κ) :
    Keeps s (s.act a) ∨ ∃ d, Adopts s (s.act a) d := by
  cases a with
  | set fresh candidate => exact s.set_step fresh candidate
  | reload fresh => exact s.act_load_step (Or.inl rfl)
  | sync fresh => exact s.act_load_step (Or.inr rfl)
  | putFile name bytes => exact Or.inl (change_keeps _ s)
  | eraseFile name => exact Or.inl (change_keeps _ s)
  | listen callback => exact Or.inl ⟨rfl, rfl, rfl, rfl, fun _ => id⟩
  | unlisten id => exact Or.inl ⟨rfl, rfl, rfl, rfl, fun _ h => h⟩
  | deliver =>
      refine Or.inl ?_
      rw [act, Listeners.next?]
      cases hq : s.listeners.queue with
      | nil => exact Keeps.refl s
      | cons c cs => exact ⟨rfl, rfl, rfl, rfl, fun x hx => hq ▸ List.mem_cons_of_mem c hx⟩
  | close =>
      refine Or.inl ?_
      rw [act, close]
      split
      · exact Keeps.refl s
      · exact ⟨rfl, rfl, rfl, rfl, fun _ h => nomatch h⟩
  | edit medium =>
      refine Or.inl ?_
      rw [act]
      split
      · exact s.keeps_medium medium
      · exact Keeps.refl s

theorem options_act (s : Store σ κ) (a : Action σ κ) : (s.act a).options = s.options := by
  rcases s.act_step a with hk | ⟨d, ha⟩
  · exact hk.options
  · exact ha.options

theorem Coherent.act {s : Store σ κ} (h : s.Coherent) (a : Action σ κ) : (s.act a).Coherent := by
  rcases s.act_step a with hk | ⟨d, ha⟩
  · exact h.keeps hk
  · exact h.adopts ha

/-! ## Opening -/

section

variable {options : Options} {salt : String} {fresh : Fresh} {medium : σ} {loaded : Loaded}
  {s : Store σ κ}

/-- A store that was opened could read its medium, and loaded what it read. -/
theorem exists_load_of_openMedium (h : openMedium options salt fresh medium = (.ok loaded, s)) :
    ∃ bytes, Medium.load medium = .ok bytes ∧
      (ofMedium options salt medium).loadBytes fresh bytes = (.ok loaded, s) := by
  rcases (ofMedium options salt medium : Store σ κ).load_cases fresh with ⟨cause, hload⟩ |
    ⟨bytes, hbytes, hload⟩
  · rw [openMedium, hload] at h
    cases h
  · rw [openMedium, hload] at h
    exact ⟨bytes, hbytes, h⟩

/-- A store that was opened adopted what it found. -/
theorem openMedium_step (h : openMedium options salt fresh medium = (.ok loaded, s)) :
    ∃ d, d.IsNormal ∧ Adopts (ofMedium options salt medium) s d := by
  obtain ⟨bytes, _, hload⟩ := exists_load_of_openMedium h
  have hstep := (ofMedium options salt medium : Store σ κ).loadBytes_step fresh bytes
  rw [hload] at hstep
  rcases hstep with ⟨_, hcause, _⟩ | ⟨_, d, _, hnormal, ha⟩
  · cases hcause
  · exact ⟨d, hnormal, ha⟩

theorem options_of_openMedium (h : openMedium options salt fresh medium = (.ok loaded, s)) :
    s.options = options := by
  obtain ⟨_, _, ha⟩ := openMedium_step h
  exact ha.options

theorem closed_of_openMedium (h : openMedium options salt fresh medium = (.ok loaded, s)) :
    s.closed = false := by
  obtain ⟨bytes, _, hload⟩ := exists_load_of_openMedium h
  have hclosed := closed_loadBytes (ofMedium options salt medium : Store σ κ) fresh bytes
  rwa [hload] at hclosed

theorem queue_of_openMedium (h : openMedium options salt fresh medium = (.ok loaded, s)) :
    s.listeners.queue = [] := by
  obtain ⟨_, _, ha⟩ := openMedium_step h
  refine List.eq_nil_iff_forall_not_mem.mpr fun c hc => ?_
  rcases ha.queue c hc with hc | ⟨hl, _⟩
  · cases hc
  · cases hl

theorem coherent_of_openMedium (h : openMedium options salt fresh medium = (.ok loaded, s)) :
    s.Coherent := by
  obtain ⟨d, hnormal, ha⟩ := openMedium_step h
  refine ⟨?_, ?_, d, d, hnormal, hnormal, ?_⟩
  · rw [ha.options, ha.persisted]
    exact ha.effective
  · rw [ha.persisted]
    exact ha.complete (Document.isComplete_fill salt _)
  · rw [ha.persisted, Document.restore_self]

end

theorem Reachable.coherent {s : Store σ κ} (h : s.Reachable) : s.Coherent := by
  induction h with
  | opened h => exact coherent_of_openMedium h
  | acted a _ ih => exact ih.act a

/-- What opening a store in empty memory gives, with all but the environment by default. -/
def inMemory (environment : Environment) : Except StoreError Loaded × Store Memory Unit :=
  openMedium { Options.default with environment } "0123456789abcdef0123456789abcdef"
    ⟨"fedcba9876543210fedcba9876543210", "first"⟩ .empty

theorem reachable_inMemory {environment : Environment} (h : (inMemory environment).1.isOk = true) :
    (inMemory environment).2.Reachable := by
  obtain ⟨loaded, hopen⟩ := exists_eq_ok h
  exact .opened hopen

end Store

end SettingsStore
