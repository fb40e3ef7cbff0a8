import SettingsStore.Proofs.Store.Listeners
import SettingsStore.Proofs.Store.Run
import SettingsStore.Store.Sharing

/-!
# What is published

A change is made by every set that succeeds, and by every load that puts another document to use.
It is published next, and then those who listen are to be told of it, unless the queue is closed.
Each step keeps the account: what was due and what the step adds is what it calls and what is due
after it, and what was pending and what it changes is what it publishes and what is pending then.
-/

namespace SettingsStore

namespace Change

/-- Changes that lead from one document to another, each going on where the one before ended. -/
inductive Linked : Document → List Change → Document → Prop
  | nil {first last : Document} : first = last → Linked first [] last
  | cons {c : Change} {cs : List Change} {first last : Document} :
      c.old = first → Linked c.new cs last → Linked first (c :: cs) last

theorem Linked.append {first middle last : Document} {cs ds : List Change}
    (hcs : Linked first cs middle) (hds : Linked middle ds last) :
    Linked first (cs ++ ds) last := by
  induction hcs with
  | nil hsame => exact hsame ▸ hds
  | cons hold _ ih => exact .cons hold (ih hds)

/-- A change, if there is one, leads from its old document to its new one. -/
theorem linked_toList {first last : Document} {p : Option Change} :
    Linked first p.toList last ↔
      p.elim last Change.old = first ∧ ∀ c, p = some c → c.new = last := by
  cases p with
  | none =>
      constructor
      · rintro ⟨hsame⟩
        exact ⟨hsame.symm, fun _ hc => absurd hc (Option.some_ne_none _).symm⟩
      · exact fun h => .nil h.1.symm
  | some c =>
      constructor
      · rintro (_ | ⟨hold, ⟨hnew⟩⟩)
        exact ⟨hold, fun _ hc => Option.some.inj hc ▸ hnew⟩
      · exact fun h => .cons h.1 (.nil (h.2 c rfl))

end Change

/-! ## Turns -/

namespace Store

variable {σ κ : Type} {s s' : Store σ κ} {p : Option Change}

/-- A request that made a change, if any, and published it. -/
structure Publishes (s s' : Store σ κ) (p : Option Change) : Prop where
  closed : s'.closed = s.closed
  linked : Change.Linked s.active p.toList s'.active
  listeners : s'.listeners = p.elim s.listeners fun c => s.listeners.publish c.old c.new

theorem publishes_none (s : Store σ κ) (medium : σ) : Publishes s { s with medium } none :=
  ⟨rfl, .nil rfl, rfl⟩

theorem publishes_self {α : Type} (s : Store σ κ) (result : Except StoreError α) :
    Publishes s s (result.map fun _ => s.alteration s).toOption.join := by
  cases result with
  | error cause => exact s.publishes_none s.medium
  | ok x =>
      change Publishes s s (s.alteration s)
      rw [alteration, if_pos rfl]
      exact s.publishes_none s.medium

theorem publishes_adopt (s : Store σ κ) (d : Document) (e : Effective) (synced : Option Bytes) :
    Publishes s (s.adopt d e synced).2 (s.alteration (s.adopt d e synced).2) := by
  have hactive : (s.adopt d e synced).2.active = e.document := rfl
  rw [alteration, hactive]
  by_cases hsame : s.active = e.document
  · rw [if_pos hsame]
    refine ⟨rfl, .nil hsame, if_neg ?_⟩
    simpa using hsame
  · rw [if_neg hsame]
    refine ⟨rfl, .cons rfl (.nil rfl), if_pos ?_⟩
    simpa using hsame

theorem change_of_load {α : Type} (s s' : Store σ κ) (result : Except StoreError α) :
    (result.map fun _ => s.alteration s').toOption.join =
      if result.isOk = true ∧ s.active ≠ s'.active then some ⟨s.active, s'.active⟩ else none := by
  cases result with
  | error cause => rfl
  | ok x =>
      change s.alteration s' = _
      unfold alteration
      by_cases hsame : s.active = s'.active
      · rw [if_pos hsame, if_neg fun h => h.2 hsame]
      · rw [if_neg hsame, if_pos ⟨rfl, hsame⟩]

variable [Medium σ]

/-- A load publishes what it changes, whatever its result is taken for. -/
theorem publishes_loadBytes {α : Type} (s : Store σ κ) (fresh : Fresh) (bytes : Option Bytes)
    (f : Loaded → α) :
    let load := s.loadBytes fresh bytes
    Publishes s load.2 ((load.1.map f).map fun _ => s.alteration load.2).toOption.join := by
  intro load
  rcases s.loadBytes_cases fresh bytes with ⟨cause, medium, _, hload⟩ |
    ⟨d, needsSave, e, written, medium, _, _, _, hload⟩
  · rw [show load = _ from hload]
    exact s.publishes_none medium
  · rw [show load = _ from hload]
    have hadopt := publishes_adopt { s with medium } d e (written <|> content bytes)
    exact ⟨hadopt.closed, hadopt.linked, hadopt.listeners⟩

theorem publishes_perform (r : Shared.Request) (s : Store σ κ) :
    Publishes s (s.perform r).2 (s.perform r).1.toOption.join := by
  cases r with
  | set fresh candidate =>
      rw [perform]
      rcases s.set_cases fresh candidate with ⟨cause, medium, _, hset⟩ |
        ⟨e, bytes, medium, _, _, _, _, hset⟩
      · rw [hset]
        exact s.publishes_none medium
      · rw [hset]
        exact ⟨rfl, .cons rfl (.nil rfl), rfl⟩
  | reload fresh =>
      rw [perform]
      rcases s.reload_cases fresh with ⟨cause, hreload⟩ | ⟨_, hreload⟩
      · rw [hreload]
        exact s.publishes_self (.error cause : Except StoreError Loaded)
      · rw [hreload]
        rcases s.load_cases fresh with ⟨cause, hload⟩ | ⟨bytes, _, hload⟩
        · rw [hload]
          exact s.publishes_self (.error cause : Except StoreError Loaded)
        · rw [hload]
          have hbytes := s.publishes_loadBytes fresh bytes id
          rwa [Except.map_id] at hbytes
  | sync fresh =>
      rw [perform]
      rcases s.sync_cases fresh with ⟨result, hsync⟩ | ⟨bytes, _, hsync⟩
      · rw [hsync]
        exact s.publishes_self result
      · rw [hsync]
        exact s.publishes_loadBytes fresh bytes fun _ => true

theorem linked_carryOut (r : Shared.Request) (s : Store σ κ) :
    Change.Linked s.active (s.carryOut r).1.toOption.join.toList (s.carryOut r).2.active :=
  (publishes_perform r { s with closed := false }).linked

theorem change_of_perform (r : Shared.Request) (s : Store σ κ) :
    (s.perform r).1.toOption.join =
      if (s.perform r).1.isOk = true ∧ (r.isSet = true ∨ s.active ≠ (s.perform r).2.active) then
        some ⟨s.active, (s.perform r).2.active⟩
      else none := by
  have hmap {α β : Type} (result : Except StoreError α) (f : α → β) :
      (result.map f).isOk = result.isOk := by
    cases result <;> rfl
  cases r with
  | set fresh candidate =>
      cases hset : s.set fresh candidate with
      | mk result s' =>
          rw [perform, hset]
          cases result with
          | error cause => rfl
          | ok d =>
              rw [if_pos ⟨rfl, Or.inl rfl⟩]
              exact congrArg (fun d => some (Change.mk s.active d)) (setsTo_of_set hset).active.symm
  | reload fresh =>
      have hchange := change_of_load s (s.reload fresh).2 (s.reload fresh).1
      simpa [perform, Shared.Request.isSet, hmap] using hchange
  | sync fresh =>
      have hchange := change_of_load s (s.sync fresh).2 (s.sync fresh).1
      simpa [perform, Shared.Request.isSet, hmap] using hchange

/-- A set that succeeds makes a change, and so does a load that puts another document to use. -/
theorem change_of_carryOut (r : Shared.Request) (s : Store σ κ) :
    (s.carryOut r).1.toOption.join =
      if (s.carryOut r).1.isOk = true ∧ (r.isSet = true ∨ s.active ≠ (s.carryOut r).2.active) then
        some ⟨s.active, (s.carryOut r).2.active⟩
      else none :=
  change_of_perform r { s with closed := false }

theorem perform_of_closed (h : s.closed = true) (r : Shared.Request) : (s.perform r).2 = s := by
  cases r with
  | set fresh candidate => rw [perform, set_of_closed h]
  | reload fresh => rw [perform, reload, if_pos h]
  | sync fresh => rw [perform, sync_of_closed h]

/-- A request that finds a store open, has its turn and publishes its change is fulfilled. -/
theorem perform_of_isOpen (h : s.closed = false) (r : Shared.Request) :
    (s.perform r).2 = { (s.carryOut r).2 with
      listeners := (s.carryOut r).1.toOption.join.elim s.listeners fun c =>
        s.listeners.publish c.old c.new } := by
  have hs : { s with closed := false } = s := h ▸ rfl
  have hp := publishes_perform r s
  unfold carryOut
  rw [hs, ← hp.listeners]
  exact congrArg (fun closed => { (s.perform r).2 with closed }) hp.closed

end Store

/-! ## Steps -/

def told {κ : Type} (id : Nat) (calls : List (Call κ)) : List Change :=
  (calls.filter (·.listener.id = id)).map fun c => ⟨c.old, c.new⟩

namespace Shared

variable {σ κ : Type}

/-- The document that was published last. -/
def shown (sh : Shared σ κ) : Document := sh.pending.elim sh.store.active Change.old

def listening (sh : Shared σ κ) : List Nat := sh.store.listeners.registered.map Listener.id

theorem queue_of_isDone {sh : Shared σ κ} (h : sh.isDone = true) : sh.queue = [] :=
  List.isEmpty_iff.mp (Bool.and_eq_true_iff.mp (Bool.and_eq_true_iff.mp h).1).2

/-- Ids are given out once, a change is published before the next one is made, and the queue is
closed after the store. -/
structure Orderly (sh : Shared σ κ) : Prop where
  listeners : sh.store.listeners.Orderly
  pending : ∀ c, sh.pending = some c → c.new = sh.store.active
  closed : sh.isQueueClosed = true → sh.store.closed = true

theorem orderly_idle {s : Store σ κ} (h : s.listeners = .empty) : (idle s).Orderly where
  listeners := by
    rw [idle, h]
    exact Listeners.orderly_empty
  pending _ hc := nomatch hc
  closed hclosed := by
    rw [isQueueClosed, idle, h] at hclosed
    cases hclosed

theorem next?_eq_some {sh : Shared σ κ} {c : Call κ} {ls : Listeners κ}
    (h : sh.next? = some (c, ls)) :
    sh.calling = none ∧ sh.store.listeners.next? = some (c, ls) := by
  unfold next? at h
  split at h
  · next hcalling => exact ⟨hcalling, h⟩
  · cases h

variable [Medium σ]

def made? (sh : Shared σ κ) : Step σ κ → Option Change
  | .carryOut i => (sh.turn? i).bind (·.1.toOption.join)
  | _ => none

def published? (sh : Shared σ κ) : Step σ κ → Option Change
  | .publish => sh.pending
  | _ => none

/-- The change that a step publishes to those who listen. -/
def announced? (sh : Shared σ κ) (st : Step σ κ) : Option Change :=
  if sh.isQueueClosed then none else sh.published? st

def due (sh : Shared σ κ) (st : Step σ κ) : List (Call κ) :=
  (sh.announced? st).toList.flatMap fun c => sh.store.listeners.registered.map c.tell

def called? (sh : Shared σ κ) : Step σ κ → Option (Call κ)
  | .call => sh.next?.map (·.1)
  | _ => none

theorem turn?_eq_some {sh : Shared σ κ} {i : Nat}
    {result : Except StoreError (Option Change) × Store σ κ} (h : sh.turn? i = some result) :
    sh.pending = none ∧ ∃ r, sh.entered[i]? = some r ∧ result = sh.store.carryOut r := by
  unfold turn? at h
  split at h
  · next hpending =>
      obtain ⟨r, hr, hresult⟩ := Option.map_eq_some_iff.mp h
      exact ⟨hpending, r, hr, hresult.symm⟩
  · cases h

theorem turn?_of_entered {sh : Shared σ κ} {i : Nat} {r : Request} (hpending : sh.pending = none)
    (hr : sh.entered[i]? = some r) : sh.turn? i = some (sh.store.carryOut r) := by
  rw [turn?, hpending, hr]
  rfl

/-- What a step makes of the parts of a shared store. -/
structure Stepped (sh : Shared σ κ) (st : Step σ κ) (after : Shared σ κ) : Prop where
  listeners : after.store.listeners =
    (fun
      | .publish => sh.pending.elim sh.store.listeners fun c =>
        sh.store.listeners.publish c.old c.new
      | .listen callback => (sh.store.listeners.register callback).2
      | .unlisten id => (sh.store.listeners.unregister id).2
      | .call => sh.next?.elim sh.store.listeners (·.2)
      | .closeQueue => if sh.store.closed then sh.store.listeners.close else sh.store.listeners
      | _ => sh.store.listeners : Step σ κ → Listeners κ) st
  closed : after.store.closed =
    (fun
      | .beginClose => true
      | _ => sh.store.closed : Step σ κ → Bool) st
  active : after.store.active =
    (fun
      | .carryOut i => (sh.turn? i).elim sh.store.active (·.2.active)
      | _ => sh.store.active : Step σ κ → Document) st
  pending : after.pending =
    (fun
      | .carryOut i => (sh.turn? i).elim sh.pending (·.1.toOption.join)
      | .publish => none
      | _ => sh.pending : Step σ κ → Option Change) st
  entered : after.entered =
    (fun
      | .enter r => if sh.store.closed then sh.entered else sh.entered ++ [r]
      | .carryOut i => (sh.turn? i).elim sh.entered fun _ => sh.entered.eraseIdx i
      | _ => sh.entered : Step σ κ → List Request) st

theorem stepped (sh : Shared σ κ) (st : Step σ κ) : sh.Stepped st (sh.step st) := by
  cases st with
  | listen | unlisten | finish | beginClose | edit => exact ⟨rfl, rfl, rfl, rfl, rfl⟩
  | enter r =>
      rw [step]
      split
      · next hclosed => exact ⟨rfl, rfl, rfl, rfl, (if_pos hclosed).symm⟩
      · next hopen => exact ⟨rfl, rfl, rfl, rfl, (if_neg hopen).symm⟩
  | closeQueue =>
      rw [step]
      split
      · next hclosed => exact ⟨(if_pos hclosed).symm, rfl, rfl, rfl, rfl⟩
      · next hopen => exact ⟨(if_neg hopen).symm, rfl, rfl, rfl, rfl⟩
  | carryOut i =>
      cases hturn : sh.turn? i with
      | none => constructor <;> simp only [step, hturn] <;> rfl
      | some outcome =>
          obtain ⟨_, r, _, rfl⟩ := turn?_eq_some hturn
          constructor <;> simp only [step, hturn] <;> rfl
  | publish =>
      cases hpending : sh.pending <;> constructor <;> simp only [step, hpending] <;> rfl
  | call =>
      cases hnext : sh.next? <;> constructor <;> simp only [step, hnext] <;> rfl

theorem orderly_listeners_step {sh : Shared σ κ} (h : sh.store.listeners.Orderly)
    (st : Step σ κ) : (sh.step st).store.listeners.Orderly := by
  rw [(sh.stepped st).listeners]
  cases st with
  | enter | carryOut | finish | beginClose | edit => exact h
  | listen callback => exact h.register callback
  | unlisten id => exact h.unregister id
  | publish =>
      cases sh.pending with
      | none => exact h
      | some c => exact h.publish c.old c.new
  | call =>
      cases hnext : sh.next? with
      | none => exact h
      | some next => exact h.next? (next?_eq_some hnext).2
  | closeQueue =>
      dsimp only
      split
      · exact h.close
      · exact h

/-! ## Accounts -/

/-- The calls that were due and those of a step are made, or still due. -/
theorem queue_step (sh : Shared σ κ) (st : Step σ κ) :
    sh.queue ++ sh.due st = (sh.called? st).toList ++ (sh.step st).queue := by
  have hnone (h : sh.published? st = none) : sh.due st = [] := by
    unfold due announced?
    rw [h, ite_self]
    rfl
  rw [queue, queue, (sh.stepped st).listeners]
  cases st with
  | enter | carryOut | finish | beginClose | edit | listen | unlisten =>
      rw [hnone rfl]
      exact List.append_nil _
  | closeQueue =>
      rw [hnone rfl, List.append_nil]
      dsimp only
      split <;> rfl
  | call =>
      rw [hnone rfl, List.append_nil, called?]
      cases hnext : sh.next? with
      | none => rfl
      | some next =>
          obtain ⟨c, ls⟩ := next
          obtain ⟨cs, hqueue, rfl⟩ := Listeners.exists_of_next? (next?_eq_some hnext).2
          rw [hqueue]
          rfl
  | publish =>
      unfold due announced? isQueueClosed called? published?
      cases hpending : sh.pending with
      | none => simp
      | some c =>
          dsimp only [Option.elim]
          rw [Listeners.queue_publish]
          split
          · rfl
          · exact congrArg (sh.store.listeners.queue ++ ·) (List.append_nil _)

/-- The change that was pending and that of a step are published, or still pending. -/
theorem pending_made (sh : Shared σ κ) (st : Step σ κ) :
    sh.pending.toList ++ (sh.made? st).toList =
      (sh.published? st).toList ++ (sh.step st).pending.toList := by
  rw [(sh.stepped st).pending]
  cases st with
  | enter | finish | beginClose | edit | listen | unlisten | closeQueue | call | publish =>
      simp [made?, published?]
  | carryOut i =>
      dsimp only [made?, published?]
      cases hturn : sh.turn? i with
      | none => exact List.append_nil _
      | some outcome =>
          rw [(turn?_eq_some hturn).1]
          rfl

/-- The change that a step makes leads from the document in use before it to the one after it. -/
theorem linked_made (sh : Shared σ κ) (st : Step σ κ) :
    Change.Linked sh.store.active (sh.made? st).toList (sh.step st).store.active := by
  rw [(sh.stepped st).active]
  cases st with
  | enter | finish | beginClose | edit | listen | unlisten | closeQueue | call | publish =>
      exact .nil rfl
  | carryOut i =>
      dsimp only [made?]
      cases hturn : sh.turn? i with
      | none => exact .nil rfl
      | some outcome =>
          obtain ⟨_, r, _, rfl⟩ := turn?_eq_some hturn
          exact sh.store.linked_carryOut r

theorem made?_carryOut {sh : Shared σ κ} {i : Nat} {r : Request} (hpending : sh.pending = none)
    (hr : sh.entered[i]? = some r) :
    sh.made? (.carryOut i) =
      if (sh.store.carryOut r).1.isOk = true ∧
        (r.isSet = true ∨ sh.store.active ≠ (sh.step (.carryOut i)).store.active) then
        some ⟨sh.store.active, (sh.step (.carryOut i)).store.active⟩
      else none := by
  have hturn := turn?_of_entered hpending hr
  have hactive : (sh.step (.carryOut i)).store.active = (sh.store.carryOut r).2.active := by
    rw [(sh.stepped _).active]
    dsimp only
    rw [hturn]
    rfl
  rw [made?, hturn, hactive]
  exact sh.store.change_of_carryOut r

theorem isQueueClosed_step (sh : Shared σ κ) (st : Step σ κ) :
    (sh.step st).isQueueClosed = match st with
      | .closeQueue => sh.store.closed || sh.isQueueClosed
      | _ => sh.isQueueClosed := by
  rw [isQueueClosed, (sh.stepped st).listeners]
  cases st with
  | enter | carryOut | finish | beginClose | edit | listen | unlisten => rfl
  | closeQueue =>
      dsimp only
      cases sh.store.closed <;> rfl
  | publish =>
      dsimp only
      cases sh.pending with
      | none => rfl
      | some c => exact sh.store.listeners.closed_publish c.old c.new
  | call =>
      dsimp only
      cases hnext : sh.next? with
      | none => rfl
      | some next =>
          obtain ⟨c, ls⟩ := next
          obtain ⟨cs, _, rfl⟩ := Listeners.exists_of_next? (next?_eq_some hnext).2
          rfl

theorem closed_step_of_closed {sh : Shared σ κ} (h : sh.store.closed = true) (st : Step σ κ) :
    (sh.step st).store.closed = true := by
  rw [(sh.stepped st).closed]
  dsimp only
  split
  · rfl
  · exact h

theorem isQueueClosed_step_of_closed {sh : Shared σ κ} (h : sh.isQueueClosed = true)
    (st : Step σ κ) : (sh.step st).isQueueClosed = true := by
  rw [isQueueClosed_step]
  split
  · rw [h, Bool.or_true]
  · exact h

theorem Orderly.step {sh : Shared σ κ} (h : sh.Orderly) (st : Step σ κ) :
    (sh.step st).Orderly where
  listeners := orderly_listeners_step h.listeners st
  pending c hc := by
    rw [(sh.stepped st).pending] at hc
    rw [(sh.stepped st).active]
    cases st with
    | enter | finish | beginClose | edit | listen | unlisten | closeQueue | call =>
        exact h.pending c hc
    | publish => cases hc
    | carryOut i =>
        dsimp only at hc ⊢
        cases hturn : sh.turn? i with
        | none =>
            rw [hturn] at hc
            exact h.pending c hc
        | some outcome =>
            obtain ⟨_, r, _, rfl⟩ := turn?_eq_some hturn
            rw [hturn] at hc
            exact (Change.linked_toList.mp (sh.store.linked_carryOut r)).2 c hc
  closed hclosed := by
    rw [isQueueClosed_step] at hclosed
    cases st with
    | closeQueue =>
        rw [(sh.stepped _).closed]
        exact (Bool.or_eq_true_iff.mp hclosed).elim id h.closed
    | enter | carryOut | finish | beginClose | edit | listen | unlisten | publish | call =>
        exact closed_step_of_closed (h.closed hclosed) _

/-- The change that a step publishes leads from the document published before it to the one
published after it. -/
theorem linked_published {sh : Shared σ κ} (h : sh.Orderly) (st : Step σ κ) :
    Change.Linked sh.shown (sh.published? st).toList (sh.step st).shown := by
  unfold shown
  rw [(sh.stepped st).pending, (sh.stepped st).active]
  cases st with
  | enter | finish | beginClose | edit | listen | unlisten | closeQueue | call => exact .nil rfl
  | publish => exact Change.linked_toList.mpr ⟨rfl, h.pending⟩
  | carryOut i =>
      dsimp only
      cases hturn : sh.turn? i with
      | none => exact .nil rfl
      | some outcome =>
          obtain ⟨hpending, r, _, rfl⟩ := turn?_eq_some hturn
          have hshown := (Change.linked_toList.mp (sh.store.linked_carryOut r)).1
          rw [hpending]
          exact .nil hshown.symm

end Shared

end SettingsStore
