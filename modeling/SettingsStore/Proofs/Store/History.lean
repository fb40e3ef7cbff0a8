import SettingsStore.Proofs.Store.Failure
import SettingsStore.Proofs.Store.Publishing

/-!
# The history that listeners see

However the steps of a shared store come together, the calls that became due are the calls that
were made and those that are still due, in one order. A listener that is called can panic, which is
nothing to the store, or send requests, which are further steps. So a listener is told, once and in
order, of the changes that were published while it was registered and the queue was open, and of no
other. These lead without a gap from the document that was published last when it registered, which
is the one in use unless a change was pending. What was due when the queue was closed is called, and
nothing else. A request that had found the store open can still make a change then, of which nobody
is told.
-/

namespace SettingsStore

theorem told_append {κ : Type} (id : Nat) (calls later : List (Call κ)) :
    told id (calls ++ later) = told id calls ++ told id later := by
  rw [told, List.filter_append, List.map_append]
  rfl

def Step.removes {σ κ : Type} (id : Nat) : Step σ κ → Bool
  | .unlisten id' => id' == id
  | _ => false

namespace Shared

variable {σ κ α : Type} {sh : Shared σ κ} {id : Nat} {l : Listener κ}

/-! ## One listener -/

theorem filter_due (id : Nat) (sh : Shared σ κ) (st : Step σ κ) :
    (sh.due st).filter (·.listener.id = id) = (sh.announced? st).toList.flatMap fun c =>
      (sh.store.listeners.registered.filter (·.id = id)).map c.tell := by
  rw [due, List.filter_flatMap]
  simp only [List.filter_map]
  rfl

theorem filter_due_of_mem (h : sh.Orderly) (hl : l ∈ sh.store.listeners.registered)
    (st : Step σ κ) :
    (sh.due st).filter (·.listener.id = l.id) = (sh.announced? st).toList.map (·.tell l) := by
  rw [filter_due, h.listeners.filter_registered hl]
  exact List.flatMap_pure_eq_map _ _

theorem filter_due_of_notMem (hid : id ∉ sh.listening) (st : Step σ κ) :
    (sh.due st).filter (·.listener.id = id) = [] := by
  have hnone : sh.store.listeners.registered.filter (·.id = id) = [] := by
    refine List.filter_eq_nil_iff.mpr fun l hl heq => hid ?_
    exact List.mem_map.mpr ⟨l, hl, of_decide_eq_true heq⟩
  rw [filter_due, hnone]
  simp

theorem told_due (h : sh.Orderly) (id : Nat) (st : Step σ κ) :
    told id (sh.due st) = if id ∈ sh.listening then (sh.announced? st).toList else [] := by
  by_cases hid : id ∈ sh.listening
  · obtain ⟨l, hl, rfl⟩ := List.mem_map.mp hid
    rw [if_pos hid, told, filter_due_of_mem h hl, List.map_map]
    exact List.map_id _
  · rw [if_neg hid, told, filter_due_of_notMem hid]
    rfl

variable [Medium σ]

/-! ## Runs -/

/-- What comes together in a run. -/
def gather (f : Shared σ κ → Step σ κ → List α) (sh : Shared σ κ) : List (Step σ κ) → List α
  | [] => []
  | st :: steps => f sh st ++ gather f (sh.step st) steps

def dueIn : Shared σ κ → List (Step σ κ) → List (Call κ) := gather due

def callsIn : Shared σ κ → List (Step σ κ) → List (Call κ) :=
  gather fun sh st => (sh.called? st).toList

def madeIn : Shared σ κ → List (Step σ κ) → List Change :=
  gather fun sh st => (sh.made? st).toList

def publishedIn : Shared σ κ → List (Step σ κ) → List Change :=
  gather fun sh st => (sh.published? st).toList

/-- The changes that are published in a run while the queue is open. -/
def announcedIn : Shared σ κ → List (Step σ κ) → List Change :=
  gather fun sh st => (sh.announced? st).toList

/-- The changes that are published in a run while the queue is open and a listener registered. -/
def changesFor (id : Nat) : Shared σ κ → List (Step σ κ) → List Change :=
  gather fun sh st => if id ∈ sh.listening then (sh.announced? st).toList else []

theorem run_append (sh : Shared σ κ) (earlier later : List (Step σ κ)) :
    sh.run (earlier ++ later) = (sh.run earlier).run later := List.foldl_append

theorem gather_append (f : Shared σ κ → Step σ κ → List α) (sh : Shared σ κ)
    (earlier later : List (Step σ κ)) :
    gather f sh (earlier ++ later) = gather f sh earlier ++ gather f (sh.run earlier) later := by
  induction earlier generalizing sh with
  | nil => rfl
  | cons st earlier ih =>
      rw [List.cons_append, gather, ih, gather, List.append_assoc]
      rfl

/-- What every step keeps in balance is in balance after a run. -/
theorem gather_balance {held : Shared σ κ → List α} {f g : Shared σ κ → Step σ κ → List α}
    (h : ∀ sh st, held sh ++ f sh st = g sh st ++ held (sh.step st)) (sh : Shared σ κ)
    (steps : List (Step σ κ)) :
    held sh ++ gather f sh steps = gather g sh steps ++ held (sh.run steps) := by
  induction steps generalizing sh with
  | nil => exact List.append_nil _
  | cons st steps ih =>
      calc held sh ++ (f sh st ++ gather f (sh.step st) steps)
        _ = g sh st ++ (held (sh.step st) ++ gather f (sh.step st) steps) := by
          rw [← List.append_assoc, h, List.append_assoc]
        _ = g sh st ++ (gather g (sh.step st) steps ++ held (sh.run (st :: steps))) := by
          rw [ih]
          rfl
        _ = gather g sh (st :: steps) ++ held (sh.run (st :: steps)) := by
          rw [gather, List.append_assoc]

theorem Orderly.run (h : sh.Orderly) (steps : List (Step σ κ)) : (sh.run steps).Orderly := by
  induction steps generalizing sh with
  | nil => exact h
  | cons st steps ih => exact ih (h.step st)

theorem linked_gather (document : Shared σ κ → Document) {f : Shared σ κ → Step σ κ → List Change}
    (h : ∀ sh : Shared σ κ, sh.Orderly → ∀ st,
      Change.Linked (document sh) (f sh st) (document (sh.step st)))
    (hsh : sh.Orderly) (steps : List (Step σ κ)) :
    Change.Linked (document sh) (gather f sh steps) (document (sh.run steps)) := by
  induction steps generalizing sh with
  | nil => exact .nil rfl
  | cons st steps ih => exact (h sh hsh st).append (ih (hsh.step st))

/-- The calls that were due and those that became due are made in their order, or still due. -/
theorem queue_run (sh : Shared σ κ) (steps : List (Step σ κ)) :
    sh.queue ++ sh.dueIn steps = sh.callsIn steps ++ (sh.run steps).queue :=
  gather_balance queue_step sh steps

/-- The changes that were pending and those that were made are published, or still pending. -/
theorem pending_run (sh : Shared σ κ) (steps : List (Step σ κ)) :
    sh.pending.toList ++ sh.madeIn steps = sh.publishedIn steps ++ (sh.run steps).pending.toList :=
  gather_balance pending_made sh steps

theorem linked_madeIn (h : sh.Orderly) (steps : List (Step σ κ)) :
    Change.Linked sh.store.active (sh.madeIn steps) (sh.run steps).store.active :=
  linked_gather (fun sh => sh.store.active) (fun sh _ st => sh.linked_made st) h steps

theorem linked_publishedIn (h : sh.Orderly) (steps : List (Step σ κ)) :
    Change.Linked sh.shown (sh.publishedIn steps) (sh.run steps).shown :=
  linked_gather shown (fun _ h st => linked_published h st) h steps

/-! ## The closed queue -/

theorem isQueueClosed_run (h : sh.isQueueClosed = true) (steps : List (Step σ κ)) :
    (sh.run steps).isQueueClosed = true := by
  induction steps generalizing sh with
  | nil => exact h
  | cons st steps ih => exact ih (isQueueClosed_step_of_closed h st)

theorem announcedIn_of_closed (h : sh.isQueueClosed = true) (steps : List (Step σ κ)) :
    sh.announcedIn steps = [] := by
  induction steps generalizing sh with
  | nil => rfl
  | cons st steps ih =>
      rw [announcedIn, gather, announced?, if_pos h]
      exact ih (isQueueClosed_step_of_closed h st)

theorem dueIn_of_closed (h : sh.isQueueClosed = true) (steps : List (Step σ κ)) :
    sh.dueIn steps = [] := by
  induction steps generalizing sh with
  | nil => rfl
  | cons st steps ih =>
      rw [dueIn, gather, due, announced?, if_pos h]
      exact ih (isQueueClosed_step_of_closed h st)

/-- What is published is announced first, and then lost, if the queue is closed. -/
theorem exists_lost (sh : Shared σ κ) (steps : List (Step σ κ)) :
    ∃ lost, sh.publishedIn steps = sh.announcedIn steps ++ lost ∧
      ((sh.run steps).isQueueClosed = false → lost = []) := by
  induction steps generalizing sh with
  | nil => exact ⟨[], rfl, fun _ => rfl⟩
  | cons st steps ih =>
      cases hclosed : sh.isQueueClosed with
      | true =>
          refine ⟨sh.publishedIn (st :: steps), ?_, fun hopen => ?_⟩
          · rw [announcedIn_of_closed hclosed]
            rfl
          · rw [isQueueClosed_run hclosed] at hopen
            cases hopen
      | false =>
          obtain ⟨lost, hsplit, hlost⟩ := ih (sh.step st)
          refine ⟨lost, ?_, hlost⟩
          have hannounced : sh.announced? st = sh.published? st := by
            rw [announced?, hclosed]
            rfl
          rw [publishedIn, announcedIn, gather, gather, hannounced, List.append_assoc]
          exact congrArg ((sh.published? st).toList ++ ·) hsplit

/-- A store that is closed and has nothing under way makes no more changes. -/
structure Quiet (sh : Shared σ κ) : Prop where
  closed : sh.store.closed = true
  entered : sh.entered = []
  pending : sh.pending = none

theorem Quiet.turn? (h : sh.Quiet) (i : Nat) : sh.turn? i = none := by
  rw [Shared.turn?, h.pending, h.entered]
  rfl

theorem Quiet.step (h : sh.Quiet) (st : Step σ κ) : (sh.step st).Quiet where
  closed := closed_step_of_closed h.closed st
  entered := by
    rw [(sh.stepped st).entered]
    cases st with
    | enter r => exact (if_pos h.closed).trans h.entered
    | carryOut i => simp [h.turn? i, h.entered]
    | finish | beginClose | edit | listen | unlisten | closeQueue | call | publish =>
        exact h.entered
  pending := by
    rw [(sh.stepped st).pending]
    cases st with
    | carryOut i => simp [h.turn? i, h.pending]
    | publish => rfl
    | enter | finish | beginClose | edit | listen | unlisten | closeQueue | call =>
        exact h.pending

theorem madeIn_of_quiet (h : sh.Quiet) (steps : List (Step σ κ)) : sh.madeIn steps = [] := by
  induction steps generalizing sh with
  | nil => rfl
  | cons st steps ih =>
      have hmade : sh.made? st = none := by
        cases st with
        | carryOut i => rw [made?, h.turn? i, Option.bind_none]
        | enter | finish | beginClose | edit | listen | unlisten | closeQueue | call | publish =>
            rfl
      rw [madeIn, gather, hmade]
      exact ih (h.step st)

/-! ## From registration to removal -/

theorem told_dueIn (h : sh.Orderly) (id : Nat) (steps : List (Step σ κ)) :
    told id (sh.dueIn steps) = sh.changesFor id steps := by
  induction steps generalizing sh with
  | nil => rfl
  | cons st steps ih =>
      have hrest := ih (h.step st)
      rw [dueIn, changesFor] at hrest ⊢
      rw [gather, told_append, told_due h, hrest, gather]

theorem registered_step (sh : Shared σ κ) (st : Step σ κ) :
    (sh.step st).store.listeners.registered = match st with
      | .listen callback =>
        sh.store.listeners.registered ++ [(sh.store.listeners.register callback).1]
      | .unlisten id => sh.store.listeners.registered.filter (·.id ≠ id)
      | _ => sh.store.listeners.registered := by
  rw [(sh.stepped st).listeners]
  cases st with
  | enter | carryOut | finish | beginClose | edit | listen | unlisten => rfl
  | closeQueue =>
      dsimp only
      split <;> rfl
  | publish =>
      cases sh.pending with
      | none => rfl
      | some c => exact sh.store.listeners.registered_publish c.old c.new
  | call =>
      cases hnext : sh.next? with
      | none => rfl
      | some next =>
          obtain ⟨c, ls⟩ := next
          obtain ⟨cs, _, rfl⟩ := Listeners.exists_of_next? (next?_eq_some hnext).2
          rfl

theorem next_le_step (sh : Shared σ κ) (st : Step σ κ) :
    sh.store.listeners.next ≤ (sh.step st).store.listeners.next := by
  rw [(sh.stepped st).listeners]
  cases st with
  | enter | carryOut | finish | beginClose | edit | unlisten => exact le_rfl
  | listen callback => exact Nat.le_succ _
  | closeQueue =>
      dsimp only
      split <;> exact le_rfl
  | publish =>
      cases sh.pending with
      | none => exact le_rfl
      | some c => exact (sh.store.listeners.next_publish c.old c.new).ge
  | call =>
      cases hnext : sh.next? with
      | none => exact le_rfl
      | some next =>
          obtain ⟨c, ls⟩ := next
          obtain ⟨cs, _, rfl⟩ := Listeners.exists_of_next? (next?_eq_some hnext).2
          exact le_rfl

theorem next_le_run (sh : Shared σ κ) (steps : List (Step σ κ)) :
    sh.store.listeners.next ≤ (sh.run steps).store.listeners.next := by
  induction steps generalizing sh with
  | nil => exact le_rfl
  | cons st steps ih => exact (sh.next_le_step st).trans (ih (sh.step st))

theorem mem_registered_step (hl : l ∈ sh.store.listeners.registered) {st : Step σ κ}
    (hst : st.removes l.id = false) : l ∈ (sh.step st).store.listeners.registered := by
  rw [registered_step]
  cases st with
  | listen callback => exact List.mem_append_left _ hl
  | unlisten id =>
      refine List.mem_filter.mpr ⟨hl, decide_eq_true fun heq => ?_⟩
      exact beq_eq_false_iff_ne.mp hst heq.symm
  | enter | carryOut | finish | beginClose | edit | closeQueue | publish | call => exact hl

/-- Nobody gets the id of a listener that is gone. -/
theorem notMem_listening_step (hid : id ∉ sh.listening) (hlt : id < sh.store.listeners.next)
    (st : Step σ κ) : id ∉ (sh.step st).listening := by
  rw [listening, registered_step]
  cases st with
  | listen callback =>
      rw [List.map_append, List.mem_append, not_or]
      exact ⟨hid, fun hnew => hlt.ne (List.mem_singleton.mp hnew)⟩
  | unlisten id' => exact fun hold => hid ((List.filter_sublist.map Listener.id).mem hold)
  | enter | carryOut | finish | beginClose | edit | closeQueue | publish | call => exact hid

theorem notMem_listening_unlisten (sh : Shared σ κ) (id : Nat) :
    id ∉ (sh.step (.unlisten id)).listening := by
  intro hmem
  obtain ⟨l, hl, heq⟩ := List.mem_map.mp hmem
  exact of_decide_eq_true (List.mem_filter.mp hl).2 heq

theorem filter_dueIn_of_notMem (hid : id ∉ sh.listening) (hlt : id < sh.store.listeners.next)
    (steps : List (Step σ κ)) : (sh.dueIn steps).filter (·.listener.id = id) = [] := by
  induction steps generalizing sh with
  | nil => rfl
  | cons st steps ih =>
      rw [dueIn, gather, List.filter_append, filter_due_of_notMem hid, List.nil_append]
      exact ih (notMem_listening_step hid hlt st) (hlt.trans_le (sh.next_le_step st))

/-- The calls due to a listener are those of the changes that are announced until it is removed. -/
theorem filter_dueIn_of_mem (h : sh.Orderly) (hl : l ∈ sh.store.listeners.registered)
    (steps : List (Step σ κ)) :
    (sh.dueIn steps).filter (·.listener.id = l.id) =
      (sh.announcedIn (steps.takeWhile (!·.removes l.id))).map (·.tell l) := by
  induction steps generalizing sh with
  | nil => rfl
  | cons st steps ih =>
      rw [dueIn, gather, List.filter_append, filter_due_of_mem h hl]
      cases hst : st.removes l.id with
      | false =>
          have hrest := ih (h.step st) (mem_registered_step hl hst)
          rw [dueIn] at hrest
          rw [hrest, List.takeWhile_cons_of_pos (by simp [hst]), announcedIn, gather,
            List.map_append]
      | true =>
          have hunlisten : st = .unlisten l.id := by
            cases st with
            | unlisten id => exact congrArg Step.unlisten (beq_iff_eq.mp hst)
            | enter | carryOut | finish | beginClose | edit | listen | closeQueue | publish |
              call => cases hst
          have hlt := (h.listeners.registered_lt l hl).trans_le (sh.next_le_step st)
          have hgone : l.id ∉ (sh.step st).listening :=
            hunlisten ▸ sh.notMem_listening_unlisten l.id
          have hrest := filter_dueIn_of_notMem hgone hlt steps
          rw [dueIn] at hrest
          have hnone : sh.announced? st = none := by
            rw [hunlisten]
            exact ite_self none
          rw [hrest, List.takeWhile_cons_of_neg (by simp [hst]), hnone]
          rfl

theorem lt_of_mem_dueIn (h : sh.Orderly) {steps : List (Step σ κ)} {c : Call κ}
    (hc : c ∈ sh.dueIn steps) : c.listener.id < (sh.run steps).store.listeners.next := by
  induction steps generalizing sh with
  | nil => cases hc
  | cons st steps ih =>
      rcases List.mem_append.mp hc with hc | hc
      · obtain ⟨change, _, hc⟩ := List.mem_flatMap.mp hc
        obtain ⟨l, hl, rfl⟩ := List.mem_map.mp hc
        exact (h.listeners.registered_lt l hl).trans_le (sh.next_le_run (st :: steps))
      · exact ih (h.step st) hc

theorem lt_of_mem_callsIn (h : sh.Orderly) {steps : List (Step σ κ)} {c : Call κ}
    (hc : c ∈ sh.callsIn steps) : c.listener.id < (sh.run steps).store.listeners.next := by
  have hmem := List.mem_append_left (sh.run steps).queue hc
  rw [← queue_run] at hmem
  rcases List.mem_append.mp hmem with hmem | hmem
  · exact (h.listeners.queue_lt c hmem).trans_le (sh.next_le_run steps)
  · exact lt_of_mem_dueIn h hmem

/-- A listener is told of the changes from the document that was published last when it registered
to the one that was when it is removed, or now. A closed queue can cut this short. -/
theorem exists_made_waiting (h : sh.Orderly) (earlier : List (Step σ κ)) (callback : κ)
    (later : List (Step σ κ)) :
    let before := sh.run earlier
    let l := (before.store.listen callback).1
    let stretch := later.takeWhile (!·.removes l.id)
    let steps := earlier ++ .listen callback :: later
    let last := sh.run (earlier ++ .listen callback :: stretch)
    ∃ made waiting lost,
      (sh.callsIn steps).filter (·.listener.id = l.id) = made.map (·.tell l) ∧
      (sh.run steps).queue.filter (·.listener.id = l.id) = waiting.map (·.tell l) ∧
      Change.Linked before.shown (made ++ waiting ++ lost) last.shown ∧
      (last.isQueueClosed = false → lost = []) := by
  intro before l stretch steps last
  let after := before.step (.listen callback)
  have hbefore : before.Orderly := h.run earlier
  have hafter : after.Orderly := hbefore.step (.listen callback)
  have hl : l ∈ after.store.listeners.registered :=
    List.mem_append_right before.store.listeners.registered (List.mem_singleton.mpr rfl)
  have hrun (sts : List (Step σ κ)) :
      sh.run (earlier ++ .listen callback :: sts) = after.run sts := sh.run_append earlier _
  have hcalls : sh.callsIn steps = sh.callsIn earlier ++ after.callsIn later := by
    rw [callsIn, gather_append]
    rfl
  -- Nobody has called the listener, or is to call it, before it is registered.
  have hearlier : (sh.callsIn earlier).filter (·.listener.id = l.id) = [] :=
    List.filter_eq_nil_iff.mpr fun c hc heq =>
      (lt_of_mem_callsIn h hc).ne (of_decide_eq_true heq)
  have hqueue : after.queue.filter (·.listener.id = l.id) = [] :=
    List.filter_eq_nil_iff.mpr fun c hc heq =>
      (hbefore.listeners.queue_lt c hc).ne (of_decide_eq_true heq)
  have hdue := congrArg (List.filter (·.listener.id = l.id)) (queue_run after later)
  rw [List.filter_append, List.filter_append, hqueue, List.nil_append,
    filter_dueIn_of_mem hafter hl] at hdue
  obtain ⟨made, waiting, hsplit, hmade, hwaiting⟩ := List.map_eq_append_iff.mp hdue
  obtain ⟨lost, hpublished, hlost⟩ := after.exists_lost stretch
  refine ⟨made, waiting, lost, ?_, ?_, ?_, ?_⟩
  · rw [hcalls, List.filter_append, hearlier, List.nil_append, hmade]
  · rw [hrun, hwaiting]
  · rw [← hsplit, ← hpublished, show last = _ from hrun stretch]
    exact linked_publishedIn hafter stretch
  · rw [show last = _ from hrun stretch]
    exact hlost

/-! ## Actions are runs -/

/-- The steps by which calls are made one by one. -/
def deliveries : List (Call κ) → List (Step σ κ)
  | [] => []
  | _ :: calls => .call :: .finish :: deliveries calls

/-- The steps of an action, when nothing else is under way. -/
def stepsOf (s : Store σ κ) : Action σ κ → List (Step σ κ)
  | .set fresh candidate => [.enter (.set fresh candidate), .carryOut 0, .publish]
  | .reload fresh => [.enter (.reload fresh), .carryOut 0, .publish]
  | .sync fresh => [.enter (.sync fresh), .carryOut 0, .publish]
  | .listen callback => [.listen callback]
  | .unlisten id => [.unlisten id]
  | .deliver => [.call, .finish]
  | .close =>
    if s.closed then [] else .beginClose :: .closeQueue :: deliveries s.listeners.queue
  | a => [.edit (s.act a).medium]

theorem run_request (r : Request) (s : Store σ κ) :
    (idle s).run [.enter r, .carryOut 0, .publish] = idle (s.perform r).2 ∧
      (idle s).callsIn [.enter r, .carryOut 0, .publish] = [] := by
  refine ⟨?_, rfl⟩
  cases hclosed : s.closed with
  | true =>
      rw [Store.perform_of_closed hclosed]
      have henter : (idle s).step (.enter r) = idle s := if_pos hclosed
      change (((idle s).step (.enter r)).step (.carryOut 0)).step .publish = _
      rw [henter]
      rfl
  | false =>
      have henter : (idle s).step (.enter r) = ⟨s, [r], none, none⟩ :=
        if_neg (hclosed ▸ Bool.false_ne_true)
      have hturn : (⟨s, [r], none, none⟩ : Shared σ κ).step (.carryOut 0) =
          ⟨(s.carryOut r).2, [], (s.carryOut r).1.toOption.join, none⟩ := rfl
      change (((idle s).step (.enter r)).step (.carryOut 0)).step .publish = _
      rw [henter, hturn, Store.perform_of_isOpen hclosed]
      dsimp only [step]
      cases (s.carryOut r).1.toOption.join <;> rfl

theorem run_deliveries (calls : List (Call κ)) (sh : Shared σ κ) (hqueue : sh.queue = calls)
    (hcalling : sh.calling = none) :
    sh.run (deliveries calls) =
        { sh with
          store := { sh.store with listeners := { sh.store.listeners with queue := [] } } } ∧
      sh.callsIn (deliveries calls) = calls := by
  induction calls generalizing sh with
  | nil =>
      refine ⟨?_, rfl⟩
      change sh = _
      rw [← hqueue]
      rfl
  | cons c cs ih =>
      have hnext : sh.next? = some (c, { sh.store.listeners with queue := cs }) := by
        rw [next?, hcalling]
        dsimp only
        rw [Listeners.next?, show sh.store.listeners.queue = _ from hqueue]
      let after : Shared σ κ :=
        { sh with store := { sh.store with listeners := { sh.store.listeners with queue := cs } } }
      have hafter : (sh.step .call).step .finish = after := by
        rw [step, step, hnext, ← hcalling]
      obtain ⟨hrun, hcalls⟩ := ih after rfl hcalling
      constructor
      · change ((sh.step .call).step .finish).run _ = _
        rw [hafter, hrun]
      · change (sh.called? .call).toList ++ ([] ++ ((sh.step .call).step .finish).callsIn _) = _
        rw [hafter, hcalls, called?, hnext]
        rfl

/-- Once the queue is closed, the calls can come to an end. -/
theorem exists_isDone (h : sh.isQueueClosed = true) : ∃ later, (sh.run later).isDone = true := by
  refine ⟨.finish :: deliveries sh.queue, ?_⟩
  change ((sh.step .finish).run (deliveries sh.queue)).isDone = true
  rw [(run_deliveries sh.queue (sh.step .finish) rfl rfl).1]
  simp only [isDone, isQueueClosed, queue] at h ⊢
  rw [show (sh.step .finish).store.listeners.closed = true from h]
  rfl

theorem run_change (f : σ → Except PersistenceError Unit × σ) (s : Store σ κ) :
    (idle s).run [.edit (s.change f).2.medium] = idle (s.change f).2 := by
  have hkept : { s with medium := (s.change f).2.medium } = (s.change f).2 := by
    unfold Store.change
    split
    · rfl
    · split <;> rfl
  exact congrArg idle hkept

/-- Every action of a store is a run of steps. -/
theorem run_stepsOf (s : Store σ κ) (a : Action σ κ) :
    (idle s).run (stepsOf s a) = idle (s.act a) ∧
      (idle s).callsIn (stepsOf s a) = match s.answer a with
        | .delivered call => call.toList
        | .closed calls => calls
        | _ => [] := by
  cases a with
  | set fresh candidate => exact run_request (.set fresh candidate) s
  | reload fresh => exact run_request (.reload fresh) s
  | sync fresh => exact run_request (.sync fresh) s
  | listen | unlisten => exact ⟨rfl, rfl⟩
  | putFile name bytes => exact ⟨run_change (Medium.putFile name bytes) s, rfl⟩
  | eraseFile name => exact ⟨run_change (Medium.eraseFile name) s, rfl⟩
  | edit medium =>
      refine ⟨?_, rfl⟩
      rw [Store.act]
      split
      · next hcodec =>
          dsimp only [stepsOf]
          rw [Store.act, if_pos hcodec]
          rfl
      · next hcodec =>
          dsimp only [stepsOf]
          rw [Store.act, if_neg hcodec]
          rfl
  | deliver =>
      have hnext : (idle s).next? = s.listeners.next? := rfl
      change ((idle s).step .call).step .finish = _ ∧ ((idle s).called? .call).toList ++ [] = _
      rw [step, step, called?, hnext, List.append_nil, Store.act, Store.answer]
      cases s.listeners.next? <;> exact ⟨rfl, rfl⟩
  | close =>
      dsimp only [stepsOf]
      rw [Store.act, Store.answer, Store.close]
      cases hclosed : s.closed with
      | true => exact ⟨rfl, rfl⟩
      | false =>
          let closing : Shared σ κ :=
            idle { s with closed := true, listeners := { s.listeners with closed := true } }
          have hclose : ((idle s).step .beginClose).step .closeQueue = closing := rfl
          obtain ⟨hrun, hcalls⟩ := run_deliveries s.listeners.queue closing rfl rfl
          constructor
          · change (((idle s).step .beginClose).step .closeQueue).run _ = _
            rw [hclose, hrun]
            rfl
          · change [] ++ ([] ++ (((idle s).step .beginClose).step .closeQueue).callsIn _) = _
            rw [hclose, hcalls]
            rfl

/-! ## The history -/

theorem orderly_of_openMedium {options : Options} {salt : String} {fresh : Fresh} {medium : σ}
    {loaded : Loaded} {s : Store σ κ}
    (h : Store.openMedium options salt fresh medium = (.ok loaded, s)) : (idle s).Orderly := by
  obtain ⟨bytes, _, hbytes⟩ := Store.exists_load_of_openMedium h
  have hload := (Store.ofMedium options salt medium : Store σ κ).publishes_loadBytes fresh bytes id
  rw [hbytes] at hload
  refine orderly_idle (hload.listeners.trans ?_)
  generalize Option.join _ = change
  cases change <;> rfl

/-- What listeners see of a store that is shared. The calls of a run are made once and in the order
in which they became due, and each listener is told exactly of the changes that were published while
it was registered and the queue was open. A change is made by each set that succeeds and each load
that puts another document to use, and all changes are published in their order. They lead from the
document that was published last when a listener registered to the one that was when it is removed,
or now, but for those that are published after the queue is closed. Then the calls that are due
are made, and no others, so none is made once they are over. No more changes are made if no request
had found the store open. -/
theorem history_of_steps {options : Options} {salt : String} {fresh : Fresh} {medium : σ}
    {loaded : Loaded} {s : Store σ κ}
    (h : Store.openMedium options salt fresh medium = (.ok loaded, s)) :
    let start : Shared σ κ := idle s
    (∀ steps : List (Step σ κ),
      let sh := start.run steps
      start.dueIn steps = start.callsIn steps ++ sh.queue ∧
      (∀ id, start.changesFor id steps = told id (start.callsIn steps) ++ told id sh.queue) ∧
      start.madeIn steps = start.publishedIn steps ++ sh.pending.toList ∧
      Change.Linked s.active (start.madeIn steps) sh.store.active ∧
      ∀ i r, sh.pending = none → sh.entered[i]? = some r →
        let after := sh.step (.carryOut i)
        sh.made? (.carryOut i) =
          if (sh.store.carryOut r).1.isOk = true ∧
            (r.isSet = true ∨ sh.store.active ≠ after.store.active) then
            some ⟨sh.store.active, after.store.active⟩
          else none) ∧
    (∀ (earlier : List (Step σ κ)) (callback : κ) (later : List (Step σ κ)),
      let before := start.run earlier
      let l := (before.store.listen callback).1
      let stretch := later.takeWhile (!·.removes l.id)
      let steps := earlier ++ .listen callback :: later
      let last := start.run (earlier ++ .listen callback :: stretch)
      ∃ made waiting lost,
        (start.callsIn steps).filter (·.listener.id = l.id) = made.map (·.tell l) ∧
        (start.run steps).queue.filter (·.listener.id = l.id) = waiting.map (·.tell l) ∧
        Change.Linked before.shown (made ++ waiting ++ lost) last.shown ∧
        (last.isQueueClosed = false → lost = [])) ∧
    ∀ steps : List (Step σ κ),
      let sh := start.run steps
      sh.isQueueClosed = true → (∃ later, (sh.run later).isDone = true) ∧
        ∀ later : List (Step σ κ),
          sh.queue = sh.callsIn later ++ (sh.run later).queue ∧
          (sh.isDone = true → sh.callsIn later = []) ∧
          (sh.entered = [] → sh.pending = none → sh.madeIn later = []) := by
  intro start
  have hstart : start.Orderly := orderly_of_openMedium h
  have hdue (steps : List (Step σ κ)) :
      start.dueIn steps = start.callsIn steps ++ (start.run steps).queue := by
    have hqueue := queue_run start steps
    rwa [show start.queue = [] from Store.queue_of_openMedium h, List.nil_append] at hqueue
  refine ⟨fun steps => ⟨hdue steps, fun id => ?_, pending_run start steps,
    linked_madeIn hstart steps, fun i r hpending hr => ?_⟩, exists_made_waiting hstart,
    fun steps hclosed => ⟨exists_isDone hclosed, fun later =>
      ⟨?_, fun hdone => ?_, fun hentered hpending => ?_⟩⟩⟩
  · rw [← told_dueIn hstart, hdue, told_append]
  · exact made?_carryOut hpending hr
  · have hqueue := queue_run (start.run steps) later
    rwa [dueIn_of_closed hclosed, List.append_nil] at hqueue
  · have hqueue := queue_run (start.run steps) later
    rw [dueIn_of_closed hclosed, queue_of_isDone hdone] at hqueue
    exact (List.append_eq_nil_iff.mp hqueue.symm).1
  · exact madeIn_of_quiet ⟨(hstart.run steps).closed hclosed, hentered, hpending⟩ later

/-- While a listener is called, another set finds the store open, which is then closed. It succeeds,
but nobody is told. Another listener registered between a change and its publication. -/
theorem history_of_closing :
    let s := (Store.inMemory []).2
    let set (directory : String) : Request :=
      .set ⟨"0123456789abcdef0123456789abcdef", "first"⟩ { files := { directory } }
    let start : Shared Memory Unit := idle s
    let earlier := [.listen (), .enter (set "uploads"), .carryOut 0]
    let later := [.publish, .call, .enter (set "shared"), .beginClose, .closeQueue, .carryOut 0,
      .publish, .finish, .call, .finish]
    let before := start.run earlier
    let l := (before.store.listen ()).1
    let steps := earlier ++ .listen () :: later
    let sh := start.run steps
    let last := start.run (earlier ++ .listen () :: later.takeWhile (!·.removes l.id))
    let calls := start.callsIn steps
    sh.isDone = true ∧ sh.store.active.files.directory = "shared/" ∧
      calls.map (fun c => (c.listener.id, c.new.files.directory)) =
        [(1, "uploads/"), (2, "uploads/")] ∧
      start.changesFor 1 steps = told 1 calls ++ told 1 sh.queue ∧
      Change.Linked s.active (start.madeIn steps) sh.store.active ∧
      (∃ made waiting lost, calls.filter (·.listener.id = l.id) = made.map (·.tell l) ∧
        Change.Linked before.shown (made ++ waiting ++ lost) last.shown) ∧
      before.shown ≠ before.store.active ∧
      ∀ more, sh.callsIn more = [] ∧ sh.madeIn more = [] := by
  intro s set start earlier later before l steps sh last calls
  obtain ⟨loaded, hopen⟩ : ∃ loaded, Store.inMemory [] = (.ok loaded, s) :=
    Store.exists_eq_ok (by decide +kernel)
  have hdone : sh.isDone = true := by decide +kernel
  have hover : sh.entered = [] ∧ sh.pending = none := by decide +kernel
  have hdirectory : sh.store.active.files.directory = "shared/" := by decide +kernel
  have hcalls : calls.map (fun c => (c.listener.id, c.new.files.directory)) =
      [(1, "uploads/"), (2, "uploads/")] := by
    decide +kernel
  have hbetween : before.shown ≠ before.store.active := by decide +kernel
  -- From here on, it does not matter which store this is.
  clear_value s
  obtain ⟨hruns, hlisteners, hclosings⟩ := history_of_steps (κ := Unit) hopen
  obtain ⟨_, hchanges, _, hlinked, _⟩ := hruns steps
  obtain ⟨made, waiting, lost, hmade, _, hstretch, _⟩ := hlisteners earlier () later
  refine ⟨hdone, hdirectory, hcalls, hchanges 1, hlinked,
    ⟨made, waiting, lost, hmade, hstretch⟩, hbetween, fun more => ?_⟩
  have hclosed : sh.isQueueClosed = true := by
    simp only [isDone, Bool.and_eq_true] at hdone
    exact hdone.1.1
  obtain ⟨_, hnone, hmore⟩ := (hclosings steps hclosed).2 more
  exact ⟨hnone hdone, hmore hover.1 hover.2⟩

end Shared

end SettingsStore
