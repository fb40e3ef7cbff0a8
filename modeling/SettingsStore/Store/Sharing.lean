import SettingsStore.Store.Basic

/-!
# Stores that are shared

Users share a store with each other and with the thread that calls the listeners. A request for
another document in use is then more than one step: it looks whether the store is open, has its
turn, in which it changes the document, and publishes the change. No other request has its turn
before that, but all else goes on, since neither listening nor closing nor calling takes a turn. A
store that is closed takes no more requests, then closes the queue, and is done when all calls that
were due are over.

Looking up who listens and adding their calls to the queue are one step here. What could come
between them might as well come after both, or before both if it closes the queue.
-/

namespace SettingsStore

/-- One document in use after another. -/
structure Change where
  old : Document
  new : Document
deriving DecidableEq

/-- The call by which a listener is told of a change. -/
def Change.tell {κ : Type} (c : Change) (l : Listener κ) : Call κ := ⟨l, c.old, c.new⟩

/-- What can put another document to use. -/
inductive Shared.Request where
  | set (fresh : Fresh) (candidate : Document)
  | reload (fresh : Fresh)
  | sync (fresh : Fresh)

def Shared.Request.isSet : Shared.Request → Bool
  | .set _ _ => true
  | .reload _ | .sync _ => false

namespace Store

variable {σ κ : Type}

/-- What became of the document in use, if it is another one. -/
def alteration (s s' : Store σ κ) : Option Change :=
  if s.active = s'.active then none else some ⟨s.active, s'.active⟩

variable [Medium σ]

/-- Fulfils a request, and gives the change to be published, if there is one. -/
def perform (r : Shared.Request) (s : Store σ κ) : Except StoreError (Option Change) × Store σ κ :=
  match r with
  | .set fresh candidate =>
    let (document, s') := s.set fresh candidate
    (document.map fun d => some ⟨s.active, d⟩, s')
  | .reload fresh =>
    let (loaded, s') := s.reload fresh
    (loaded.map fun _ => s.alteration s', s')
  | .sync fresh =>
    let (synced, s') := s.sync fresh
    (synced.map fun _ => s.alteration s', s')

/-- The turn of a request that found the store open. Its change is not published yet. -/
def carryOut (r : Shared.Request) (s : Store σ κ) : Except StoreError (Option Change) × Store σ κ :=
  let (result, s') := perform r { s with closed := false }
  (result, { s' with listeners := s.listeners, closed := s.closed })

end Store

structure Shared (σ κ : Type) where
  store : Store σ κ
  /-- The requests that found the store open and have not had their turn. -/
  entered : List Shared.Request
  /-- The change of the request that has its turn, if it is still to be published. -/
  pending : Option Change
  /-- The call that is being made. -/
  calling : Option (Call κ)

inductive Step (σ κ : Type) where
  | enter (r : Shared.Request)
  | carryOut (i : Nat)
  | publish
  | listen (callback : κ)
  | unlisten (id : Nat)
  | call
  | finish
  | beginClose
  | closeQueue
  /-- Others leave something on the medium. -/
  | edit (medium : σ)

namespace Shared

variable {σ κ : Type}

/-- A store that nobody uses at the moment. -/
def idle (s : Store σ κ) : Shared σ κ := ⟨s, [], none, none⟩

def queue (sh : Shared σ κ) : List (Call κ) := sh.store.listeners.queue

/-- Whether no more calls become due. -/
def isQueueClosed (sh : Shared σ κ) : Bool := sh.store.listeners.closed

/-- Whether a store is closed and all calls are over. Whoever closes it waits for this. -/
def isDone (sh : Shared σ κ) : Bool :=
  sh.isQueueClosed && sh.queue.isEmpty && sh.calling.isNone

variable [Medium σ]

/-- The result of a request, and the store after it, if it can have its turn. -/
def turn? (i : Nat) (sh : Shared σ κ) : Option (Except StoreError (Option Change) × Store σ κ) :=
  match sh.pending with
  | none => sh.entered[i]?.map (sh.store.carryOut ·)
  | some _ => none

/-- The call that can be made next, and those who listen after it. -/
def next? (sh : Shared σ κ) : Option (Call κ × Listeners κ) :=
  match sh.calling with
  | none => sh.store.listeners.next?
  | some _ => none

/-- What cannot happen in a state leaves it as it is. -/
def step (sh : Shared σ κ) : Step σ κ → Shared σ κ
  | .enter r => if sh.store.closed then sh else { sh with entered := sh.entered ++ [r] }
  | .carryOut i => match sh.turn? i with
    | some (result, store) =>
      { sh with store, entered := sh.entered.eraseIdx i, pending := result.toOption.join }
    | none => sh
  | .publish => match sh.pending with
    | some c => { sh with
        store := { sh.store with listeners := sh.store.listeners.publish c.old c.new }
        pending := none }
    | none => sh
  | .listen callback => { sh with store := (sh.store.listen callback).2 }
  | .unlisten id => { sh with store := (sh.store.unlisten id).2 }
  | .call => match sh.next? with
    | some (c, listeners) => { sh with store := { sh.store with listeners }, calling := some c }
    | none => sh
  | .finish => { sh with calling := none }
  | .beginClose => { sh with store := { sh.store with closed := true } }
  | .closeQueue =>
    if sh.store.closed then
      { sh with store := { sh.store with listeners := sh.store.listeners.close } }
    else sh
  | .edit medium => { sh with store := { sh.store with medium } }

def run (sh : Shared σ κ) (steps : List (Step σ κ)) : Shared σ κ := steps.foldl step sh

end Shared

end SettingsStore
