import SettingsStore.Document.Basic

/-!
# Listeners

Whoever registers with a store is told of each change of its active document, in the order of the
changes and among listeners in the order of registration. Telling is a queue of calls: publishing
a change adds a call for each listener registered at that moment, and the calls are made later, one
by one. Once the queue is closed, no call is added.
-/

namespace SettingsStore

/-- A registered listener; `κ` is whatever tells what to do when it is called. -/
structure Listener (κ : Type) where
  id : Nat
  callback : κ

/-- The number of a listener as users see it. -/
def Listener.text {κ : Type} (l : Listener κ) : String := "listener-" ++ toString l.id

/-- A call that is due: a listener and the change it is told of. -/
structure Call (κ : Type) where
  listener : Listener κ
  old : Document
  new : Document

structure Listeners (κ : Type) where
  /-- The id of the next listener. -/
  next : Nat
  registered : List (Listener κ)
  queue : List (Call κ)
  closed : Bool

namespace Listeners

variable {κ : Type}

def empty : Listeners κ := ⟨1, [], [], false⟩

def register (callback : κ) (ls : Listeners κ) : Listener κ × Listeners κ :=
  let l := ⟨ls.next, callback⟩
  (l, { ls with next := ls.next + 1, registered := ls.registered ++ [l] })

/-- Removes a listener, and says whether it was there. Calls that are due to it stay. -/
def unregister (id : Nat) (ls : Listeners κ) : Bool × Listeners κ :=
  (ls.registered.any (·.id = id), { ls with registered := ls.registered.filter (·.id ≠ id) })

def publish (old new : Document) (ls : Listeners κ) : Listeners κ :=
  if ls.closed then ls
  else { ls with queue := ls.queue ++ ls.registered.map (⟨·, old, new⟩) }

/-- The call that is due first. -/
def next? (ls : Listeners κ) : Option (Call κ × Listeners κ) :=
  match ls.queue with
  | [] => none
  | c :: cs => some (c, { ls with queue := cs })

/-- All calls that are due now, taken from the queue. -/
def take (ls : Listeners κ) : List (Call κ) × Listeners κ := (ls.queue, { ls with queue := [] })

def close (ls : Listeners κ) : Listeners κ := { ls with closed := true }

end Listeners

end SettingsStore
