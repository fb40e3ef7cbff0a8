import SettingsStore.Document.Masking
import SettingsStore.Document.Overrides
import SettingsStore.Medium.Basic
import SettingsStore.Store.Listeners

/-!
# Stores

A store keeps a document on a medium and has one document active: the kept one with the values of
the environment, repaired. Both change only together. An operation that fails leaves the store as it
was, apart from what the medium itself made of a failed write.

`load` takes the document from the medium and writes it back if it had to be completed or repaired.
`sync` does so only if the medium has other bytes than the store last saw. `set` replaces the
document.
-/

namespace SettingsStore

structure Options where
  watch : Bool
  /-- Refuse changes, and never write back. -/
  readOnly : Bool
  allowOverrides : Bool
  skipValidation : Bool
  environment : Environment
  /-- What the names of variables begin with. -/
  lead : String
  /-- The most bytes in a value of a database. -/
  maxWriteLength : Nat

namespace Options

def defaultLead : String := "CS"

def default : Options where
  watch := true
  readOnly := false
  allowOverrides := true
  skipValidation := false
  environment := []
  lead := defaultLead
  maxWriteLength := 4 * 1024 * 1024

end Options

/-- A document in use, and the settings that have their values from the environment. -/
structure Effective where
  document : Document
  overridden : List Leaf

/-- The document in use for a kept one. -/
def Options.effective (o : Options) (d : Document) : Except (List Violation) Effective := do
  let (d, overridden) ←
    if o.allowOverrides then d.applyOverrides o.environment o.lead else pure (d, [])
  let d := d.repaired
  if o.skipValidation then return ⟨d, overridden⟩
  match d.violations with
  | [] => return ⟨d, overridden⟩
  | violations => throw violations

/-- New identifiers for one operation: for a salt and for a revision. -/
structure Fresh where
  salt : String
  revision : String

structure Store (σ κ : Type) where
  options : Options
  medium : σ
  active : Document
  overridden : List Leaf
  /-- The document that was last taken from the medium or put there. -/
  persisted : Document
  /-- The bytes that were last read from the medium or written there. -/
  synced : Option Bytes
  listeners : Listeners κ
  closed : Bool

/-- What a load did: whether it wrote to the medium, and whether the active document changed. -/
structure Loaded where
  saved : Bool
  changed : Bool
deriving DecidableEq, Repr

namespace Store

variable {σ κ : Type} [Medium σ]

/-- A store that has not read its medium. -/
def ofMedium (options : Options) (salt : String) (medium : σ) : Store σ κ where
  options
  medium
  active := Document.default.fill salt
  overridden := []
  persisted := Document.default.fill salt
  synced := none
  listeners := .empty
  closed := false

/-! ## Loading -/

/-- The document that bytes stand for, and whether the medium should have it in another form. -/
def decode (salt : String) (bytes : Option Bytes) (s : Store σ κ) :
    Except DecodeError (Document.Repaired Document) := do
  let (decoded, missing) ← match bytes with
    | some bytes => do pure (← (Medium.codec s.medium).decode bytes, false)
    | none => pure ((Medium.initial s.medium).fill salt, true)
  let filled := (decoded.inherit s.persisted).fill salt
  let (repaired, changed) := filled.repair
  return (repaired, missing || decide (filled ≠ decoded) || changed)

/-- Writes a document that was loaded, unless the store must not write. -/
def writeBack (revision : String) (d : Document) (s : Store σ κ) :
    Except PersistenceError (Option Bytes) × σ :=
  if s.options.readOnly then (.ok none, s.medium)
  else
    let (written, medium) := Medium.persist revision d s.medium
    (written.map some, medium)

/-- Takes over a document. Listeners are told if another one becomes active. -/
def adopt (persisted : Document) (e : Effective) (synced : Option Bytes) (s : Store σ κ) :
    Bool × Store σ κ :=
  let changed := decide (s.active ≠ e.document)
  (changed, { s with
    active := e.document
    overridden := e.overridden
    persisted
    synced
    listeners := if changed then s.listeners.publish s.active e.document else s.listeners })

/-- Makes the document of the medium's bytes the active one. Empty bytes are no document yet. -/
def loadBytes (fresh : Fresh) (bytes : Option Bytes) (s : Store σ κ) :
    Except StoreError Loaded × Store σ κ :=
  let bytes := bytes.filter (!·.isEmpty)
  match s.decode fresh.salt bytes with
  | .error cause => (.error (.undecodable cause), s)
  | .ok (document, needsSave) => match s.options.effective document with
    | .error violations => (.error (.invalid violations), s)
    | .ok e =>
      let (written, medium) :=
        if needsSave then s.writeBack fresh.revision document else (.ok none, s.medium)
      let s := { s with medium }
      match written with
      | .error cause => (.error (.persistence cause), s)
      | .ok written =>
        let (changed, s) := s.adopt document e (written <|> bytes)
        (.ok ⟨written.isSome, changed⟩, s)

def load (fresh : Fresh) (s : Store σ κ) : Except StoreError Loaded × Store σ κ :=
  match Medium.load s.medium with
  | .error cause => (.error (.persistence cause), s)
  | .ok bytes => s.loadBytes fresh bytes

/-- Opens a store on a medium; `salt` is for the document it has before it reads the medium. -/
def openMedium (options : Options) (salt : String) (fresh : Fresh) (medium : σ) :
    Except StoreError Loaded × Store σ κ :=
  (ofMedium options salt medium).load fresh

def reload (fresh : Fresh) (s : Store σ κ) : Except StoreError Loaded × Store σ κ :=
  if s.closed then (.error .closed, s) else s.load fresh

/-- Loads if the medium has bytes other than those that the store last saw, and says whether it
did. -/
def sync (fresh : Fresh) (s : Store σ κ) : Except StoreError Bool × Store σ κ :=
  if s.closed then (.error .closed, s)
  else match Medium.load s.medium with
    | .error cause => (.error (.persistence cause), s)
    | .ok bytes =>
      if bytes.all (·.isEmpty) || s.synced == bytes then (.ok false, s)
      else
        let (loaded, s) := s.loadBytes fresh bytes
        (loaded.map fun _ => true, s)

/-! ## Setting -/

/-- The document to keep for one that a user wants: masks are the secrets they stand for, and what
the environment overrides stays as it was kept. -/
def toPersist (salt : String) (candidate : Document) (s : Store σ κ) : Document :=
  let d := (((candidate.unmask s.active).inherit s.persisted).fill salt).repaired
  if s.options.allowOverrides then d.restore s.persisted s.overridden else d

/-- Replaces the document, and gives the new active one. Listeners are always told. -/
def set (fresh : Fresh) (candidate : Document) (s : Store σ κ) :
    Except StoreError Document × Store σ κ :=
  if s.closed then (.error .closed, s)
  else if s.options.readOnly then (.error .readOnly, s)
  else
    let document := s.toPersist fresh.salt candidate
    match s.options.effective document with
    | .error violations => (.error (.invalid violations), s)
    | .ok e =>
      let (written, medium) := Medium.persist fresh.revision document s.medium
      let s := { s with medium }
      match written with
      | .error cause => (.error (.persistence cause), s)
      | .ok bytes => (.ok e.document, { s with
          active := e.document
          overridden := e.overridden
          persisted := document
          synced := some bytes
          listeners := s.listeners.publish s.active e.document })

/-! ## Files -/

def getFile (name : String) (s : Store σ κ) : Except StoreError Bytes :=
  (Medium.getFile name s.medium).mapError .persistence

def hasFile (name : String) (s : Store σ κ) : Except StoreError Bool :=
  (Medium.hasFile name s.medium).mapError .persistence

/-- Changes the medium, if the store is open and may write. -/
def change (f : σ → Except PersistenceError Unit × σ) (s : Store σ κ) :
    Except StoreError Unit × Store σ κ :=
  if s.closed then (.error .closed, s)
  else if s.options.readOnly then (.error .readOnly, s)
  else
    let (done, medium) := f s.medium
    (done.mapError .persistence, { s with medium })

def putFile (name : String) (bytes : Bytes) (s : Store σ κ) :
    Except StoreError Unit × Store σ κ :=
  s.change (Medium.putFile name bytes)

def eraseFile (name : String) (s : Store σ κ) : Except StoreError Unit × Store σ κ :=
  s.change (Medium.eraseFile name)

/-! ## Listening and closing -/

def listen (callback : κ) (s : Store σ κ) : Listener κ × Store σ κ :=
  let (l, listeners) := s.listeners.register callback
  (l, { s with listeners })

def unlisten (id : Nat) (s : Store σ κ) : Bool × Store σ κ :=
  let (found, listeners) := s.listeners.unregister id
  (found, { s with listeners })

/-- The calls that are due, taken from the queue. -/
def takeCalls (s : Store σ κ) : List (Call κ) × Store σ κ :=
  let (calls, listeners) := s.listeners.take
  (calls, { s with listeners })

/-- Closes the store. The calls that are due are still to be made, and no others will be. -/
def close (s : Store σ κ) : List (Call κ) × Store σ κ :=
  if s.closed then ([], s)
  else
    let (calls, listeners) := s.listeners.take
    (calls, { s with closed := true, listeners := listeners.close })

end Store

end SettingsStore
