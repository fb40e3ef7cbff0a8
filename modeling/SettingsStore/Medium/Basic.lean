import SettingsStore.Document.Codec

/-!
# Media

A medium keeps one document as bytes, and files beside it. Its state is a value, and an operation
that writes gives the state after it together with its outcome, so that what a failed write leaves
behind can be said of each medium.
-/

namespace SettingsStore

/-- What a store needs of the place where its document is kept. -/
class Medium (σ : Type) where
  describe : σ → String
  codec : σ → Codec
  /-- The document of a medium on which nothing is stored, before it is completed. -/
  initial : σ → Document
  /-- The bytes on the medium, if there are any yet. -/
  load : σ → Except PersistenceError (Option Bytes)
  /-- Stores a document, under an id of its own where documents have ids, and gives its bytes. -/
  persist : (id : String) → Document → σ → Except PersistenceError Bytes × σ
  getFile : String → σ → Except PersistenceError Bytes
  hasFile : String → σ → Except PersistenceError Bool
  putFile : String → Bytes → σ → Except PersistenceError Unit × σ
  /-- Removes a file. That it is not there is no failure. -/
  eraseFile : String → σ → Except PersistenceError Unit × σ

namespace Medium

/-- The outcome of an operation that either gives a new state or leaves the old one. -/
def outcome {σ τ ε : Type} (s : σ) (f : τ → σ) : Except ε τ → Except ε Unit × σ
  | .ok t => (.ok (), f t)
  | .error e => (.error e, s)

def readEntry (name : String) (files : Entries Bytes) : Except PersistenceError Bytes :=
  match files.find? name with
  | some bytes => .ok bytes
  | none => .error (.fileNotFound name)

end Medium

end SettingsStore
