import SettingsStore.Entries
import SettingsStore.Medium.Basic

/-!
# Documents in memory

`Memory` holds the last document that was stored. `Slot` holds bytes in either format, and can be
told to fail.
-/

namespace SettingsStore

structure Memory where
  saved : Option Document
  files : Entries Bytes

namespace Memory

def empty : Memory := ⟨none, []⟩

instance : Medium Memory where
  describe _ := "memory"
  codec _ := .json
  initial _ := .default
  load m := .ok (m.saved.map Codec.json.encode)
  persist _ d m := (.ok (Codec.json.encode d), { m with saved := some d })
  getFile name m := Medium.readEntry name m.files
  hasFile name m := .ok (m.files.find? name).isSome
  putFile name bytes m := (.ok (), { m with files := m.files.put name bytes })
  eraseFile name m := (.ok (), { m with files := m.files.erase name })

end Memory

structure Slot where
  codec : Codec
  bytes : Option Bytes
  failsToLoad : Bool
  failsToPersist : Bool
  /-- How often a document was stored. -/
  writes : Nat
  files : Entries Bytes

namespace Slot

def holding (codec : Codec) (bytes : Option Bytes) : Slot := ⟨codec, bytes, false, false, 0, []⟩

instance : Medium Slot where
  describe _ := "raw"
  codec := Slot.codec
  initial _ := .default
  load s := if s.failsToLoad then .error .io else .ok s.bytes
  persist _ d s :=
    if s.failsToPersist then (.error .io, s)
    else
      let bytes := s.codec.encode d
      (.ok bytes, { s with bytes := some bytes, writes := s.writes + 1 })
  getFile name s := Medium.readEntry name s.files
  hasFile name s := .ok (s.files.find? name).isSome
  putFile name bytes s := (.ok (), { s with files := s.files.put name bytes })
  eraseFile name s := (.ok (), { s with files := s.files.erase name })

end Slot

end SettingsStore
