/-!
# Bytes and text

Documents and auxiliary files are kept as bytes. Text is stored as its UTF-8 encoding, and bytes
are text exactly when they are such an encoding.
-/

namespace SettingsStore

abbrev Bytes := ByteArray

namespace Text

/-- The text that bytes encode, if they are well formed. -/
def ofBytes? (bs : Bytes) : Option String := String.fromUTF8? bs

def ofByteList? (bs : List UInt8) : Option String := ofBytes? ⟨bs.toArray⟩

@[simp] theorem ofBytes?_toUTF8 (s : String) : ofBytes? s.toUTF8 = some s := by
  have h : s.toUTF8.IsValidUTF8 := s.isValidUTF8
  unfold ofBytes? String.fromUTF8?
  rw [dif_pos h]
  rfl

@[simp] theorem ofByteList?_toUTF8 (s : String) : ofByteList? s.toUTF8.data.toList = some s := by
  unfold ofByteList?
  exact ofBytes?_toUTF8 s

end Text

end SettingsStore
