import SettingsStore.Proofs.Document.TomlText
import SettingsStore.Proofs.Json.Pretty

/-!
# Documents that were written

Every document is decoded from the bytes it is encoded as, in either format.
-/

namespace SettingsStore

open Json

namespace LeafType

theorem readAs_toJson (depth : Nat) {t : LeafType} (v : t.Value) :
    ReadAs (prettyAt depth (t.toJson v)) (t.toJson v).toTree := by
  cases t with
  | str => exact readAs_str v
  | optStr =>
      cases v with
      | none => exact readAs_null
      | some s => exact readAs_str s
  | bool => exact readAs_bool v
  | word32 =>
      change UInt32 at v
      refine readAs_int ⟨?_, ?_⟩
      · have hcount : Word.count 63 = 2 ^ 63 := rfl
        omega
      · have hlt := v.toNat_lt
        have hcount : Word.count 64 = 2 ^ 64 := rfl
        omega
  | int64 =>
      change Int64 at v
      refine readAs_int ⟨?_, ?_⟩
      · have hle := v.le_toInt
        have hcount : Word.count 63 = 2 ^ 63 := rfl
        omega
      · have hlt := v.toInt_lt
        have hcount : Word.count 64 = 2 ^ 64 := rfl
        omega
  | strList =>
      refine readAs_arr fun x hx => ?_
      obtain ⟨s, _, rfl⟩ := List.mem_map.mp hx
      exact readAs_str s

end LeafType

namespace Document

theorem readAs_outline (d : Document) : ReadAs d.toJsonText d.outline.toTree := by
  refine readAs_obj fun m hm => ?_
  obtain ⟨s, _, rfl⟩ := List.mem_map.mp hm
  refine readAs_obj fun m hm => ?_
  obtain ⟨l, _, rfl⟩ := List.mem_map.mp hm
  exact LeafType.readAs_toJson _ _

theorem ofSource_toJsonText (d : Document) :
    ofSource (Source.ofBytes d.toJsonText.toUTF8) = .ok d := by
  rw [d.readAs_outline.ofBytes, ofSource, ofTree_outline]
  rfl

end Document

namespace Codec

theorem decode_encode (c : Codec) (d : Document) : c.decode (c.encode d) = .ok d := by
  cases c with
  | json =>
      rw [encode, decode, Document.ofSource_toJsonText]
      rfl
  | toml =>
      rw [encode, decode, Text.ofBytes?_toUTF8]
      exact d.ofTomlText_toTomlText

theorem isEmpty_encode (c : Codec) (d : Document) : (c.encode d).isEmpty = false := by
  rw [← Bool.not_eq_true]
  intro hempty
  have hbytes : c.encode d = ByteArray.empty :=
    ByteArray.size_eq_zero_iff.mp (beq_iff_eq.mp hempty)
  cases c with
  | json =>
      have hdecode := d.ofSource_toJsonText
      have hnone : (Document.ofSource (Source.ofBytes ByteArray.empty)).isOk = false := by
        decide +kernel
      rw [show d.toJsonText.toUTF8 = ByteArray.empty from hbytes] at hdecode
      rw [hdecode] at hnone
      cases hnone
  | toml =>
      obtain ⟨r, htext⟩ := d.exists_toTomlText
      have hread := Text.ofBytes?_toUTF8 d.toTomlText
      rw [show d.toTomlText.toUTF8 = ByteArray.empty from hbytes] at hread
      have hnil : d.toTomlText = "" := (Option.some.inj hread).symm
      rw [hnil] at htext
      cases htext

end Codec

end SettingsStore
