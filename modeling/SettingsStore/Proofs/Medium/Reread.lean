import SettingsStore.Proofs.Document.Text
import SettingsStore.Proofs.Medium.Apart

/-!
# Files that are read again

A path that leads to a file, or to the place for one, does so after all that can be done to the file
and to those beside it. So every document can be stored there at any time, and what is read then is
the document that was stored, in TOML as in JSON: whatever its strings contain, and although what is
unset is not written.
-/

namespace SettingsStore

open Medium

namespace FileMedium

variable {m : FileMedium}

/-- The path leads to a file, or to the place for one. -/
def IsWritable (m : FileMedium) : Prop :=
  ∃ loc, m.disk.locate m.path = .ok loc ∧ ¬m.disk.root.HasDirectory loc

theorem path_perform (deed : Deed) (m : FileMedium) : (perform deed m).path = m.path := by
  rw [← m.mk_perform deed]

theorem codec_performAll (deeds : List Deed) (m : FileMedium) :
    (performAll deeds m).codec = m.codec := by
  induction deeds generalizing m with
  | nil => rfl
  | cons deed deeds ih => exact (ih _).trans (congrArg Codec.ofPath (m.path_perform deed))

theorem IsWritable.perform (h : m.IsWritable) (deed : Deed) : (perform deed m).IsWritable := by
  obtain ⟨loc, hlocate, hnot⟩ := h
  rcases perform_cases deed m with heq | ⟨changed, disk, _, hdiffer, heq⟩
  · rw [heq]
    exact ⟨loc, hlocate, hnot⟩
  · rw [heq]
    exact ⟨loc, hdiffer.locate_eq_ok hlocate, mt (hdiffer.root.hasDirectory_iff loc).mp hnot⟩

theorem IsWritable.performAll (h : m.IsWritable) (deeds : List Deed) :
    (performAll deeds m).IsWritable := by
  induction deeds generalizing m with
  | nil => exact h
  | cons deed deeds ih => exact ih (h.perform deed)

theorem IsWritable.persist (h : m.IsWritable) (d : Document) :
    ∃ m', m.persist d = (.ok (m.codec.encode d), m') ∧ m'.load = .ok (some (m.codec.encode d)) ∧
      Medium.Holds m' d := by
  obtain ⟨loc, hlocate, hnot⟩ := h
  have hreplace := Disk.replace_of_locate hlocate hnot (m.codec.encode d)
  let m' : FileMedium :=
    { m with disk := { m.disk with root := m.disk.root.put loc (.file (m.codec.encode d)) } }
  have hpersist : m.persist d = (.ok (m.codec.encode d), m') := by
    simp only [FileMedium.persist, replace, hreplace, m']
  have hload : m'.load = .ok (some (m.codec.encode d)) :=
    m.faithful (show Medium.persist "" d m = _ from hpersist)
  exact ⟨m', hpersist, hload, _, hload, Codec.decode_encode _ d⟩

/-- Every document is decoded from its text in TOML, and read again from a file in which it was
stored as TOML, whatever was done to the file before. -/
theorem toml_round_trip :
    (∀ d : Document, Codec.toml.decode (Codec.toml.encode d) = .ok d) ∧
    ∀ (m : FileMedium), m.codec = .toml → m.IsWritable → ∀ (deeds : List Deed) (d : Document),
      ∃ m', (performAll deeds m).persist d = (.ok (Codec.toml.encode d), m') ∧
        m'.load = .ok (some (Codec.toml.encode d)) ∧ Medium.Holds m' d := by
  refine ⟨Codec.toml.decode_encode, fun m hcodec hm deeds d => ?_⟩
  have hpersist := (hm.performAll deeds).persist d
  rw [codec_performAll, hcodec] at hpersist
  exact hpersist

/-- A name with quotes, a line end and a control character is stored in a file that was something
else before. -/
theorem toml_round_trip_in_directory :
    let m := ofPath "settings.toml" (Disk.ofHome "/work")
    let d : Document := { email := { feedbackName := "\"'''\"\"\"\r\n\x01" } }
    let before := performAll [.putFile "settings.toml" "[".toUTF8] m
    ∃ m', before.persist d = (.ok (Codec.toml.encode d), m') ∧ Medium.Holds m' d := by
  intro m d before
  have hcodec : m.codec = .toml := by decide +kernel
  have hlocate : m.disk.locate m.path = .ok ["work", "settings.toml"] :=
    Disk.locate_of_pieces (by decide +kernel) (by decide +kernel) (by decide +kernel)
      (show _ = ["", "work", "settings.toml"] by decide +kernel) (by rfl)
  have hm : m.IsWritable := ⟨_, hlocate, by decide +kernel⟩
  obtain ⟨m', hpersist, _, hholds⟩ :=
    toml_round_trip.2 m hcodec hm [.putFile "settings.toml" "[".toUTF8] d
  exact ⟨m', hpersist, hholds⟩

end FileMedium

end SettingsStore
