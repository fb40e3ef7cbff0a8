import SettingsStore.Proofs.Medium.Atomic
import SettingsStore.Proofs.Store.Contents

/-!
# Writing back

A load keeps the document that it found, completed and repaired, and writes it back exactly if the
medium had none or has another one. Whether completing and repairing changed anything is asked step
by step, but no step undoes what another one did, so the answer is whether the document in the end
is the one that was found. What is written is a function of what was found, of the salt that the
store kept and of the new one: the environment only makes the document in use out of it. Bytes of a
document that need not be written stay as they are, in whatever form they stand there.
-/

namespace SettingsStore

namespace Store

variable {σ κ : Type} {s s' : Store σ κ} {fresh : Fresh} {loaded : Loaded}

/-- What is as it was in the end was so after each step. -/
theorem repaired_completed_eq_self_iff (s : Store σ κ) (salt : String) (d : Document) :
    (s.completed salt d).repaired = d ↔
      s.completed salt d = d ∧ (s.completed salt d).repair.2 = false := by
  rw [Document.repair_snd_eq_false_iff_repaired_eq]
  constructor
  · intro h
    have hcompleted : s.completed salt d = d :=
      s.completed_of_isComplete salt (h ▸ s.isComplete_repaired_completed salt d)
    exact ⟨hcompleted, by rw [h, hcompleted]⟩
  · rintro ⟨hcompleted, hrepaired⟩
    rw [hrepaired, hcompleted]

variable [Medium σ]

/-- The document of a medium that has some bytes: the one that they stand for, or the one that the
medium starts with. -/
def found (s : Store σ κ) (salt : String) (bytes : Option Bytes) : Except DecodeError Document :=
  match content bytes with
  | some b => (Medium.codec s.medium).decode b
  | none => .ok ((Medium.initial s.medium).fill salt)

/-- A load keeps the document that it found, completed and repaired. It needs to save this one if
there was none, or another one. -/
theorem decode_content (s : Store σ κ) (salt : String) (bytes : Option Bytes) :
    s.decode salt (content bytes) = (s.found salt bytes).map fun d =>
      ((s.completed salt d).repaired,
        (content bytes).isNone || !decide ((s.completed salt d).repaired = d)) := by
  unfold found
  cases content bytes with
  | none => exact s.decode_none salt
  | some b =>
      have hneeds (d : Document) :
          (!decide (s.completed salt d = d) || (s.completed salt d).repair.2) =
            !decide ((s.completed salt d).repaired = d) := by
        simp only [s.repaired_completed_eq_self_iff, Bool.decide_and, Bool.not_and,
          Bool.decide_eq_false, Bool.not_not]
      simp only [decode_some, hneeds, Option.isNone_some, Bool.false_or]

theorem isSome_of_writeBack {needsSave : Bool} {revision : String} {d : Document}
    {written : Option Bytes} {medium : σ} (hwrite : s.options.readOnly = false)
    (h : (if needsSave then s.writeBack revision d else (.ok none, s.medium)) =
      (.ok written, medium)) :
    written.isSome = needsSave ∧
      if needsSave then ∃ b, Medium.persist revision d s.medium = (.ok b, medium)
      else medium = s.medium := by
  cases needsSave with
  | true =>
      obtain ⟨b, rfl, hpersist⟩ := writeBack_eq_ok hwrite h
      exact ⟨rfl, b, hpersist⟩
  | false =>
      cases h
      exact ⟨rfl, rfl⟩

/-- A load of a store that may write stores what it keeps once, if it needs to, and else leaves the
medium alone. -/
theorem exists_found_of_loadBytes {bytes : Option Bytes} (hwrite : s.options.readOnly = false)
    (h : s.loadBytes fresh bytes = (.ok loaded, s')) :
    ∃ d, s.found fresh.salt bytes = .ok d ∧
      s'.persisted = (s.completed fresh.salt d).repaired ∧
      loaded.saved = ((content bytes).isNone || !decide (s'.persisted = d)) ∧
      loaded.changed = decide (s.active ≠ s'.active) ∧
      if loaded.saved then
        ∃ b, Medium.persist fresh.revision s'.persisted s.medium = (.ok b, s'.medium)
      else s'.medium = s.medium := by
  rcases s.loadBytes_cases fresh bytes with ⟨cause, medium, _, hload⟩ |
    ⟨kept, needsSave, e, written, medium, hd, _, hw, hload⟩
  · rw [hload] at h
    cases h
  rw [hload] at h
  cases h
  rw [decode_content] at hd
  cases hfound : s.found fresh.salt bytes with
  | error cause =>
      rw [hfound] at hd
      cases hd
  | ok d =>
      rw [hfound] at hd
      obtain ⟨rfl, hneeds⟩ := Prod.mk.inj (Except.ok.inj hd)
      obtain ⟨hsaved, hmedium⟩ := isSome_of_writeBack hwrite hw
      refine ⟨d, rfl, rfl, hsaved.trans hneeds.symm, rfl, ?_⟩
      dsimp only
      rw [hsaved]
      exact hmedium

/-- A reload of a store that may write stores a document at most once: it does so exactly if the
medium was empty, or had a document that completing and repairing changes. Then the medium has what
became of it in its own format, and else it is as it was. What changed is the document in use. -/
theorem writeBack_exact [ReliableMedium σ] (hwrite : s.options.readOnly = false)
    (h : s.reload fresh = (.ok loaded, s')) :
    ∃ bytes d, Medium.load s.medium = .ok bytes ∧ s.found fresh.salt bytes = .ok d ∧
      let kept := (s.completed fresh.salt d).repaired
      s'.persisted = kept ∧
      (loaded.saved = true ↔ content bytes = none ∨ kept ≠ d) ∧
      (loaded.saved = true →
        Medium.load s'.medium = .ok (some ((Medium.codec s.medium).encode kept))) ∧
      (loaded.saved = false → s'.medium = s.medium) ∧
      (∀ count : σ → Nat, (∀ id d m, count (Medium.persist id d m).2 ≤ count m + 1) →
        count s'.medium ≤ count s.medium + 1) ∧
      (loaded.changed = true ↔ s.active ≠ s'.active) := by
  obtain ⟨_, bytes, hbytes, hload⟩ := exists_load_of_reload h
  obtain ⟨d, hfound, hkept, hsaved, hchanged, hmedium⟩ := exists_found_of_loadBytes hwrite hload
  rw [hkept] at hsaved hmedium
  refine ⟨bytes, d, hbytes, hfound, hkept, ?_, fun hsave => ?_, fun hsave => ?_,
    fun count hcount => ?_, ?_⟩
  · rw [hsaved]
    simp
  · rw [hsave, if_pos rfl] at hmedium
    obtain ⟨b, hpersist⟩ := hmedium
    rw [ReliableMedium.faithful hbytes hpersist,
      LawfulMedium.bytes_of_persist _ (congrArg Prod.fst hpersist)]
  · rwa [hsave, if_neg Bool.false_ne_true] at hmedium
  · split at hmedium
    · obtain ⟨b, hpersist⟩ := hmedium
      have hone := hcount fresh.revision (s.completed fresh.salt d).repaired s.medium
      rwa [hpersist] at hone
    · rw [hmedium]
      exact Nat.le_succ _
  · rw [hchanged, decide_eq_true_eq]

/-- Somebody else writes a complete document in a form of their own, and it is read and stays as it
is. Then they write an empty object, and what is made of it is stored. -/
theorem writeBack_exact_in_slot :
    let compact := "\x7b\"sql_settings\":\x7b\"data_source\":\"app.db\"\x7d," ++
      "\"file_settings\":\x7b\"public_link_salt\":\"0123456789abcdef0123456789abcdef\"\x7d," ++
      "\"email_settings\":\x7b\"feedback_name\":\"Ops\"\x7d," ++
      "\"localization_settings\":\x7b\"default_server_locale\":\"en\"," ++
      "\"default_client_locale\":\"en\"\x7d\x7d"
    let opened : Store Slot Unit := (openMedium .default "" ⟨"fedcba9876543210fedcba9876543210",
      ""⟩ (Slot.holding .json none)).2
    let s := opened.act (.edit { opened.medium with bytes := some compact.toUTF8 })
    let s' := (s.reload ⟨"", ""⟩).2
    let t := s'.act (.edit { s'.medium with bytes := some "\x7b\x7d".toUTF8 })
    let t' := (t.reload ⟨"", ""⟩).2
    s.options.readOnly = false ∧ s.reload ⟨"", ""⟩ = (.ok ⟨false, true⟩, s') ∧
      s'.medium = s.medium ∧ s.active ≠ s'.active ∧
    t.options.readOnly = false ∧ t.reload ⟨"", ""⟩ = (.ok ⟨true, true⟩, t') ∧
      t'.medium.writes ≤ t.medium.writes + 1 ∧
      Medium.load t'.medium = .ok (some (Codec.json.encode t'.persisted)) ∧
      t'.persisted.files.publicLinkSalt = s'.active.files.publicLinkSalt := by
  intro compact opened s s' t t'
  have hs : s.options.readOnly = false := by decide +kernel
  have ht : t.options.readOnly = false := by decide +kernel
  have hcompact : s.reload ⟨"", ""⟩ = (.ok ⟨false, true⟩, s') :=
    eq_ok_of_toOption (by decide +kernel)
  have hempty : t.reload ⟨"", ""⟩ = (.ok ⟨true, true⟩, t') :=
    eq_ok_of_toOption (by decide +kernel)
  have hcodec : Medium.codec t.medium = .json := by decide +kernel
  obtain ⟨_, _, _, _, _, _, _, hmedium, _, hchanged⟩ := writeBack_exact hs hcompact
  obtain ⟨_, _, _, _, hkept, _, hstored, _, hcount, _⟩ := writeBack_exact ht hempty
  refine ⟨hs, hcompact, hmedium rfl, hchanged.mp rfl, ht, hempty, hcount Slot.writes ?_, ?_,
    by decide +kernel⟩
  · intro id d m
    rw [Slot.persist_eq]
    split
    · exact Nat.le_succ _
    · exact Nat.le_refl _
  · rw [hstored rfl, hcodec, ← hkept]

end Store

end SettingsStore
