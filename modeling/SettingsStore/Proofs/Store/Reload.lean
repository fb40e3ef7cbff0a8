import SettingsStore.Proofs.Medium.Atomic
import SettingsStore.Proofs.Store.Durability

/-!
# Reloading

A reload leaves a normal document on the medium, whatever was there: the one that it wrote, or the
one that it found in no need of repair. The same document is decoded from it the next time, with the
salt that was made for it, so a second reload finds nothing to write and nothing to change.
-/

namespace SettingsStore

namespace Store

variable {σ κ : Type} [Medium σ] {s s' : Store σ κ} {fresh : Fresh} {loaded : Loaded}

/-- After a reload the medium has the normal document that the store keeps. Loading it again finds
nothing to save, and leaves the whole store and its medium as they are. -/
theorem Reachable.reload_reload [ReliableMedium σ] (hs : s.Reachable)
    (hwrite : s.options.readOnly = false) (h : s.reload fresh = (.ok loaded, s')) :
    (∃ b, Medium.load s'.medium = .ok (some b) ∧
      ∀ salt, s'.decode salt (content (some b)) = .ok (s'.persisted, false)) ∧
    ∀ fresh', s'.reload fresh' = (.ok ⟨false, false⟩, s') := by
  obtain ⟨hopen, bytes, hbytes, hload⟩ := exists_load_of_reload h
  have hcoherent := (hs.reload h).coherent
  have hnormal := isNormal_of_reload h
  have hremembers := remembers_of_loadBytes hwrite hload
  have huntouched := untouched_of_loadBytes (ReliableMedium.faithful hbytes) hwrite hbytes hload
  have hopen' : s'.closed = false := by
    have hclosed := s.closed_loadBytes fresh bytes
    rw [hload] at hclosed
    exact hclosed.trans hopen
  refine ⟨?_, reload_eq_self hcoherent hremembers huntouched hopen' hnormal⟩
  obtain ⟨b, hsynced, hb, hdecode⟩ := hremembers
  refine ⟨b, hsynced ▸ huntouched, fun salt => ?_⟩
  rw [content_eq_some.mpr ⟨rfl, hb⟩, s'.decode_of_isComplete salt hdecode hcoherent.complete,
    hnormal.repaired_eq, hnormal.repair_eq]

/-- Somebody else removes the document, and the store makes another one with another salt. -/
theorem reload_reload_in_memory :
    let s := (inMemory []).2.act (.edit .empty)
    let fresh : Fresh := ⟨"00112233445566778899aabbccddeeff", "second"⟩
    let s' := (s.reload fresh).2
    s.Reachable ∧ s.options.readOnly = false ∧ (∃ loaded, s.reload fresh = (.ok loaded, s')) ∧
      s'.active.files.publicLinkSalt = some fresh.salt ∧ s.active ≠ s'.active ∧
      s'.reload ⟨"ffeeddccbbaa99887766554433221100", "third"⟩ = (.ok ⟨false, false⟩, s') := by
  intro s fresh s'
  have hs : s.Reachable := (reachable_inMemory (by decide +kernel)).acted (.edit .empty)
  have hwrite : s.options.readOnly = false := by decide +kernel
  obtain ⟨loaded, hload⟩ : ∃ loaded, s.reload fresh = (.ok loaded, s') :=
    exists_eq_ok (by decide +kernel)
  exact ⟨hs, hwrite, ⟨loaded, hload⟩, by decide +kernel, by decide +kernel,
    (hs.reload_reload hwrite hload).2 _⟩

end Store

end SettingsStore
