import SettingsStore.Proofs.Store.Run

/-!
# Documents that a store shows

Users see the document in use, the one that a set returns, and the two of each change that a
listener is told of. All of them are complete, normal and, unless the store skips validation, valid,
whatever was set, whatever others left on the medium, and whichever operations failed.
-/

namespace SettingsStore

/-- What holds of every document that a store shows. -/
structure Published (o : Options) (d : Document) : Prop where
  complete : d.IsComplete
  normal : d.IsNormal
  repair_eq : d.repair = (d, false)
  valid : o.skipValidation = false → d.violations = []

namespace Published

variable {o : Options} {d : Document} {e : Effective}

theorem of_effective (h : o.effective d = .ok e) (hd : d.IsComplete) :
    Published o e.document := by
  obtain ⟨_, rfl, hvalid⟩ := Options.effective_eq_ok_iff.mp h
  have hnormal := Document.isNormal_repaired (o.overlay d)
  exact ⟨(Options.isComplete_overlay hd o).repaired, hnormal, hnormal.repair_eq, hvalid⟩

end Published

namespace Store

variable {σ κ : Type}

def documentsOf (c : Call κ) : List Document := [c.old, c.new]

/-- The document in use is published, and so are those that listeners are still to be told of. -/
structure ShowsPublished (s : Store σ κ) : Prop where
  coherent : s.Coherent
  queue : ∀ c ∈ s.listeners.queue, ∀ d ∈ documentsOf c, Published s.options d

theorem ShowsPublished.active {s : Store σ κ} (h : s.ShowsPublished) :
    Published s.options s.active :=
  .of_effective h.coherent.effective h.coherent.complete

theorem ShowsPublished.keeps {s s' : Store σ κ} (h : s.ShowsPublished) (hk : Keeps s s') :
    s'.ShowsPublished := by
  refine ⟨h.coherent.keeps hk, fun c hc d hd => ?_⟩
  rw [hk.options]
  exact h.queue c (hk.queue c hc) d hd

theorem ShowsPublished.adopts {s s' : Store σ κ} {kept : Document} (h : s.ShowsPublished)
    (ha : Adopts s s' kept) : s'.ShowsPublished := by
  refine ⟨h.coherent.adopts ha, fun c hc d hd => ?_⟩
  rw [ha.options]
  rcases ha.queue c hc with hc | ⟨_, hold, hnew⟩
  · exact h.queue c hc d hd
  · have hcomplete := ha.complete h.coherent.complete
    simp only [documentsOf, hold, hnew, List.mem_cons, List.not_mem_nil, or_false] at hd
    rcases hd with rfl | rfl
    · exact h.active
    · exact .of_effective ha.effective hcomplete

variable [Medium σ]

theorem ShowsPublished.act {s : Store σ κ} (h : s.ShowsPublished) (a : Action σ κ) :
    (s.act a).ShowsPublished := by
  rcases s.act_step a with hk | ⟨d, ha⟩
  · exact h.keeps hk
  · exact h.adopts ha

/-- The documents that an action hands out. -/
def shows (s : Store σ κ) : Action σ κ → List Document
  | .set fresh candidate => (s.set fresh candidate).1.toOption.toList
  | .deliver => (s.listeners.next?.map fun c => documentsOf c.1).getD []
  | .close => s.close.1.flatMap documentsOf
  | _ => []

/-- The documents that a run shows: the one in use in each state, and those that actions hand
out. -/
def shown (s : Store σ κ) : List (Action σ κ) → List Document
  | [] => [s.active]
  | a :: actions => s.active :: s.shows a ++ (s.act a).shown actions

theorem ShowsPublished.of_mem_shows {s : Store σ κ} (h : s.ShowsPublished) {a : Action σ κ}
    {d : Document} (hd : d ∈ s.shows a) : Published s.options d := by
  cases a with
  | set fresh candidate =>
      have hact := h.act (.set fresh candidate)
      have hoptions := s.options_act (.set fresh candidate)
      rw [Store.act] at hact
      rw [Store.act] at hoptions
      rw [Store.shows] at hd
      rcases s.set_cases fresh candidate with ⟨cause, medium, _, hs⟩ |
        ⟨e, bytes, medium, _, _, _, _, hs⟩
      · rw [hs] at hd
        cases hd
      · rw [hs] at hd hact
        simp only [Except.toOption, Option.toList_some, List.mem_singleton] at hd
        exact hd ▸ hact.active
  | deliver =>
      rw [Store.shows, Listeners.next?] at hd
      cases hq : s.listeners.queue with
      | nil => simp [hq] at hd
      | cons c cs =>
          rw [hq] at hd
          exact h.queue c (hq ▸ List.mem_cons_self) d hd
  | close =>
      rw [Store.shows, Store.close] at hd
      split at hd
      · cases hd
      · obtain ⟨c, hc, hd⟩ := List.mem_flatMap.mp hd
        exact h.queue c hc d hd
  | reload | sync | putFile | eraseFile | listen | unlisten | edit => cases hd

theorem ShowsPublished.of_mem_shown {s : Store σ κ} (h : s.ShowsPublished)
    {actions : List (Action σ κ)} {d : Document} (hd : d ∈ s.shown actions) :
    Published s.options d := by
  induction actions generalizing s with
  | nil =>
      rw [shown, List.mem_singleton] at hd
      exact hd ▸ h.active
  | cons a actions ih =>
      rw [shown, List.cons_append, List.mem_cons, List.mem_append] at hd
      rcases hd with rfl | hd | hd
      · exact h.active
      · exact h.of_mem_shows hd
      · exact s.options_act a ▸ ih (h.act a) hd

/-- Every document that a store ever shows is complete, normal and valid. -/
theorem published_of_mem_shown {options : Options} {salt : String} {fresh : Fresh} {medium : σ}
    {loaded : Loaded} {s : Store σ κ}
    (h : openMedium options salt fresh medium = (.ok loaded, s)) (actions : List (Action σ κ))
    {d : Document} (hd : d ∈ s.shown actions) : Published options d := by
  have hs : s.ShowsPublished := by
    refine ⟨coherent_of_openMedium h, fun c hc => ?_⟩
    rw [queue_of_openMedium h] at hc
    cases hc
  exact options_of_openMedium h ▸ hs.of_mem_shown hd

theorem published_of_set_directory :
    ∃ d : Document, d.files.directory = "uploads/" ∧
      d ∈ (inMemory []).2.shown [.set ⟨"", ""⟩ { files := { directory := "uploads" } }] ∧
      Published .default d := by
  have hopen : inMemory [] = (.ok ⟨true, true⟩, (inMemory []).2) := by rfl
  have hd : ((inMemory []).2.act
      (.set ⟨"", ""⟩ { files := { directory := "uploads" } })).active ∈
        (inMemory []).2.shown [.set ⟨"", ""⟩ { files := { directory := "uploads" } }] := by
    simp [shown]
  exact ⟨_, by decide +kernel, hd, published_of_mem_shown hopen _ hd⟩

end Store

end SettingsStore
