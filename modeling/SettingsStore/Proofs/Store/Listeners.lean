import Mathlib.Data.List.Nodup
import SettingsStore.Store.Listeners

/-!
# Listeners in order

Ids are given out once, so at any time at most one listener has an id, and nobody who registers
later is meant by a call that is due. Once the queue is closed, no call becomes due.
-/

namespace SettingsStore

namespace Listeners

variable {κ : Type} {ls : Listeners κ}

structure Orderly (ls : Listeners κ) : Prop where
  nodup : (ls.registered.map Listener.id).Nodup
  registered_lt : ∀ l ∈ ls.registered, l.id < ls.next
  queue_lt : ∀ c ∈ ls.queue, c.listener.id < ls.next

theorem orderly_empty : (empty : Listeners κ).Orderly :=
  ⟨.nil, fun _ h => absurd h List.not_mem_nil, fun _ h => absurd h List.not_mem_nil⟩

theorem queue_publish (ls : Listeners κ) (old new : Document) : (ls.publish old new).queue =
    ls.queue ++ if ls.closed then [] else ls.registered.map (⟨·, old, new⟩) := by
  unfold publish
  split
  · exact (List.append_nil _).symm
  · rfl

theorem registered_publish (ls : Listeners κ) (old new : Document) :
    (ls.publish old new).registered = ls.registered := by
  unfold publish
  split
  · rfl
  · rfl

theorem next_publish (ls : Listeners κ) (old new : Document) :
    (ls.publish old new).next = ls.next := by
  unfold publish
  split
  · rfl
  · rfl

theorem closed_publish (ls : Listeners κ) (old new : Document) :
    (ls.publish old new).closed = ls.closed := by
  unfold publish
  split
  · rfl
  · rfl

theorem Orderly.filter_registered (h : ls.Orderly) {l : Listener κ} (hl : l ∈ ls.registered) :
    ls.registered.filter (·.id = l.id) = [l] := by
  obtain ⟨before, after, hsplit⟩ := List.append_of_mem hl
  have hnodup := h.nodup
  rw [hsplit, List.map_append, List.map_cons, List.nodup_middle, List.nodup_cons,
    ← List.map_append] at hnodup
  have hother (m : Listener κ) (hm : m ∈ before ++ after) : ¬decide (m.id = l.id) = true :=
    fun hid => hnodup.1 (List.mem_map.mpr ⟨m, hm, of_decide_eq_true hid⟩)
  have hbefore := List.filter_eq_nil_iff.mpr fun m hm => hother m (List.mem_append_left after hm)
  have hafter := List.filter_eq_nil_iff.mpr fun m hm => hother m (List.mem_append_right before hm)
  rw [hsplit, List.filter_append, hbefore, List.filter_cons, hafter, if_pos (decide_eq_true rfl)]
  rfl

theorem Orderly.register (h : ls.Orderly) (callback : κ) : (ls.register callback).2.Orderly where
  nodup := by
    change ((ls.registered ++ [Listener.mk ls.next callback]).map Listener.id).Nodup
    rw [List.map_append]
    refine h.nodup.append (List.nodup_singleton _) (List.disjoint_singleton.mpr fun hmem => ?_)
    obtain ⟨l, hl, hid⟩ := List.mem_map.mp hmem
    exact Nat.ne_of_lt (h.registered_lt l hl) hid
  registered_lt l hl := by
    rcases List.mem_append.mp hl with hl | hl
    · exact Nat.lt_succ_of_lt (h.registered_lt l hl)
    · rw [List.mem_singleton.mp hl]
      exact Nat.lt_succ_self ls.next
  queue_lt c hc := Nat.lt_succ_of_lt (h.queue_lt c hc)

theorem Orderly.unregister (h : ls.Orderly) (id : Nat) : (ls.unregister id).2.Orderly where
  nodup := h.nodup.sublist (List.filter_sublist.map Listener.id)
  registered_lt l hl := h.registered_lt l (List.mem_of_mem_filter hl)
  queue_lt := h.queue_lt

theorem Orderly.publish (h : ls.Orderly) (old new : Document) : (ls.publish old new).Orderly where
  nodup := by
    rw [registered_publish]
    exact h.nodup
  registered_lt := by
    rw [registered_publish, next_publish]
    exact h.registered_lt
  queue_lt c hc := by
    rw [queue_publish] at hc
    rw [next_publish]
    rcases List.mem_append.mp hc with hc | hc
    · exact h.queue_lt c hc
    · split at hc
      · cases hc
      · obtain ⟨l, hl, rfl⟩ := List.mem_map.mp hc
        exact h.registered_lt l hl

theorem exists_of_next? {c : Call κ} {ls' : Listeners κ} (h : ls.next? = some (c, ls')) :
    ∃ cs, ls.queue = c :: cs ∧ ls' = { ls with queue := cs } := by
  unfold next? at h
  split at h
  · cases h
  · next cs hqueue =>
      cases h
      exact ⟨cs, hqueue, rfl⟩

theorem Orderly.next? (h : ls.Orderly) {c : Call κ} {ls' : Listeners κ}
    (hnext : ls.next? = some (c, ls')) : ls'.Orderly := by
  obtain ⟨cs, hqueue, rfl⟩ := exists_of_next? hnext
  exact ⟨h.nodup, h.registered_lt, fun c hc => h.queue_lt c (hqueue ▸ List.mem_cons_of_mem _ hc)⟩

theorem Orderly.close (h : ls.Orderly) : ls.close.Orderly := ⟨h.nodup, h.registered_lt, h.queue_lt⟩

end Listeners

end SettingsStore
