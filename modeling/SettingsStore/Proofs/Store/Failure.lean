import SettingsStore.Proofs.Medium.Atomic
import SettingsStore.Proofs.Store.Run

/-!
# Failed actions

On a medium on which nothing is done by half, an action that fails leaves the whole store as it was:
no part of it changes before the last step that can fail. So a run gives the same answers, and ends
in the same state, if an action that failed is left out of it.
-/

namespace SettingsStore

/-- What whoever acts on a store is told. -/
inductive Answer (κ : Type) where
  | document (result : Except StoreError Document)
  | loaded (result : Except StoreError Loaded)
  | synced (result : Except StoreError Bool)
  | written (result : Except StoreError Unit)
  | listening (listener : Listener κ)
  | removed (found : Bool)
  | delivered (call : Option (Call κ))
  | closed (calls : List (Call κ))
  | edited

def Answer.isFailure {κ : Type} : Answer κ → Bool
  | .document result => !result.isOk
  | .loaded result => !result.isOk
  | .synced result => !result.isOk
  | .written result => !result.isOk
  | _ => false

namespace Store

variable {σ κ : Type} {s s' : Store σ κ} {fresh : Fresh}

theorem change_error {f : σ → Except PersistenceError Unit × σ} {cause : StoreError}
    (hf : ∀ {cause medium}, f s.medium = (.error cause, medium) → medium = s.medium)
    (h : s.change f = (.error cause, s')) : s' = s := by
  unfold change at h
  split at h
  · cases h
    rfl
  · split at h
    · cases h
      rfl
    · cases hdone : f s.medium with
      | mk done medium =>
          rw [hdone] at h
          cases done with
          | ok _ => cases h
          | error cause' =>
              cases h
              rw [hf hdone]

/-- An operation whose failure changes nothing, seen from its two results. -/
theorem snd_eq_of_not_isOk {α : Type} {r : Except StoreError α × Store σ κ}
    (hr : ∀ {cause s'}, r = (.error cause, s') → s' = s) (h : (!r.1.isOk) = true) : r.2 = s := by
  obtain ⟨result, after⟩ := r
  cases result with
  | ok _ => cases h
  | error cause => exact hr rfl

variable [Medium σ]

def answer (s : Store σ κ) : Action σ κ → Answer κ
  | .set fresh candidate => .document (s.set fresh candidate).1
  | .reload fresh => .loaded (s.reload fresh).1
  | .sync fresh => .synced (s.sync fresh).1
  | .putFile name bytes => .written (s.putFile name bytes).1
  | .eraseFile name => .written (s.eraseFile name).1
  | .listen callback => .listening (s.listen callback).1
  | .unlisten id => .removed (s.unlisten id).1
  | .deliver => .delivered (s.listeners.next?.map Prod.fst)
  | .close => .closed s.close.1
  | .edit _ => .edited

def answers (s : Store σ κ) : List (Action σ κ) → List (Answer κ)
  | [] => []
  | a :: actions => s.answer a :: (s.act a).answers actions

@[simp] theorem length_answers (actions : List (Action σ κ)) :
    (s.answers actions).length = actions.length := by
  induction actions generalizing s with
  | nil => rfl
  | cons a actions ih => simp [answers, ih]

theorem run_append (s : Store σ κ) (earlier later : List (Action σ κ)) :
    s.run (earlier ++ later) = (s.run earlier).run later :=
  List.foldl_append

theorem answers_append (earlier later : List (Action σ κ)) :
    s.answers (earlier ++ later) = s.answers earlier ++ (s.run earlier).answers later := by
  induction earlier generalizing s with
  | nil => rfl
  | cons a earlier ih =>
      rw [List.cons_append, answers, answers, ih, List.cons_append]
      rfl

/-! ## One action -/

theorem eq_of_attempt {m m' : σ} (hm : Medium.Atomic m) (h : Attempt m m') : m' = m := by
  rcases h with rfl | ⟨id, d, cause, h⟩
  · rfl
  · exact hm.persist h

theorem set_error (hm : Medium.Atomic s.medium) {candidate : Document} {cause : StoreError}
    (h : s.set fresh candidate = (.error cause, s')) : s' = s := by
  rcases s.set_cases fresh candidate with ⟨_, medium, hattempt, hset⟩ |
    ⟨e, b, medium, _, _, _, _, hset⟩
  · rw [hset, eq_of_attempt hm hattempt] at h
    cases h
    rfl
  · rw [hset] at h
    cases h

theorem loadBytes_error (hm : Medium.Atomic s.medium) {bytes : Option Bytes} {cause : StoreError}
    (h : s.loadBytes fresh bytes = (.error cause, s')) : s' = s := by
  rcases s.loadBytes_cases fresh bytes with ⟨_, medium, hattempt, hload⟩ |
    ⟨d, needsSave, e, written, medium, _, _, _, hload⟩
  · rw [hload, eq_of_attempt hm hattempt] at h
    cases h
    rfl
  · rw [hload] at h
    cases h

theorem load_error (hm : Medium.Atomic s.medium) {cause : StoreError}
    (h : s.load fresh = (.error cause, s')) : s' = s := by
  rcases s.load_cases fresh with ⟨_, hload⟩ | ⟨bytes, _, hload⟩
  · rw [hload] at h
    cases h
    rfl
  · rw [hload] at h
    exact loadBytes_error hm h

theorem reload_error (hm : Medium.Atomic s.medium) {cause : StoreError}
    (h : s.reload fresh = (.error cause, s')) : s' = s := by
  rcases s.reload_cases fresh with ⟨_, hreload⟩ | ⟨_, hreload⟩
  · rw [hreload] at h
    cases h
    rfl
  · rw [hreload] at h
    exact load_error hm h

theorem sync_error (hm : Medium.Atomic s.medium) {cause : StoreError}
    (h : s.sync fresh = (.error cause, s')) : s' = s := by
  rcases s.sync_cases fresh with ⟨_, hsync⟩ | ⟨bytes, _, hsync⟩
  · rw [hsync] at h
    cases h
    rfl
  · rw [hsync] at h
    cases hload : s.loadBytes fresh bytes with
    | mk result after =>
        rw [hload] at h
        cases result with
        | ok loaded => cases h
        | error cause' =>
            cases h
            exact loadBytes_error hm hload

theorem act_eq_self_of_isFailure (hm : Medium.Atomic s.medium) {a : Action σ κ}
    (h : (s.answer a).isFailure = true) : s.act a = s := by
  cases a with
  | set fresh candidate => exact snd_eq_of_not_isOk (set_error hm) h
  | reload fresh => exact snd_eq_of_not_isOk (reload_error hm) h
  | sync fresh => exact snd_eq_of_not_isOk (sync_error hm) h
  | putFile name bytes => exact snd_eq_of_not_isOk (change_error hm.putFile) h
  | eraseFile name => exact snd_eq_of_not_isOk (change_error hm.eraseFile) h
  | listen | unlisten | deliver | close | edit => cases h

/-- A failed action can be left out of a run. -/
theorem answers_eraseIdx_of_isFailure {earlier : List (Action σ κ)} {a : Action σ κ}
    (hm : Medium.Atomic (s.run earlier).medium)
    (h : ((s.run earlier).answer a).isFailure = true) (later : List (Action σ κ)) :
    (s.answers (earlier ++ a :: later)).eraseIdx earlier.length =
      s.answers (earlier ++ later) := by
  -- The answer to the failed action comes right after the earlier ones.
  have hlength : (s.answers earlier).length = earlier.length := length_answers earlier
  rw [answers_append, answers_append, ← hlength, List.eraseIdx_append_of_length_le le_rfl,
    Nat.sub_self, answers, List.eraseIdx_cons_zero, act_eq_self_of_isFailure hm h]

theorem run_of_isFailure {earlier : List (Action σ κ)} {a : Action σ κ}
    (hm : Medium.Atomic (s.run earlier).medium)
    (h : ((s.run earlier).answer a).isFailure = true) (later : List (Action σ κ)) :
    s.run (earlier ++ a :: later) = s.run (earlier ++ later) := by
  rw [run_append, run_append, run, List.foldl_cons, act_eq_self_of_isFailure hm h]
  rfl

end Store

end SettingsStore
