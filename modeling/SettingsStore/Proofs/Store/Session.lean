import SettingsStore.Proofs.Store.Environments

/-!
# Stores that come and go on a medium

A medium outlives the stores that are opened on it. A session is the medium with the store that is
open there, if one is: opening another one, whether or not it succeeds, gives up the one before. Two
sessions whose environments have the same variables see the same bytes on the medium after every
command, as long as the same commands succeed in both.
-/

namespace SettingsStore

inductive Session (σ κ : Type) where
  /-- No store is open, and only others change the medium. -/
  | idle (medium : σ)
  | running (s : Store σ κ)

namespace Session

inductive Command (σ κ : Type) where
  | start (salt : String) (fresh : Fresh)
  | act (a : Action σ κ)

variable {σ κ : Type}

def medium : Session σ κ → σ
  | .idle medium => medium
  | .running s => s.medium

/-- Sessions with the same medium, in which alike stores are open. -/
inductive Alike : Session σ κ → Session σ κ → Prop
  | idle (medium : σ) : Alike (.idle medium) (.idle medium)
  | running {s₁ s₂ : Store σ κ} (h : s₁.Alike s₂) (h₁ : s₁.Coherent) (h₂ : s₂.Coherent) :
      Alike (.running s₁) (.running s₂)

variable {o₁ o₂ : Options} {x₁ x₂ : Session σ κ}

theorem Alike.medium_eq (h : Alike x₁ x₂) : x₁.medium = x₂.medium := by
  cases h with
  | idle medium => rfl
  | running h _ _ => exact h.medium

variable [Medium σ]

def start (options : Options) (salt : String) (fresh : Fresh) (x : Session σ κ) :
    Bool × Session σ κ :=
  match Store.openMedium options salt fresh x.medium with
  | (.ok _, s) => (true, .running s)
  | (.error _, s) => (false, .idle s.medium)

/-- Makes a store act, and says whether it could. -/
def act (a : Action σ κ) : Session σ κ → Bool × Session σ κ
  | .running s => (!(s.answer a).isFailure, .running (s.act a))
  | .idle medium => match a with
    | .edit medium' =>
      (true, .idle (if Medium.codec medium' = Medium.codec medium then medium' else medium))
    | _ => (false, .idle medium)

def step (options : Options) (x : Session σ κ) : Command σ κ → Bool × Session σ κ
  | .start salt fresh => x.start options salt fresh
  | .act a => x.act a

theorem start_of_openMedium {o : Options} {salt : String} {fresh : Fresh} {m : σ}
    {loaded : Loaded} {s : Store σ κ} (h : Store.openMedium o salt fresh m = (.ok loaded, s)) :
    (idle m : Session σ κ).start o salt fresh = (true, .running s) := by
  simp only [start, medium, h]

/-- Whether each command succeeded, and the medium after it. -/
def trace (options : Options) (x : Session σ κ) : List (Command σ κ) → List (Bool × σ)
  | [] => []
  | c :: commands =>
    ((x.step options c).1, (x.step options c).2.medium) ::
      (x.step options c).2.trace options commands

/-! ## Two sessions -/

variable [ReliableMedium σ]

theorem Alike.start (h : Alike x₁ x₂) (ho : o₁.Twins o₂) {salt : String} {fresh : Fresh}
    (hsame : (x₁.start o₁ salt fresh).1 = (x₂.start o₂ salt fresh).1) :
    Alike (x₁.start o₁ salt fresh).2 (x₂.start o₂ salt fresh).2 := by
  unfold Session.start at hsame ⊢
  rw [h.medium_eq] at hsame ⊢
  have halike (hok : (Store.openMedium o₁ salt fresh x₂.medium : _ × Store σ κ).1.isOk =
      (Store.openMedium o₂ salt fresh x₂.medium : _ × Store σ κ).1.isOk) :=
    Store.alike_openMedium ho (ReliableMedium.atomic x₂.medium) hok
  cases hopen₁ : (Store.openMedium o₁ salt fresh x₂.medium : _ × Store σ κ) with
  | mk loaded₁ s₁ =>
      cases hopen₂ : (Store.openMedium o₂ salt fresh x₂.medium : _ × Store σ κ) with
      | mk loaded₂ s₂ =>
          rw [hopen₁, hopen₂] at hsame halike
          cases loaded₁ with
          | error cause₁ =>
              cases loaded₂ with
              | error cause₂ =>
                  have hmedium : s₁.medium = s₂.medium := (halike rfl).medium
                  dsimp only
                  rw [hmedium]
                  exact .idle s₂.medium
              | ok loaded₂ => cases hsame
          | ok loaded₁ =>
              cases loaded₂ with
              | error cause₂ => cases hsame
              | ok loaded₂ =>
                  exact .running (halike rfl) (Store.coherent_of_openMedium hopen₁)
                    (Store.coherent_of_openMedium hopen₂)

theorem Alike.act (h : Alike x₁ x₂) {a : Action σ κ} (hsame : (x₁.act a).1 = (x₂.act a).1) :
    Alike (x₁.act a).2 (x₂.act a).2 := by
  cases h with
  | idle medium => cases a <;> exact .idle _
  | @running s₁ s₂ h h₁ h₂ =>
      exact .running (h.act (ReliableMedium.atomic s₁.medium) h₁ h₂ (Bool.not_inj hsame))
        (h₁.act a) (h₂.act a)

theorem Alike.step (h : Alike x₁ x₂) (ho : o₁.Twins o₂) {c : Command σ κ}
    (hsame : (x₁.step o₁ c).1 = (x₂.step o₂ c).1) :
    Alike (x₁.step o₁ c).2 (x₂.step o₂ c).2 := by
  cases c with
  | start salt fresh => exact h.start ho hsame
  | act a => exact h.act hsame

theorem Alike.trace_eq (h : Alike x₁ x₂) (ho : o₁.Twins o₂) {commands : List (Command σ κ)}
    (hsame : (x₁.trace o₁ commands).map Prod.fst = (x₂.trace o₂ commands).map Prod.fst) :
    x₁.trace o₁ commands = x₂.trace o₂ commands := by
  induction commands generalizing x₁ x₂ with
  | nil => rfl
  | cons c commands ih =>
      obtain ⟨hfirst, hrest⟩ := List.cons.inj hsame
      have hnext := h.step ho hfirst
      rw [trace, trace, ih hnext hrest, hnext.medium_eq]
      exact congrArg (fun done => (done, _) :: _) hfirst

/-! ## An environment with one variable -/

/-- Options under which nothing is validated and a flag has its value from the environment. -/
def flagged (flag : Bool) : Options := { Options.default with
  skipValidation := true
  environment := [("CS_SERVICE_SETTINGS_ENABLE_DEVELOPER", toString flag)] }

theorem fits_flagged (flag : Bool) : (flagged flag).Fits :=
  fun _ l => Environment.violation?_flag flag l

theorem outcomes_flagged {κ : Type} (flag : Bool) (fresh : Fresh) (candidate : Document) :
    ((idle .empty : Session Memory κ).trace (flagged flag)
      [.start "" fresh, .act (.set fresh candidate)]).map Prod.fst = [true, true] := by
  obtain ⟨loaded, hopen⟩ := Store.exists_eq_ok
    (Store.isOk_openMedium_empty (κ := κ) (fits_flagged flag) rfl "" fresh)
  generalize (Store.openMedium (flagged flag) "" fresh Memory.empty : _ × Store Memory κ).2 = s
    at hopen
  have hoptions : s.options = flagged flag := Store.options_of_openMedium hopen
  have hset : (s.set fresh candidate).1.isOk = true :=
    Store.isOk_set (Store.closed_of_openMedium hopen) (hoptions ▸ rfl)
      (hoptions ▸ fits_flagged flag) (hoptions ▸ rfl) fresh candidate
  rw [trace, step, start_of_openMedium hopen]
  simp only [trace, step, act, Store.answer, Answer.isFailure, hset, Bool.not_true, Bool.not_false,
    List.map]

/-- The values of an environment do not reach the medium: environments with the same variables lead
to the same bytes where the same commands succeed, and no number of sets changes what is stored of
an overridden leaf. -/
theorem environment_confined :
    (∀ (o₁ o₂ : Options) (medium : σ) (commands : List (Command σ κ)), o₁.Twins o₂ →
      ((idle medium).trace o₁ commands).map Prod.fst =
        ((idle medium).trace o₂ commands).map Prod.fst →
      (idle medium).trace o₁ commands = (idle medium).trace o₂ commands) ∧
    ∀ (s : Store σ κ) (changes : List (Fresh × Document)) (before : Document), s.Reachable →
      (s.options.readOnly = false → s.Untouched) → Medium.Holds s.medium before →
      ∃ after, Medium.Holds (s.run (Store.sets changes)).medium after ∧
        ∀ l ∈ s.overridden, after.get l = before.get l :=
  ⟨fun _ _ medium _ ho hsame => (Alike.idle medium).trace_eq ho hsame,
    fun _ changes _ hs huntouched hbefore => hs.exists_holds_run_sets huntouched hbefore changes⟩

/-- A flag that is overridden in two ways, with a set that would change it. -/
theorem confined_in_memory :
    let fresh : Fresh := ⟨"fedcba9876543210fedcba9876543210", "first"⟩
    let candidate : Document := { service := { enableDeveloper := true } }
    let trace (flag : Bool) : List (Bool × Memory) :=
      (idle .empty : Session Memory Unit).trace (flagged flag)
        [.start "" fresh, .act (.set fresh candidate)]
    let s : Store Memory Unit := (Store.openMedium (flagged false) "" fresh .empty).2
    ((trace true).map Prod.fst = [true, true] ∧ trace true = trace false) ∧
    .enableDeveloper ∈ s.overridden ∧
    ∃ before after, Medium.Holds s.medium before ∧
      Medium.Holds (s.run (Store.sets [(fresh, candidate)])).medium after ∧
      after.get .enableDeveloper = before.get .enableDeveloper := by
  intro fresh candidate trace s
  obtain ⟨htrace, hsets⟩ := environment_confined (σ := Memory) (κ := Unit)
  have hdone (flag : Bool) : (trace flag).map Prod.fst = [true, true] :=
    outcomes_flagged flag fresh candidate
  have htwins : (flagged true).Twins (flagged false) :=
    Options.twins_of_names { Options.default with skipValidation := true } rfl
  obtain ⟨loaded, hopen⟩ : ∃ loaded, (Store.openMedium (flagged false) "" fresh Memory.empty :
      _ × Store Memory Unit) = (.ok loaded, s) :=
    Store.exists_eq_ok (Store.isOk_openMedium_empty (fits_flagged false) rfl "" fresh)
  have hs : s.Reachable := .opened hopen
  have hoptions : s.options = flagged false := Store.options_of_openMedium hopen
  have huntouched : s.Untouched := Store.Untouched.of_openMedium rfl hopen
  have hover : .enableDeveloper ∈ s.overridden := by
    rw [hs.coherent.overridden_eq, hoptions, Options.mem_overridden_iff_find?]
    decide +kernel
  have hbefore := hs.holds (hoptions ▸ rfl) huntouched
  obtain ⟨after, hafter, hkept⟩ := hsets s [(fresh, candidate)] _ hs (fun _ => huntouched) hbefore
  exact ⟨⟨hdone true, htrace _ _ _ _ htwins ((hdone true).trans (hdone false).symm)⟩,
    hover, _, after, hbefore, hafter, hkept _ hover⟩

end Session

end SettingsStore
