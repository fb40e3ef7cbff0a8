import SettingsStore.Proofs.Document.Value
import SettingsStore.Proofs.Medium.Retentive

/-!
# Revisions of databases

A database only ever gets more revisions. What is stored becomes the last revision and the only
active one, unless the active one has its text already, and what cannot be stored is not begun. So
after any attempts, of which some may have failed, at most one revision is active, and all that were
there before are there with their ids and values.
-/

namespace SettingsStore

namespace Database

variable {id value : String} {revisions : List Revision}

/-- The ids and values of revisions, whichever of them is active. -/
def history (revisions : List Revision) : List (String × String) :=
  revisions.map fun r => (r.id, r.value)

def AtMostOneActive (revisions : List Revision) : Prop := revisions.countP (·.active) ≤ 1

theorem history_advance (id value : String) (revisions : List Revision) :
    history (advance id value revisions) = history revisions ++ [(id, value)] := by
  simp [history, advance]

theorem atMostOneActive_advance (id value : String) (revisions : List Revision) :
    AtMostOneActive (advance id value revisions) := by
  have hnone : (revisions.map fun r => { r with active := false }).countP (·.active) = 0 := by
    rw [List.countP_eq_zero]
    intro r hr
    obtain ⟨_, _, rfl⟩ := List.mem_map.mp hr
    exact Bool.false_ne_true
  rw [AtMostOneActive, advance, List.countP_append, hnone]
  exact Nat.le_refl 1

/-- What can be done with a table: nothing, or something with its revisions. -/
theorem rows_cases (db : Database) :
    (db.locked = true ∨ db.revisions = none) ∧ db.rows = .error .database ∨
    ∃ revisions, db.locked = false ∧ db.revisions = some revisions ∧ db.rows = .ok revisions := by
  unfold rows access
  cases db.locked with
  | true => exact Or.inl ⟨Or.inl rfl, rfl⟩
  | false =>
      cases db.revisions with
      | none => exact Or.inl ⟨Or.inr rfl, rfl⟩
      | some revisions => exact Or.inr ⟨revisions, rfl, rfl, rfl⟩

end Database

namespace DatabaseMedium

open Database

/-- The revisions, of which there are none in a table that is missing. -/
def revisions (m : DatabaseMedium) : List Revision := m.database.revisions.getD []

/-- Whether the table of revisions can be used. -/
def IsAvailable (m : DatabaseMedium) : Prop :=
  m.database.locked = false ∧ m.database.revisions ≠ none

/-- All that storing a document under an id can do. -/
inductive Persists (id : String) (d : Document) (m : DatabaseMedium) :
    Except PersistenceError Bytes × DatabaseMedium → Prop
  | tooLong (hlong : m.limit < d.toJsonText.utf8ByteSize) :
      Persists id d m (.error (.tooLarge m.limit d.toJsonText.utf8ByteSize), m)
  | unavailable (hfits : d.toJsonText.utf8ByteSize ≤ m.limit) (hdown : ¬m.IsAvailable) :
      Persists id d m (.error .database, m)
  | same (hfits : d.toJsonText.utf8ByteSize ≤ m.limit) (hup : m.IsAvailable)
      (hsame : m.stored = some (Codec.json.encode d)) :
      Persists id d m (.ok (Codec.json.encode d), m)
  | taken (hfits : d.toJsonText.utf8ByteSize ≤ m.limit) (hup : m.IsAvailable)
      (hother : m.stored ≠ some (Codec.json.encode d)) (hid : id ∈ m.revisions.map (·.id)) :
      Persists id d m (.error .database, m)
  | appended (hfits : d.toJsonText.utf8ByteSize ≤ m.limit) (hup : m.IsAvailable)
      (hother : m.stored ≠ some (Codec.json.encode d)) (hid : id ∉ m.revisions.map (·.id)) :
      Persists id d m (.ok (Codec.json.encode d),
        { m with database.revisions := some (advance id d.toJsonText m.revisions) })

/-- The active revision has a text exactly if its bytes are stored. -/
theorem any_activeOf_iff {m : DatabaseMedium} {rs : List Revision} {text : String}
    (h : m.database.revisions = some rs) :
    (activeOf rs).any (·.value = text) = true ↔ m.stored = some text.toUTF8 := by
  rw [stored, h, Option.bind_some, Option.any_eq_true]
  cases activeOf rs with
  | none => simp
  | some r => simp [String.toByteArray_inj]

theorem persists (id : String) (d : Document) (m : DatabaseMedium) :
    m.Persists id d (m.persist id d) := by
  unfold persist checkLength
  dsimp only
  by_cases hlong : m.limit < d.toJsonText.utf8ByteSize
  · rw [if_pos hlong]
    exact .tooLong hlong
  · rw [if_neg hlong]
    have hfits := Nat.le_of_not_lt hlong
    unfold commit
    rcases m.database.rows_cases with ⟨hdown, hrows⟩ | ⟨rs, hlocked, hrevisions, hrows⟩
    · rw [hrows]
      refine .unavailable hfits fun hup => ?_
      rcases hdown with hlocked | hnone
      · exact Bool.false_ne_true (hup.1.symm.trans hlocked)
      · exact hup.2 hnone
    · have hup : m.IsAvailable := ⟨hlocked, by rw [hrevisions]; exact Option.some_ne_none rs⟩
      have hrs : m.revisions = rs := by rw [revisions, hrevisions]; rfl
      simp only [hrows, bind, Except.bind, pure, Except.pure]
      by_cases hsame : (activeOf rs).any (·.value = d.toJsonText) = true
      · rw [if_pos hsame]
        exact .same hfits hup ((any_activeOf_iff hrevisions).mp hsame)
      · rw [if_neg hsame]
        have hother := mt (any_activeOf_iff hrevisions).mpr hsame
        by_cases hid : rs.any (·.id = id) = true
        · rw [if_pos hid]
          exact .taken hfits hup hother (by simpa [hrs] using hid)
        · rw [if_neg hid]
          rw [← hrs] at hid ⊢
          exact .appended hfits hup hother (by simpa using hid)

section

variable {id : String} {d : Document} {m m' : DatabaseMedium}
  {result : Except PersistenceError Bytes}

theorem Persists.limit_eq (h : m.Persists id d (result, m')) : m'.limit = m.limit := by
  cases h <;> rfl

theorem Persists.atMostOneActive (h : m.Persists id d (result, m'))
    (hm : AtMostOneActive m.revisions) : AtMostOneActive m'.revisions := by
  cases h with
  | tooLong | unavailable | same | taken => exact hm
  | appended => exact atMostOneActive_advance id d.toJsonText m.revisions

/-- No revision gets another id or value, and none is lost. -/
theorem Persists.history_grows (h : m.Persists id d (result, m')) :
    history m.revisions <+: history m'.revisions := by
  cases h with
  | tooLong | unavailable | same | taken => exact List.prefix_refl _
  | appended =>
      change _ <+: history (advance id d.toJsonText m.revisions)
      rw [history_advance]
      exact List.prefix_append _ _

theorem Persists.of_error {cause : PersistenceError} (h : m.Persists id d (.error cause, m')) :
    m' = m := by
  cases h <;> rfl

theorem Persists.of_tooLong (h : m.Persists id d (result, m'))
    (hlong : m.limit < d.toJsonText.utf8ByteSize) :
    result = .error (.tooLarge m.limit d.toJsonText.utf8ByteSize) := by
  cases h with
  | tooLong => rfl
  | unavailable hfits | same hfits | taken hfits | appended hfits =>
      exact absurd hlong (Nat.not_lt.mpr hfits)

/-- Only what is not stored already is appended. -/
theorem Persists.of_ok {bytes : Bytes} (h : m.Persists id d (.ok bytes, m')) :
    bytes = Codec.json.encode d ∧ (m.stored = some bytes → m'.revisions = m.revisions) ∧
      (m.stored ≠ some bytes →
        history m'.revisions = history m.revisions ++ [(id, d.toJsonText)] ∧
          (activeOf m'.revisions).map (·.id) = some id) := by
  cases h with
  | same _ _ hsame => exact ⟨rfl, fun _ => rfl, (absurd hsame ·)⟩
  | appended _ _ hother _ =>
      refine ⟨rfl, (absurd · hother), fun _ => ⟨history_advance _ _ _, ?_⟩⟩
      change (activeOf (advance id d.toJsonText m.revisions)).map _ = _
      rw [activeOf_advance]
      rfl

theorem Persists.eq_ok_iff (h : m.Persists id d (result, m')) :
    result = .ok (Codec.json.encode d) ↔ d.toJsonText.utf8ByteSize ≤ m.limit ∧ m.IsAvailable ∧
      (m.stored = some (Codec.json.encode d) ∨ id ∉ m.revisions.map (·.id)) := by
  cases h with
  | tooLong hlong => exact iff_of_false (nomatch ·) fun h => absurd h.1 (Nat.not_le.mpr hlong)
  | unavailable _ hdown => exact iff_of_false (nomatch ·) fun h => hdown h.2.1
  | same hfits hup hsame => exact iff_of_true rfl ⟨hfits, hup, Or.inl hsame⟩
  | taken _ _ hother hid =>
      exact iff_of_false (nomatch ·) fun h => h.2.2.elim hother (absurd hid ·)
  | appended hfits hup _ hid => exact iff_of_true rfl ⟨hfits, hup, Or.inr hid⟩

end

/-! ## Attempts -/

/-- An attempt to store a document, while someone else may have the database for themselves. -/
structure Attempt where
  id : String
  document : Document
  contended : Bool

/-- The medium when someone else takes its database for themselves, or gives it back. -/
def withLock (locked : Bool) (m : DatabaseMedium) : DatabaseMedium :=
  { m with database.locked := locked }

def attempt (a : Attempt) (m : DatabaseMedium) : Except PersistenceError Bytes × DatabaseMedium :=
  (m.withLock a.contended).persist a.id a.document

def after : List Attempt → DatabaseMedium → DatabaseMedium
  | [], m => m
  | a :: attempts, m => after attempts (m.attempt a).2

theorem persists_attempt (a : Attempt) (m : DatabaseMedium) :
    (m.withLock a.contended).Persists a.id a.document (m.attempt a) :=
  persists a.id a.document _

theorem limit_after (attempts : List Attempt) (m : DatabaseMedium) :
    (after attempts m).limit = m.limit := by
  induction attempts generalizing m with
  | nil => rfl
  | cons a attempts ih => exact (ih _).trans (persists_attempt a m).limit_eq

theorem atMostOneActive_after (attempts : List Attempt) {m : DatabaseMedium}
    (h : AtMostOneActive m.revisions) : AtMostOneActive (after attempts m).revisions := by
  induction attempts generalizing m with
  | nil => exact h
  | cons a attempts ih => exact ih ((persists_attempt a m).atMostOneActive h)

theorem history_grows_after (attempts : List Attempt) (m : DatabaseMedium) :
    history m.revisions <+: history (after attempts m).revisions := by
  induction attempts generalizing m with
  | nil => exact List.prefix_refl _
  | cons a attempts ih => exact (persists_attempt a m).history_grows.trans (ih _)

theorem attempt_of_contended (m : DatabaseMedium) (a : Attempt) (h : a.contended = true) :
    (m.attempt a).2 = m.withLock true := by
  have hstep := persists_attempt a m
  rw [h] at hstep
  generalize m.attempt a = outcome at hstep
  cases hstep with
  | tooLong | unavailable => rfl
  | same _ hup | taken _ hup | appended _ hup => exact absurd hup.1 (Bool.noConfusion ·)

/-- Any attempts leave at most one revision active and all revisions with their ids and values. One
that succeeds stores what is loaded then, as a new revision if it is not stored already. One that
fails changes nothing, and what is longer than the limit always fails. -/
theorem revisions_of_attempts {m : DatabaseMedium} (h : AtMostOneActive m.revisions)
    (earlier : List Attempt) (a : Attempt) :
    let before := after earlier m
    let text := a.document.toJsonText
    let result := (before.attempt a).1
    let now := (before.attempt a).2
    AtMostOneActive now.revisions ∧ history m.revisions <+: history before.revisions ∧
      history before.revisions <+: history now.revisions ∧
      (∀ bytes, result = .ok bytes → bytes = text.toUTF8 ∧ now.load = .ok (some bytes) ∧
        (before.stored = some bytes → now.revisions = before.revisions) ∧
        (before.stored ≠ some bytes →
          history now.revisions = history before.revisions ++ [(a.id, text)] ∧
            (activeOf now.revisions).map (·.id) = some a.id)) ∧
      (∀ cause, result = .error cause → now = before.withLock a.contended) ∧
      (m.limit < text.utf8ByteSize →
        result = .error (.tooLarge m.limit text.utf8ByteSize)) ∧
      (result = .ok text.toUTF8 ↔ text.utf8ByteSize ≤ m.limit ∧
        (a.contended = false ∧ before.database.revisions ≠ none) ∧
        (before.stored = some text.toUTF8 ∨ a.id ∉ before.revisions.map (·.id))) := by
  intro before text result now
  have hstep : (before.withLock a.contended).Persists a.id a.document (result, now) :=
    persists_attempt a before
  have hbefore : AtMostOneActive before.revisions := atMostOneActive_after earlier h
  have hlimit : before.limit = m.limit := limit_after earlier m
  refine ⟨hstep.atMostOneActive hbefore, history_grows_after earlier m, hstep.history_grows,
    fun bytes hbytes => ?_, fun cause hcause => ?_, fun hlong => ?_, ?_⟩
  · have hload : Medium.load now = .ok (some bytes) :=
      faithful (before.withLock a.contended) (Prod.ext hbytes rfl)
    rw [hbytes] at hstep
    exact ⟨hstep.of_ok.1, hload, hstep.of_ok.2⟩
  · rw [hcause] at hstep
    exact hstep.of_error
  · rw [← hlimit] at hlong ⊢
    exact hstep.of_tooLong hlong
  · rw [← hlimit]
    exact hstep.eq_ok_iff

/-- A document follows another one, at the second attempt: at the first one, someone else has the
database. -/
theorem revisions_in_memory :
    let named (name : String) : Document := { email := { feedbackName := name } }
    let limit := (named "B").toJsonText.utf8ByteSize
    let m : DatabaseMedium :=
      ⟨.memory, limit, ⟨some [⟨"first", (named "A").toJsonText, true⟩], some [], false⟩⟩
    let now := ((after [⟨"second", named "B", true⟩] m).attempt ⟨"second", named "B", false⟩).2
    AtMostOneActive m.revisions ∧ AtMostOneActive now.revisions ∧
      history now.revisions =
        [("first", (named "A").toJsonText), ("second", (named "B").toJsonText)] ∧
      now.load = .ok (some (named "B").toJsonText.toUTF8) := by
  intro named limit m now
  have hne : named "A" ≠ named "B" :=
    fun h => absurd (congrArg (·.email.feedbackName) h) (by decide)
  -- That the documents differ is all that matters.
  clear_value named
  have h : AtMostOneActive m.revisions := Nat.le_refl 1
  have hbefore : after [⟨"second", named "B", true⟩] m = m.withLock true := by
    rw [after, after, attempt_of_contended m _ rfl]
  have hother : (m.withLock true).stored ≠ some (Codec.json.encode (named "B")) :=
    fun hsame => hne (Codec.json.encode_injective (Option.some.inj hsame))
  have hnew : "second" ∉ (m.withLock true).revisions.map (·.id) := by
    change "second" ∉ ["first"]
    decide
  obtain ⟨hactive, _, _, hstored, _, _, hok⟩ :=
    revisions_of_attempts h [⟨"second", named "B", true⟩] ⟨"second", named "B", false⟩
  rw [hbefore] at hstored hok
  obtain ⟨_, hload, _, hhistory⟩ := hstored _
    (hok.mpr ⟨Nat.le_refl limit, ⟨rfl, Option.some_ne_none _⟩, Or.inr hnew⟩)
  have hnow : now = ((m.withLock true).attempt ⟨"second", named "B", false⟩).2 :=
    congrArg (fun before => (attempt _ before).2) hbefore
  rw [hnow]
  exact ⟨h, hnow ▸ hactive, (hhistory hother).1, hload⟩

end DatabaseMedium

end SettingsStore
