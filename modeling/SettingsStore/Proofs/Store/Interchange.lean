import SettingsStore.Proofs.Medium.Stock
import SettingsStore.Proofs.Store.Opening

/-!
# Stores in different places

Two stores mirror each other if they differ in nothing but their places, and these are stocked with
the same document. Then both load the same bytes, decode the same document, and store the same one,
so they mirror each other after every request, and whoever makes the requests is answered and shown
the same. Stores that are opened where there is no document yet begin like this. So it does not
matter whether a store is in memory, in a database in memory or in a file.
-/

namespace SettingsStore

namespace Action

variable {σ κ : Type}

/-- The ids for revisions that are generated for an action. -/
def revisions : Action σ κ → List String
  | .set fresh _ | .reload fresh | .sync fresh => [fresh.revision]
  | _ => []

/-- Whether an action concerns nothing on the medium but the document, and is not the others'. -/
def isRequest : Action σ κ → Bool
  | .putFile .. | .eraseFile .. | .edit _ => false
  | _ => true

end Action

/-- What can be seen of a store. -/
structure Sight (κ : Type) where
  active : Document
  overridden : List Leaf
  queue : List (Call κ)
  bytes : Except PersistenceError (Option Bytes)

/-- The answers to requests, and what is seen before the first one and after each. -/
structure Transcript (κ : Type) where
  answers : List (Answer κ)
  sights : List (Sight κ)

namespace Store

section

variable {σ κ : Type} [Medium σ]

def sight (s : Store σ κ) : Sight κ :=
  ⟨s.active, s.overridden, s.listeners.queue, Medium.load s.medium⟩

def sights (s : Store σ κ) : List (Action σ κ) → List (Sight κ)
  | [] => [s.sight]
  | a :: actions => s.sight :: (s.act a).sights actions

theorem sight_mem_sights (s : Store σ κ) (actions : List (Action σ κ)) :
    s.sight ∈ s.sights actions := by
  cases actions with
  | nil => exact List.mem_singleton_self _
  | cons a actions => exact List.mem_cons_self

end

/-! ## Mirrored operations -/

variable {κ : Type} {ceiling : Option Nat} {ids : List String} {saved : Option Document}
  {fresh : Fresh} {s t : Store Place κ} {p : Place}

/-- The store as it would be in another place. -/
def movedTo (s : Store Place κ) (p : Place) : Store Place κ := { s with medium := p }

/-- The same store in two places that are stocked alike, of which the second has no ceiling. -/
inductive Mirrors (ceiling : Option Nat) (ids : List String) : Store Place κ → Store Place κ → Prop
  | intro {t : Store Place κ} {p : Place} {saved : Option Document}
      (hp : p.Stocked ceiling ids saved) (ht : t.medium.Stocked none ids saved) :
      Mirrors ceiling ids (t.movedTo p) t

theorem Mirrors.sight_eq (h : s.Mirrors ceiling ids t) : s.sight = t.sight := by
  cases h with
  | intro hp ht => exact congrArg (Sight.mk _ _ _) (hp.load.trans ht.load.symm)

/-- The same result, and stores that mirror each other. -/
structure Agree {α : Type} (ceiling : Option Nat) (ids : List String)
    (r r' : α × Store Place κ) : Prop where
  result : r.1 = r'.1
  mirrors : r.2.Mirrors ceiling ids r'.2

/-- What is stored in the place without a ceiling is stored in the other one if it is not above
its ceiling. -/
theorem persist_mirrored {id : String} (hp : p.Stocked ceiling (id :: ids) saved)
    (ht : t.medium.Stocked none (id :: ids) saved) (d : Document) :
    ∃ q, Medium.persist id d t.medium = (.ok (Codec.json.encode d), q) ∧
      q.Stocked none ids (some d) ∧ (IsBelow ceiling (Medium.load q) →
        ∃ p', Medium.persist id d p = (.ok (Codec.json.encode d), p') ∧
          p'.Stocked ceiling ids (some d)) := by
  obtain ⟨q, hpersist, hq⟩ := ht.persist trivial
  exact ⟨q, hpersist, hq, fun hbelow => hp.persist (hq.load ▸ hbelow)⟩

theorem decode_movedTo (hp : p.Stocked ceiling ids saved) (ht : t.medium.Stocked none ids saved)
    (salt : String) (bytes : Option Bytes) :
    (t.movedTo p).decode salt bytes = t.decode salt bytes := by
  unfold decode
  rw [ht.codec, ht.initial, show Medium.codec (t.movedTo p).medium = _ from hp.codec,
    show Medium.initial (t.movedTo p).medium = _ from hp.initial]
  rfl

theorem writeBack_mirrored {id : String} (hp : p.Stocked ceiling (id :: ids) saved)
    (ht : t.medium.Stocked none (id :: ids) saved) (d : Document) (needsSave : Bool) :
    ∃ written q saved', (if needsSave then t.writeBack id d else (.ok none, t.medium)) =
        (.ok written, q) ∧ q.Stocked none ids saved' ∧
      (IsBelow ceiling (Medium.load q) →
        ∃ p', (if needsSave then (t.movedTo p).writeBack id d else (.ok none, p)) =
          (.ok written, p') ∧ p'.Stocked ceiling ids saved') := by
  by_cases hsave : needsSave = true ∧ t.options.readOnly = false
  · obtain ⟨rfl, hwrite⟩ := hsave
    obtain ⟨q, hpersist, hq, hmirrored⟩ := persist_mirrored hp ht d
    refine ⟨some (Codec.json.encode d), q, some d, ?_, hq, fun hbelow => ?_⟩
    · simp only [writeBack, hwrite, hpersist]
      rfl
    · obtain ⟨p', hpersist', hp'⟩ := hmirrored hbelow
      refine ⟨p', ?_, hp'⟩
      simp only [writeBack, movedTo, hwrite, hpersist']
      rfl
  · have hunwritten (hneeds : needsSave = true) : t.options.readOnly = true :=
      eq_true_of_ne_false fun hwrite => hsave ⟨hneeds, hwrite⟩
    exact ⟨none, t.medium, saved, writeBack_of_unwritten hunwritten id d, ht.tail,
      fun _ => ⟨p, writeBack_of_unwritten (s := t.movedTo p) hunwritten id d, hp.tail⟩⟩

section

variable (hp : p.Stocked ceiling (fresh.revision :: ids) saved)
  (ht : t.medium.Stocked none (fresh.revision :: ids) saved)

include hp ht

theorem agree_loadBytes (bytes : Option Bytes)
    (hbelow : (t.loadBytes fresh bytes).1.isOk = true →
      IsBelow ceiling (Medium.load (t.loadBytes fresh bytes).2.medium)) :
    Agree ceiling ids ((t.movedTo p).loadBytes fresh bytes) (t.loadBytes fresh bytes) := by
  have hdecode := decode_movedTo hp ht fresh.salt (content bytes)
  cases hd : t.decode fresh.salt (content bytes) with
  | error cause =>
      rw [loadBytes_of_undecodable hd, loadBytes_of_undecodable (hdecode.trans hd)]
      exact ⟨rfl, .intro hp.tail ht.tail⟩
  | ok decoded =>
      obtain ⟨d, needsSave⟩ := decoded
      cases he : t.options.effective d with
      | error violations =>
          rw [loadBytes_of_invalid hd he, loadBytes_of_invalid (hdecode.trans hd) he]
          exact ⟨rfl, .intro hp.tail ht.tail⟩
      | ok e =>
          obtain ⟨written, q, _, hw, hq, hmirrored⟩ := writeBack_mirrored hp ht d needsSave
          rw [loadBytes_of_written hd he hw] at hbelow ⊢
          obtain ⟨p', hw', hp'⟩ := hmirrored (hbelow rfl)
          rw [loadBytes_of_written (hdecode.trans hd) he hw']
          exact ⟨rfl, .intro (t := (({ t with medium := q } : Store Place κ).adopt d e
            (written <|> content bytes)).2) hp' hq⟩

theorem agree_load (hbelow : (t.load fresh).1.isOk = true →
      IsBelow ceiling (Medium.load (t.load fresh).2.medium)) :
    Agree ceiling ids ((t.movedTo p).load fresh) (t.load fresh) := by
  have hload : t.load fresh = t.loadBytes fresh (saved.map Codec.json.encode) := by
    rw [load, ht.load]
  have hload' : (t.movedTo p).load fresh =
      (t.movedTo p).loadBytes fresh (saved.map Codec.json.encode) := by
    rw [load, show Medium.load (t.movedTo p).medium = _ from hp.load]
  rw [hload] at hbelow ⊢
  rw [hload']
  exact agree_loadBytes hp ht _ hbelow

theorem agree_reload
    (hbelow : IsBelow ceiling (Medium.load (t.reload fresh).2.medium)) :
    Agree ceiling ids ((t.movedTo p).reload fresh) (t.reload fresh) := by
  unfold reload at hbelow ⊢
  by_cases hclosed : t.closed = true
  · rw [if_pos hclosed, if_pos (show (t.movedTo p).closed = true from hclosed)]
    exact ⟨rfl, .intro hp.tail ht.tail⟩
  · rw [if_neg hclosed] at hbelow ⊢
    rw [if_neg (show ¬(t.movedTo p).closed = true from hclosed)]
    exact agree_load hp ht fun _ => hbelow

theorem agree_sync
    (hbelow : IsBelow ceiling (Medium.load (t.sync fresh).2.medium)) :
    Agree ceiling ids ((t.movedTo p).sync fresh) (t.sync fresh) := by
  by_cases hclosed : t.closed = true
  · rw [sync_of_closed hclosed, sync_of_closed (s := t.movedTo p) hclosed]
    exact ⟨rfl, .intro hp.tail ht.tail⟩
  have hopen := eq_false_of_ne_true hclosed
  rw [sync_of_load hopen ht.load] at hbelow ⊢
  rw [sync_of_load (s := t.movedTo p) hopen hp.load]
  by_cases hsame : ((saved.map Codec.json.encode).all (·.isEmpty) ||
      t.synced == saved.map Codec.json.encode) = true
  · rw [if_pos hsame, if_pos (show (_ || (t.movedTo p).synced == _) = true from hsame)]
    exact ⟨rfl, .intro hp.tail ht.tail⟩
  · rw [if_neg hsame] at hbelow ⊢
    rw [if_neg (show ¬(_ || (t.movedTo p).synced == _) = true from hsame)]
    have hagree := agree_loadBytes hp ht _ fun _ => hbelow
    exact ⟨congrArg (Except.map fun _ => true) hagree.result, hagree.mirrors⟩

theorem agree_set (candidate : Document)
    (hbelow : IsBelow ceiling (Medium.load (t.set fresh candidate).2.medium)) :
    Agree ceiling ids ((t.movedTo p).set fresh candidate) (t.set fresh candidate) := by
  by_cases hclosed : t.closed = true
  · rw [set_of_closed hclosed, set_of_closed (s := t.movedTo p) hclosed]
    exact ⟨rfl, .intro hp.tail ht.tail⟩
  have hopen := eq_false_of_ne_true hclosed
  by_cases hread : t.options.readOnly = true
  · rw [set_of_readOnly hopen hread, set_of_readOnly (s := t.movedTo p) hopen hread]
    exact ⟨rfl, .intro hp.tail ht.tail⟩
  have hwrite := eq_false_of_ne_true hread
  cases he : t.options.effective (t.toPersist fresh.salt candidate) with
  | error violations =>
      rw [set_of_invalid hopen hwrite he, set_of_invalid (s := t.movedTo p) hopen hwrite he]
      exact ⟨rfl, .intro hp.tail ht.tail⟩
  | ok e =>
      obtain ⟨q, hpersist, hq, hmirrored⟩ :=
        persist_mirrored hp ht (t.toPersist fresh.salt candidate)
      rw [set_of_persist hopen hwrite he hpersist] at hbelow ⊢
      obtain ⟨p', hpersist', hp'⟩ := hmirrored hbelow
      rw [set_of_persist (s := t.movedTo p) hopen hwrite he hpersist']
      exact ⟨rfl, .intro (t := ⟨t.options, q, _, _, _, _, _, _⟩) hp' hq⟩

end

/-! ## Requests -/

/-- A request is answered alike, and leaves the stores alike. -/
theorem Mirrors.request {a : Action Place κ} (h : s.Mirrors ceiling (a.revisions ++ ids) t)
    (ha : a.isRequest = true) (hbelow : IsBelow ceiling (t.act a).sight.bytes) :
    s.answer a = t.answer a ∧ (s.act a).Mirrors ceiling ids (t.act a) := by
  cases h with
  | @intro _ p saved hp ht =>
      cases a with
      | set fresh candidate =>
          have hagree := agree_set hp ht candidate hbelow
          exact ⟨congrArg Answer.document hagree.result, hagree.mirrors⟩
      | reload fresh =>
          have hagree := agree_reload hp ht hbelow
          exact ⟨congrArg Answer.loaded hagree.result, hagree.mirrors⟩
      | sync fresh =>
          have hagree := agree_sync hp ht hbelow
          exact ⟨congrArg Answer.synced hagree.result, hagree.mirrors⟩
      | listen callback => exact ⟨rfl, .intro (t := (t.listen callback).2) hp ht⟩
      | unlisten id => exact ⟨rfl, .intro (t := (t.unlisten id).2) hp ht⟩
      | deliver =>
          refine ⟨rfl, ?_⟩
          rw [act, act, show (t.movedTo p).listeners = t.listeners from rfl]
          cases t.listeners.next? with
          | none => exact .intro hp ht
          | some due => exact .intro (t := { t with listeners := due.2 }) hp ht
      | close =>
          rw [answer, answer, act, act, close, close]
          by_cases hclosed : t.closed = true
          · rw [if_pos hclosed, if_pos (show (t.movedTo p).closed = true from hclosed)]
            exact ⟨rfl, .intro hp ht⟩
          · rw [if_neg hclosed, if_neg (show ¬(t.movedTo p).closed = true from hclosed)]
            exact ⟨rfl, .intro (t := ⟨t.options, t.medium, _, _, _, _, _, _⟩) hp ht⟩
      | putFile | eraseFile | edit => cases ha

/-- Whoever makes requests is answered and shown the same. -/
theorem Mirrors.run {actions : List (Action Place κ)}
    (h : s.Mirrors ceiling (actions.flatMap Action.revisions) t)
    (hrequests : ∀ a ∈ actions, a.isRequest = true)
    (hbelow : ∀ x ∈ t.sights actions, IsBelow ceiling x.bytes) :
    s.answers actions = t.answers actions ∧ s.sights actions = t.sights actions := by
  induction actions generalizing s t with
  | nil => exact ⟨rfl, congrArg (fun x => [x]) h.sight_eq⟩
  | cons a actions ih =>
      have hlater : ∀ x ∈ (t.act a).sights actions, IsBelow ceiling x.bytes :=
        fun x hx => hbelow x (List.mem_cons_of_mem _ hx)
      obtain ⟨hanswer, hnext⟩ := h.request (hrequests a List.mem_cons_self)
        (hlater _ (sight_mem_sights _ actions))
      obtain ⟨hanswers, hsights⟩ :=
        ih hnext (fun b hb => hrequests b (List.mem_cons_of_mem a hb)) hlater
      exact ⟨by rw [answers, answers, hanswer, hanswers],
        by rw [sights, sights, h.sight_eq, hsights]⟩

/-! ## Openings -/

variable {notifier : Notifier} {options : Options} {salt : String} {q : Place}

/-- Where all that is to be watched is watched, a store is opened if it can be loaded. -/
theorem result_openPlace {r : Except StoreError Loaded × Store Place κ}
    (h : openMedium options salt fresh p = r) (hwatch : r.2.medium.isWatchable notifier = true) :
    (openPlace notifier options salt fresh p : Opened κ).result = r.1.map fun _ => r.2 := by
  simp only [openPlace, h, hwatch, Bool.not_true, Bool.and_false]
  rfl

theorem Mirrors.isWatchable (hn : notifier.IsUnlimited) (h : s.Mirrors ceiling ids t) :
    s.medium.isWatchable notifier = true ∧ t.medium.isWatchable notifier = true := by
  cases h with
  | intro hp ht => exact ⟨hp.isWatchable hn, ht.isWatchable hn⟩

/-- Of stores that are opened where nothing is stored yet, none is opened, or they mirror each
other. -/
theorem openPlace_mirrored (hn : notifier.IsUnlimited)
    (hp : p.Stocked ceiling (fresh.revision :: ids) none)
    (hq : q.Stocked none (fresh.revision :: ids) none)
    (hbelow : ∀ t : Store Place κ, (openPlace notifier options salt fresh q).result = .ok t →
      IsBelow ceiling t.sight.bytes) :
    (∃ cause, (openPlace notifier options salt fresh p : Opened κ).result = .error cause ∧
      (openPlace notifier options salt fresh q : Opened κ).result = .error cause) ∨
    ∃ s t : Store Place κ, (openPlace notifier options salt fresh p).result = .ok s ∧
      (openPlace notifier options salt fresh q).result = .ok t ∧ s.Mirrors ceiling ids t := by
  let t₀ : Store Place κ := ofMedium options salt q
  have hopenq : openMedium options salt fresh q = t₀.load fresh := rfl
  have hopenp : openMedium options salt fresh p = (t₀.movedTo p).load fresh := rfl
  -- What is watched does not depend on the ceiling.
  have hwatch : (t₀.load fresh).2.medium.isWatchable notifier = true :=
    ((agree_load (t := t₀) hq hq fun _ => trivial).mirrors.isWatchable hn).2
  rw [result_openPlace hopenq hwatch] at hbelow ⊢
  have hagree : Agree ceiling ids ((t₀.movedTo p).load fresh) (t₀.load fresh) := by
    refine agree_load hp hq fun hok => hbelow _ ?_
    obtain ⟨loaded, hloaded⟩ := exists_ok_of_isOk hok
    rw [hloaded]
    rfl
  rw [result_openPlace hopenp (hagree.mirrors.isWatchable hn).1, hagree.result]
  cases (t₀.load fresh).1 with
  | error cause => exact Or.inl ⟨cause, rfl, rfl⟩
  | ok loaded => exact Or.inr ⟨_, _, rfl, rfl, hagree.mirrors⟩

end Store

/-! ## Transcripts -/

namespace Dsn

variable {κ : Type} {notifier : Notifier} {options : Options} {salt : String} {fresh : Fresh}
  {disk : Disk}

/-- What comes of requests to a store that is opened where a data source name points. -/
def transcript (notifier : Notifier) (options : Options) (salt : String) (fresh : Fresh)
    (disk : Disk) (actions : List (Action Place κ)) (dsn : Dsn) :
    Except StoreError (Transcript κ) :=
  match dsn.place options.maxWriteLength disk with
  | .error cause => .error (.persistence cause)
  | .ok place => (Store.openPlace notifier options salt fresh place).result.map fun s =>
    ⟨s.answers actions, s.sights actions⟩

theorem transcript_of_place {dsn : Dsn} {p : Place} {actions : List (Action Place κ)}
    (h : dsn.place options.maxWriteLength disk = .ok p) :
    dsn.transcript notifier options salt fresh disk actions =
      (Store.openPlace notifier options salt fresh p).result.map fun s =>
        ⟨s.answers actions, s.sights actions⟩ := by
  rw [transcript, h]

/-- A place with no document yet is as good as memory, as long as nothing is above its ceiling. -/
theorem transcript_eq_memory {dsn : Dsn} {p : Place} {ceiling : Option Nat}
    {actions : List (Action Place κ)} (hn : notifier.IsUnlimited)
    (hrequests : ∀ a ∈ actions, a.isRequest = true)
    (hplace : dsn.place options.maxWriteLength disk = .ok p)
    (hp : p.Stocked ceiling (fresh.revision :: actions.flatMap Action.revisions) none)
    (hbelow : ∀ r, Dsn.memory.transcript notifier options salt fresh disk actions = .ok r →
      ∀ x ∈ r.sights, IsBelow ceiling x.bytes) :
    dsn.transcript notifier options salt fresh disk actions =
      Dsn.memory.transcript notifier options salt fresh disk actions := by
  have hmemory : Dsn.memory.place options.maxWriteLength disk = .ok ⟨.memory .empty, disk⟩ := rfl
  rw [transcript_of_place hmemory] at hbelow ⊢
  rw [transcript_of_place hplace]
  have hsights (t : Store Place κ)
      (ht : (Store.openPlace notifier options salt fresh ⟨.memory .empty, disk⟩).result = .ok t) :
      ∀ x ∈ t.sights actions, IsBelow ceiling x.bytes := by
    refine hbelow ⟨t.answers actions, t.sights actions⟩ ?_
    rw [ht]
    rfl
  have hempty : Place.Stocked none (fresh.revision :: actions.flatMap Action.revisions) none
      ⟨.memory .empty, disk⟩ := .memory
  rcases Store.openPlace_mirrored hn hp hempty fun t ht =>
    hsights t ht _ (t.sight_mem_sights actions) with
    ⟨cause, hfails, hfails'⟩ | ⟨s, t, hs, ht, hmirrors⟩
  · rw [hfails, hfails']
  · obtain ⟨hanswers, hseen⟩ := hmirrors.run hrequests (hsights t ht)
    rw [hs, ht, Except.map, Except.map, hanswers, hseen]

/-- It makes no difference to those who make requests whether a store is opened in memory, in a
database in memory, as long as no id is generated twice and no document is above the ceiling, or in
a file of a JSON name that is yet to be made, where the system watches whatever there is. -/
theorem transcript_interchangeable {notifier : Notifier} (hn : notifier.IsUnlimited)
    (options : Options) (salt : String) (fresh : Fresh) (disk : Disk)
    {actions : List (Action Place κ)} (hrequests : ∀ a ∈ actions, a.isRequest = true) :
    ((fresh.revision :: actions.flatMap Action.revisions).Nodup →
      (∀ r, Dsn.memory.transcript notifier options salt fresh disk actions = .ok r →
        ∀ x ∈ r.sights, IsBelow (some options.maxWriteLength) x.bytes) →
      (Dsn.database .memory).transcript notifier options salt fresh disk actions =
        Dsn.memory.transcript notifier options salt fresh disk actions) ∧
    ∀ (path : String) (loc : Location), Path.isAbsolute disk.home = true →
      (FileMedium.ofPath path disk).codec = .json →
      disk.locate (FileMedium.ofPath path disk).path = .ok loc → disk.root.find? loc = none →
      (Dsn.file path).transcript notifier options salt fresh disk actions =
        Dsn.memory.transcript notifier options salt fresh disk actions := by
  refine ⟨fun hids hbelow => ?_, fun path loc hhome hcodec hlocate hvacant => ?_⟩
  · obtain ⟨p, hplace, hp⟩ :=
      Place.exists_openDatabase_stocked options.maxWriteLength disk hids
    exact transcript_eq_memory hn hrequests hplace hp hbelow
  · have hp : (Place.openFile path disk).Stocked none
        (fresh.revision :: actions.flatMap Action.revisions) none :=
      Place.stocked_openFile hcodec (Path.isAbsolute_join hhome path) hlocate hvacant
    exact transcript_eq_memory hn hrequests rfl hp fun _ _ _ _ => trivial

/-- A listener is told of a set, but not of one that is refused, and then the store is closed. -/
theorem transcript_in_three_places :
    let disk := Disk.ofHome "/work"
    let fresh (revision : String) : Fresh := ⟨"fedcba9876543210fedcba9876543210", revision⟩
    let actions : List (Action Place Unit) :=
      [.listen (), .set (fresh "second") { service := { enableDeveloper := true } },
        .set (fresh "third") { password := { minimumLength := 1 } }, .deliver, .close,
        .reload (fresh "fourth")]
    let transcript (dsn : Dsn) : Except StoreError (Transcript Unit) :=
      dsn.transcript .unlimited .default "0123456789abcdef0123456789abcdef" (fresh "first") disk
        actions
    (transcript .memory).isOk = true ∧ transcript (.database .memory) = transcript .memory ∧
      transcript (.file "settings.json") = transcript .memory := by
  intro disk fresh actions transcript
  have hrequests : ∀ a ∈ actions, a.isRequest = true := by decide
  have hids : ((fresh "first").revision :: actions.flatMap Action.revisions).Nodup := by decide
  have hok : (transcript .memory).isOk = true := by decide +kernel
  have hbelow : ∀ r ∈ (transcript .memory).toOption,
      ∀ x ∈ r.sights, IsBelow (some Options.default.maxWriteLength) x.bytes := by decide +kernel
  have hhome : Path.isAbsolute disk.home = true := by decide +kernel
  have hcodec : (FileMedium.ofPath "settings.json" disk).codec = .json := by decide +kernel
  have hpieces : Path.pieces (FileMedium.ofPath "settings.json" disk).path =
      ["", "work", "settings.json"] := by decide +kernel
  have hlocate : disk.locate (FileMedium.ofPath "settings.json" disk).path =
      .ok ["work", "settings.json"] :=
    (Disk.locate_eq_ok_iff (Path.isAbsolute_join hhome _)).mpr
      ⟨by decide +kernel, by decide +kernel,
        (congrArg (Disk.walk disk.root []) hpieces).trans (by rfl)⟩
  have hn : Notifier.unlimited.IsUnlimited := fun _ _ h => h
  obtain ⟨hdatabase, hfile⟩ := transcript_interchangeable hn .default
    "0123456789abcdef0123456789abcdef" (fresh "first") disk hrequests
  refine ⟨hok, hdatabase hids fun r hr => hbelow r (congrArg Except.toOption hr), ?_⟩
  exact hfile "settings.json" ["work", "settings.json"] hhome hcodec hlocate rfl

end Dsn

end SettingsStore
