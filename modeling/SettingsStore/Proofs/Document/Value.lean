import SettingsStore.Proofs.Document.Selection
import SettingsStore.Proofs.Document.Text

/-!
# Documents as values and as texts

The value of a document has the members of its text, only sorted by their names. Reading does not
depend on the order of members, so a document is read from its value as it is from its text. What
can be read back is written in one way only: documents with one text are one document.

A value that is written into a document's value is read for its setting alone: the other settings
are as they were, and what is wrong with the value is all that can be wrong. So passes over the
value of a document, setting by setting, are passes over the document.
-/

namespace SettingsStore

open Json

namespace Document

theorem ofJson_toJson (d : Document) : ofJson d.toJson = .ok d := by
  obtain ⟨ss, order, hss, horder, hvalue⟩ :=
    Leaf.exists_ofSettings Leaf.nodup_all fun l => l.type.toJson (d.get l)
  rw [ofJson, toJson_eq_ofSettings, hvalue, toTree_sections]
  exact d.ofTree_leaves .counted hss horder

theorem exists_ofJson_ofSettings (value : Leaf → Json) :
    ∃ order : List Leaf, order.Perm Leaf.all ∧ ofJson (ofSettings Leaf.all value) =
      order.foldlM (Leaf.readInto fun l => (value l).toTree) default := by
  obtain ⟨ss, order, hss, horder, hvalue⟩ := Leaf.exists_ofSettings Leaf.nodup_all value
  refine ⟨ss.flatMap order, Leaf.flatMap_perm Leaf.nodup_all hss horder, ?_⟩
  rw [ofJson, hvalue, toTree_sections]
  exact ofTree_eq_foldlM .counted (.of_perm horder) (hss.nodup_iff.mpr (by decide))

/-- A document in whose value something is written is the document with what is read of that, and
cannot be read exactly if that cannot. -/
theorem ofJson_write (d : Document) (l : Leaf) (value : Json) :
    ofJson (l.field.write value d.toJson) = (l.type.read value.toTree).map (d.set l) := by
  rw [toJson_eq_ofSettings, Leaf.write_ofSettings_of_mem Leaf.nodup_all l.mem_all]
  obtain ⟨order, hperm, hread⟩ :=
    exists_ofJson_ofSettings fun m => if m = l then value else m.type.toJson (d.get m)
  rw [hread]
  have hother {m : Leaf} (hm : m ≠ l) :
      m.type.read (if m = l then value else m.type.toJson (d.get m)).toTree = .ok (d.get m) := by
    rw [if_neg hm, LeafType.read_toJson]
  cases hv : l.type.read value.toTree with
  | ok v =>
      have hall : ∀ m ∈ order,
          m.type.read (if m = l then value else m.type.toJson (d.get m)).toTree =
            .ok ((d.set l v).get m) := by
        intro m _
        by_cases hm : m = l
        · subst hm
          rw [if_pos rfl, hv, get_set_self]
        · rw [hother hm, get_set_of_ne hm]
      rw [Leaf.foldlM_readInto hall]
      refine congrArg Except.ok (ext_get fun m => ?_)
      rw [get_setAll, if_pos (hperm.mem_iff.mpr m.mem_all)]
  | error fault =>
      -- What comes before the setting is read, and then reading ends with its fault.
      obtain ⟨before, after, rfl⟩ := List.append_of_mem (hperm.mem_iff.mpr l.mem_all)
      have hnodup := List.nodup_middle.mp (hperm.nodup_iff.mpr Leaf.nodup_all)
      have hbefore : ∀ m ∈ before,
          m.type.read (if m = l then value else m.type.toJson (d.get m)).toTree =
            .ok (d.get m) := by
        intro m hm
        refine hother fun heq => (List.nodup_cons.mp hnodup).1 ?_
        exact List.mem_append_left after (heq ▸ hm)
      have hfault (e : Document) : Leaf.readInto
          (fun m => (if m = l then value else m.type.toJson (d.get m)).toTree) e l =
            .error fault := by
        rw [Leaf.readInto, if_pos rfl, hv]
        rfl
      rw [List.foldlM_append, Leaf.foldlM_readInto hbefore]
      change (l :: after).foldlM (Leaf.readInto _) (setAll d.get default before) = _
      rw [List.foldlM_cons, hfault]
      rfl

/-- A pass over some leaves, each of which is given a value that depends on its own value only, and
which keeps an account `b` beside the document. -/
theorem foldl_eq_setAll {σ β : Type} (state : Document → β → σ) {step : σ → Leaf → σ}
    (f : (l : Leaf) → l.type.Value → l.type.Value) (g : (l : Leaf) → l.type.Value → β → β)
    (hstep : ∀ d b l, step (state d b) l = state (d.set l (f l (d.get l))) (g l (d.get l) b))
    {ls : List Leaf} (hnodup : ls.Nodup) (d : Document) (b : β) :
    ls.foldl step (state d b) =
      state (setAll (fun l => f l (d.get l)) d ls) (ls.foldl (fun b l => g l (d.get l) b) b) := by
  induction ls generalizing d b with
  | nil => rfl
  | cons l ls ih =>
      rw [List.nodup_cons] at hnodup
      have hget : ∀ m ∈ ls, (d.set l (f l (d.get l))).get m = d.get m := by
        intro m hm
        refine get_set_of_ne ?_ d _
        rintro rfl
        exact hnodup.1 hm
      have hset : setAll (fun m => f m ((d.set l (f l (d.get l))).get m))
          (d.set l (f l (d.get l))) ls = setAll (fun m => f m (d.get m)) d (l :: ls) := by
        change _ = setAll (fun m => f m (d.get m)) (d.set l (f l (d.get l))) ls
        refine ext_get fun m => ?_
        rw [get_setAll, get_setAll]
        split
        · next hm => rw [hget m hm]
        · rfl
      rw [List.foldl_cons, hstep, ih hnodup.2, List.foldl_cons, hset]
      exact congrArg (state _) (List.foldl_ext _ _ _ fun b m hm => by rw [hget m hm])

theorem foldl_toJson_eq {step : Json → Leaf → Json} (f : (l : Leaf) → l.type.Value → l.type.Value)
    (hstep : ∀ (d : Document) l, step d.toJson l = (d.set l (f l (d.get l))).toJson)
    {ls : List Leaf} (hnodup : ls.Nodup) (d : Document) :
    ls.foldl step d.toJson = (setAll (fun l => f l (d.get l)) d ls).toJson :=
  foldl_eq_setAll (fun (d : Document) (_ : Unit) => d.toJson) f (fun _ _ b => b)
    (fun d _ l => hstep d l) hnodup d ()

end Document

namespace Codec

theorem encode_injective (c : Codec) : Function.Injective c.encode := by
  intro d e h
  have hread := c.decode_encode e
  rw [← h, c.decode_encode d] at hread
  exact Except.ok.inj hread

/-- Every document is read back from its text in JSON and from its value, and two documents have
the same text exactly if they are the same. -/
theorem json_canonical :
    (∀ d : Document, json.decode (json.encode d) = .ok d) ∧
    (∀ d : Document, Document.ofJson d.toJson = .ok d) ∧
    ∀ d e : Document, json.encode d = json.encode e ↔ d = e :=
  ⟨json.decode_encode, Document.ofJson_toJson, fun _ _ => json.encode_injective.eq_iff⟩

end Codec

end SettingsStore
