import SettingsStore.Document.Masking
import SettingsStore.Proofs.Document.Fitting
import SettingsStore.Proofs.Document.Value

/-!
# Masks that are taken off

Masking and unmasking go through the value of a document, and come to what is said of each secret:
one that is no empty text is shown as the mask, and one that is nothing but the mask is put back.

A value that is masked and then is not the mask was no secret. So a masked document has its secrets
back when those of the document itself are put in place of masks. In general, no mask is left when
the secrets of a document without masks are put in place of them, but for a list that has the mask
beside other items: such a list is not the mask, and stays as it is.
-/

namespace SettingsStore

namespace Leaf

/-- The replicas are the only secret that is a list. -/
theorem type_ne_strList {l : Leaf} (hl : l ≠ .dataSourceReplicas) (hsecret : l.isSecret = true) :
    l.type ≠ .strList := by
  revert hl hsecret
  cases l <;> decide

end Leaf

namespace LeafType

/-- What is shown instead of a secret value. -/
def masked : (t : LeafType) → t.Value → t.Value
  | .str, (s : String) => if s = "" then s else mask
  | .optStr, (s : Option String) => s.map fun s => if s = "" then s else mask
  | .strList, (ss : List String) => ss.map fun _ => mask
  | .bool, b | .word32, b | .int64, b => b

def isMask : (t : LeafType) → t.Value → Bool
  | .str, (s : String) => s == mask
  | .optStr, (s : Option String) => s == some mask
  | .strList, (ss : List String) => !ss.isEmpty && ss.all (· == mask)
  | .bool, _ | .word32, _ | .int64, _ => false

theorem masked?_toJson {t : LeafType} (v : t.Value) :
    ((t.toJson v).masked? = none ∧ t.masked v = v) ∨
      (t.toJson v).masked? = some (t.toJson (t.masked v)) := by
  cases t with
  | str =>
      change String at v
      by_cases hv : v = ""
      · exact Or.inl ⟨if_pos hv, if_pos hv⟩
      · refine Or.inr ((if_neg hv).trans ?_)
        rw [show masked .str v = mask from if_neg hv]
        rfl
  | optStr =>
      change Option String at v
      cases v with
      | none => exact Or.inl ⟨rfl, rfl⟩
      | some v =>
          by_cases hv : v = ""
          · exact Or.inl ⟨if_pos hv, congrArg some (if_pos hv)⟩
          · refine Or.inr ((if_neg hv).trans ?_)
            rw [show masked .optStr (some v) = some mask from congrArg some (if_neg hv)]
            rfl
  | strList =>
      change List String at v
      refine Or.inr (congrArg (some ∘ Json.arr) ?_)
      change (v.map Json.str).map (fun _ => Json.str mask) = (v.map fun _ => mask).map Json.str
      rw [List.map_map, List.map_map]
      rfl
  | bool | word32 | int64 => exact Or.inl ⟨rfl, rfl⟩

theorem isMask_kind {t : LeafType} (v : t.Value) : t.kind.isMask (t.toJson v) = t.isMask v := by
  cases t with
  | optStr =>
      change Option String at v
      cases v with
      | none => rfl
      | some s => exact (Option.some_beq_some).symm
  | strList =>
      change List String at v
      change (!(v.map Json.str).isEmpty && (v.map Json.str).all Json.isMask) = _
      rw [List.isEmpty_map, List.all_map]
      rfl
  | str | bool | word32 | int64 => rfl

/-- A list of masks is not taken for a mask in a patch. -/
theorem isMask_toJson {t : LeafType} (v : t.Value) :
    (t.toJson v).isMask = (decide (t ≠ .strList) && t.isMask v) := by
  cases t with
  | optStr =>
      change Option String at v
      cases v with
      | none => rfl
      | some s => simp [toJson, Json.isMask, isMask]
  | str | bool | word32 | int64 | strList => rfl

theorem masked_eq_of_not_isMask {t : LeafType} {v : t.Value} (h : t.isMask (t.masked v) = false) :
    t.masked v = v := by
  cases t with
  | str =>
      change String at v
      by_cases hv : v = ""
      · exact if_pos hv
      · have hmasked : masked .str v = mask := if_neg hv
        rw [hmasked] at h
        cases h
  | optStr =>
      change Option String at v
      cases v with
      | none => rfl
      | some v =>
          by_cases hv : v = ""
          · exact congrArg some (if_pos hv)
          · have hmasked : masked .optStr (some v) = some mask := congrArg some (if_neg hv)
            rw [hmasked] at h
            cases h
  | strList =>
      change List String at v
      cases v with
      | nil => rfl
      | cons s ss =>
          have hmask : isMask .strList (masked .strList (s :: ss)) = true := by
            simp [isMask, masked]
          rw [hmask] at h
          cases h
  | bool | word32 | int64 => rfl

/-- The value is the mask, or a list with the mask among its items. -/
def HasMask : (t : LeafType) → t.Value → Prop
  | .str, (s : String) => s = mask
  | .optStr, (s : Option String) => s = some mask
  | .strList, (ss : List String) => mask ∈ ss
  | .bool, _ | .word32, _ | .int64, _ => False

instance : (t : LeafType) → (v : t.Value) → Decidable (t.HasMask v)
  | .str, (s : String) => inferInstanceAs (Decidable (s = mask))
  | .optStr, (s : Option String) => inferInstanceAs (Decidable (s = some mask))
  | .strList, (ss : List String) => inferInstanceAs (Decidable (mask ∈ ss))
  | .bool, _ | .word32, _ | .int64, _ => inferInstanceAs (Decidable False)

theorem isMask_of_hasMask {t : LeafType} {v : t.Value} (ht : t ≠ .strList) (h : t.HasMask v) :
    t.isMask v = true := by
  cases t with
  | str => exact beq_iff_eq.mpr h
  | optStr => exact beq_iff_eq.mpr h
  | strList => exact absurd rfl ht
  | bool | word32 | int64 => exact h.elim

/-- The mask stands in the list beside another item. -/
def MixesMask (ss : List String) : Prop := mask ∈ ss ∧ ∃ s ∈ ss, s ≠ mask

instance (ss : List String) : Decidable (MixesMask ss) :=
  inferInstanceAs (Decidable (mask ∈ ss ∧ ∃ s ∈ ss, s ≠ mask))

theorem hasMask_strList_iff {ss : List String} (h : isMask .strList ss = false) :
    HasMask .strList ss ↔ MixesMask ss := by
  change mask ∈ ss ↔ _
  refine ⟨fun hmem => ⟨hmem, ?_⟩, And.left⟩
  -- The list is not empty, so what keeps it from being the mask is another item.
  have hne : ss.isEmpty = false := List.isEmpty_eq_false_iff.mpr (List.ne_nil_of_mem hmem)
  simpa [isMask, hne] using h

theorem not_mixesMask_of_isMask {ss : List String} (h : isMask .strList ss = true) :
    ¬MixesMask ss := by
  rintro ⟨_, s, hs, hother⟩
  simp only [isMask, Bool.and_eq_true, List.all_eq_true, beq_iff_eq] at h
  exact hother (h.2 s hs)

end LeafType

namespace Leaf

theorem mem_secrets {l : Leaf} : l ∈ secrets ↔ l.isSecret = true := by
  rw [secrets, List.mem_filter, and_iff_right l.mem_all]

theorem nodup_secrets : secrets.Nodup := nodup_all.filter _

theorem hide_toJson (d : Document) (l : Leaf) :
    hide d.toJson l = (d.set l (l.type.masked (d.get l))).toJson := by
  rw [hide, Document.find?_toJson, Option.bind_some]
  rcases LeafType.masked?_toJson (d.get l) with ⟨hnone, heq⟩ | hsome
  · rw [hnone, heq, Document.set_get_self]
  · rw [hsome]
    exact d.write_toJson l _

theorem reveal_toJson (actual d : Document) (restored : Bool) (l : Leaf) :
    reveal actual.toJson (d.toJson, restored) l =
      ((d.set l (if l.type.isMask (d.get l) then actual.get l else d.get l)).toJson,
        l.type.isMask (d.get l) || restored) := by
  have hmask : l.field.kind.isMask (l.type.toJson (d.get l)) = l.type.isMask (d.get l) :=
    LeafType.isMask_kind (d.get l)
  simp only [reveal, Document.find?_toJson, Option.any_some, hmask]
  cases l.type.isMask (d.get l) with
  | true => simp only [if_true, d.write_toJson, Bool.true_or]
  | false => simp only [Bool.false_eq_true, if_false, Document.set_get_self, Bool.false_or]

end Leaf

theorem foldl_or {α : Type} (p : α → Bool) (xs : List α) (b : Bool) :
    xs.foldl (fun b x => p x || b) b = (xs.any p || b) := by
  induction xs generalizing b with
  | nil => rfl
  | cons x xs ih => rw [List.foldl_cons, ih, List.any_cons, Bool.or_left_comm, Bool.or_assoc]

namespace Document

theorem foldl_hide (d : Document) : Leaf.secrets.foldl Leaf.hide d.toJson =
    (setAll (fun l => l.type.masked (d.get l)) d Leaf.secrets).toJson :=
  foldl_toJson_eq (fun l v => l.type.masked v) Leaf.hide_toJson Leaf.nodup_secrets d

theorem masked_eq (d : Document) :
    d.masked = setAll (fun l => l.type.masked (d.get l)) d Leaf.secrets := by
  unfold masked
  rw [foldl_hide, ofJson_toJson]

@[simp] theorem get_masked (d : Document) (l : Leaf) :
    d.masked.get l = if l.isSecret then l.type.masked (d.get l) else d.get l := by
  rw [masked_eq, get_setAll]
  exact if_congr Leaf.mem_secrets rfl rfl

theorem foldl_reveal (d actual : Document) :
    Leaf.secrets.foldl (Leaf.reveal actual.toJson) (d.toJson, false) =
      ((setAll (fun l => if l.type.isMask (d.get l) then actual.get l else d.get l) d
        Leaf.secrets).toJson, Leaf.secrets.any fun l => l.type.isMask (d.get l)) := by
  have hfold := foldl_eq_setAll (fun d b => (d.toJson, b))
    (fun l v => if l.type.isMask v then actual.get l else v) (fun l v b => l.type.isMask v || b)
    (Leaf.reveal_toJson actual) Leaf.nodup_secrets d false
  rw [foldl_or, Bool.or_false] at hfold
  exact hfold

theorem unmask_eq (d actual : Document) :
    d.unmask actual =
      setAll (fun l => if l.type.isMask (d.get l) then actual.get l else d.get l) d
        Leaf.secrets := by
  unfold unmask
  rw [foldl_reveal]
  simp only [ofJson_toJson]
  cases hany : Leaf.secrets.any fun l => l.type.isMask (d.get l) with
  | true => rw [if_pos rfl]
  | false =>
      -- No mask was found, so nothing was put back.
      rw [if_neg Bool.false_ne_true]
      apply ext_get
      intro l
      rw [get_setAll]
      split
      · next hl =>
          rw [List.any_eq_false] at hany
          rw [if_neg (hany l hl)]
      · rfl

@[simp] theorem get_unmask (d actual : Document) (l : Leaf) :
    (d.unmask actual).get l =
      if l.isSecret && l.type.isMask (d.get l) then actual.get l else d.get l := by
  rw [unmask_eq, get_setAll]
  by_cases hsecret : l.isSecret = true
  · rw [if_pos (Leaf.mem_secrets.mpr hsecret), hsecret, Bool.true_and]
  · rw [if_neg fun hl => hsecret (Leaf.mem_secrets.mp hl), Bool.eq_false_iff.mpr hsecret,
      Bool.false_and, if_neg Bool.false_ne_true]

/-- A document that shows the secrets of another one as masks gets them, whatever its other settings
are, which it keeps. -/
theorem get_unmask_of_shown {d actual : Document}
    (h : ∀ l : Leaf, l.isSecret = true → d.get l = actual.masked.get l) (l : Leaf) :
    (d.unmask actual).get l = if l.isSecret then actual.get l else d.get l := by
  rw [get_unmask]
  by_cases hsecret : l.isSecret = true
  · rw [hsecret, Bool.true_and, if_pos rfl, h l hsecret, get_masked, if_pos hsecret]
    cases hmask : l.type.isMask (l.type.masked (actual.get l)) with
    | true => rw [if_pos rfl]
    | false => rw [if_neg Bool.false_ne_true, LeafType.masked_eq_of_not_isMask hmask]
  · rw [Bool.eq_false_iff.mpr hsecret, Bool.false_and, if_neg Bool.false_ne_true]

theorem unmask_masked (d : Document) : d.masked.unmask d = d := by
  apply ext_get
  intro l
  rw [get_unmask_of_shown fun _ _ => rfl]
  split
  · rfl
  · next hsecret => rw [get_masked, if_neg hsecret]

theorem unmask_unmask (d actual : Document) :
    (d.unmask actual).unmask actual = d.unmask actual := by
  apply ext_get
  intro l
  rw [get_unmask, get_unmask]
  split
  · split <;> rfl
  · rfl

/-- Masking hides the secrets and nothing else. They come back exactly where a document shows their
masks, and unmasking does nothing else to a document. -/
theorem masking_reversible :
    (∀ (actual : Document) (l : Leaf), actual.masked.get l =
      if l.isSecret then l.type.masked (actual.get l) else actual.get l) ∧
    (∀ actual d : Document,
      (∀ l : Leaf, l.isSecret = true → d.get l = actual.masked.get l) →
      ∀ l : Leaf, (d.unmask actual).get l = if l.isSecret then actual.get l else d.get l) ∧
    (∀ actual : Document, actual.masked.unmask actual = actual) ∧
    ∀ actual d : Document,
      (∀ l : Leaf, l.isSecret = false → (d.unmask actual).get l = d.get l) ∧
      (d.unmask actual).unmask actual = d.unmask actual :=
  ⟨get_masked, fun _ _ => get_unmask_of_shown, unmask_masked, fun actual d =>
    ⟨fun l hl => by rw [get_unmask, hl, Bool.false_and, if_neg Bool.false_ne_true],
      d.unmask_unmask actual⟩⟩

/-- A client has changed the address of the site in a masked document. Among its secrets are one
that is not set, an empty one, one that is the mask and a list with an empty item. -/
theorem masking_reversible_edited :
    let actual : Document := {
      sql.dataSourceReplicas := ["postgres://replica", ""]
      files.publicLinkSalt := some mask }
    let address : Leaf.siteUrl.type.Value := "https://example.com"
    let d := actual.masked.set .siteUrl address
    (∀ l : Leaf, l.isSecret = true → d.get l = actual.masked.get l) ∧
      d.unmask actual = actual.set .siteUrl address := by
  intro actual address d
  have hother {l : Leaf} (hl : l ≠ .siteUrl) : d.get l = actual.masked.get l :=
    get_set_of_ne hl actual.masked address
  have hshown : ∀ l : Leaf, l.isSecret = true → d.get l = actual.masked.get l := by
    intro l hsecret
    refine hother ?_
    rintro rfl
    cases hsecret
  refine ⟨hshown, ext_get fun l => ?_⟩
  rw [masking_reversible.2.1 actual d hshown l]
  by_cases hl : l = .siteUrl
  · subst hl
    exact (get_set_self actual.masked _ address).trans (get_set_self actual _ address).symm
  · rw [hother hl, get_set_of_ne hl, get_masked]
    cases l.isSecret <;> rfl

/-! ## Masks that are left -/

/-- A secret is the mask, or has it among its items. -/
def HasMask (d : Document) : Prop := ∃ l : Leaf, l.isSecret = true ∧ l.type.HasMask (d.get l)

instance (d : Document) : Decidable d.HasMask :=
  decidable_of_iff (∃ l ∈ Leaf.all, l.isSecret = true ∧ l.type.HasMask (d.get l))
    (exists_congr fun l => and_iff_right (Leaf.mem_all l))

/-- No mask is left in a secret, unless it is a list with another item. -/
theorem hasMask_get_unmask_iff {d actual : Document} (h : ¬actual.HasMask) {l : Leaf}
    (hsecret : l.isSecret = true) : l.type.HasMask ((d.unmask actual).get l) ↔
      l = .dataSourceReplicas ∧ LeafType.MixesMask d.sql.dataSourceReplicas := by
  have hactual : ¬l.type.HasMask (actual.get l) := fun hmask => h ⟨l, hsecret, hmask⟩
  rw [get_unmask, hsecret, Bool.true_and]
  by_cases hl : l = .dataSourceReplicas
  · subst hl
    rw [and_iff_right rfl]
    cases hmask : Leaf.dataSourceReplicas.type.isMask (d.get .dataSourceReplicas) with
    | true => exact iff_of_false hactual (LeafType.not_mixesMask_of_isMask hmask)
    | false => exact LeafType.hasMask_strList_iff hmask
  · refine iff_of_false ?_ fun hboth => hl hboth.1
    split
    · exact hactual
    · next hmask =>
        exact fun hhas => hmask (LeafType.isMask_of_hasMask (Leaf.type_ne_strList hl hsecret) hhas)

end Document

end SettingsStore
