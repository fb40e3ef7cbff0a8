import SettingsStore.Document.Decode
import SettingsStore.Proofs.Json.Token

/-!
# Values that were printed

A text is read as a tree if a pass that expects a value there goes on behind it with this tree,
whatever is open and whatever follows. The layout with lines is read as the tree of the value that
was printed, so long as its numbers are integers that fit into 64 bits.
-/

namespace SettingsStore.Json

open Text

/-! ## One pass -/

/-- How a pass goes on after a step with some frames open. -/
def Step.resume (stack : List Frame) (s : List UInt8) : Step → Source
  | .go expect stack => build expect stack s
  | .complete t => ⟨t, (next? s).isSome⟩
  | .stop ending => ⟨abandon ending stack, false⟩

theorem build_of_some {s r : List UInt8} {token : Token} (h : next? s = some (token, r))
    (expect : Expect) (stack : List Frame) :
    build expect stack s = (step expect stack token).resume stack r := by
  rw [build]
  split
  · next hnone =>
      rw [h] at hnone
      cases hnone
  · next token' r' hsome =>
      rw [h] at hsome
      cases hsome
      cases hstep : step expect stack token <;> rfl

theorem build_congr {s s' : List UInt8} (h : next? s = next? s') (expect : Expect)
    (stack : List Frame) : build expect stack s = build expect stack s' := by
  cases hs : next? s' with
  | none =>
      have hnone : ∀ u : List UInt8, next? u = none →
          build expect stack u = ⟨abandon (endOf expect) stack, false⟩ := by
        intro u hu
        rw [build]
        split
        · rfl
        · next hsome =>
            rw [hu] at hsome
            cases hsome
      rw [hnone s (h.trans hs), hnone s' hs]
  | some p =>
      obtain ⟨token, r⟩ := p
      rw [build_of_some (h.trans hs), build_of_some hs]

/-- How a pass goes on with a value in its innermost frame. -/
def conclude (t : Tree) (stack : List Frame) (s : List UInt8) : Source :=
  match stack with
  | [] => ⟨t, (next? s).isSome⟩
  | f :: fs => build f.after (f.add t :: fs) s

theorem resume_ofValue (t : Tree) (stack stack' : List Frame) (s : List UInt8) :
    (Step.ofValue t stack).resume stack' s = conclude t stack s := by
  cases stack <;> rfl

/-- Where a value may come. -/
def Expect.TakesValue (e : Expect) : Prop := e = .value ∨ e = .firstItem ∨ e = .nextItem

theorem step_of_takesValue {e : Expect} (h : e.TakesValue) (stack : List Frame) {token : Token}
    (htoken : token ≠ .closeList) : step e stack token = stepValue stack token := by
  rcases h with rfl | rfl | rfl
  · rfl
  · cases token <;> first | rfl | contradiction
  · cases token <;> first | rfl | contradiction

/-! ## Texts that are read -/

/-- A text is read as a tree. -/
def ReadAs (text : String) (t : Tree) : Prop :=
  ∀ (e : Expect) (stack : List Frame) (s : List UInt8), e.TakesValue → EndsNumber s →
    build e stack (bytesOf text ++ s) = conclude t stack s

theorem readAs_of_next? {text : String} {t : Tree} (token : Token) (hne : token ≠ .closeList)
    (hstep : ∀ stack, stepValue stack token = Step.ofValue t stack)
    (h : ∀ s, EndsNumber s → next? (bytesOf text ++ s) = some (token, s)) : ReadAs text t := by
  intro e stack s he hs
  rw [build_of_some (h s hs), step_of_takesValue he stack hne, hstep, resume_ofValue]

theorem readAs_null : ReadAs "null" (.literal .null) :=
  readAs_of_next? (.literal .null) (by intro h; cases h) (fun _ => rfl) fun _ _ => rfl

theorem readAs_bool (b : Bool) : ReadAs (if b then "true" else "false") (.literal (.bool b)) := by
  cases b with
  | false =>
      exact readAs_of_next? (.literal (.bool false)) (by intro h; cases h) (fun _ => rfl)
        fun _ _ => rfl
  | true =>
      exact readAs_of_next? (.literal (.bool true)) (by intro h; cases h) (fun _ => rfl)
        fun _ _ => rfl

theorem readAs_str (text : String) : ReadAs (stringText text) (.str (.ok text)) :=
  readAs_of_next? (.str (.ok text)) (by intro h; cases h) (fun _ => rfl)
    fun s _ => next?_stringText text s

theorem readAs_int {z : Int} (hz : FitsWord z) : ReadAs (toString z) (.num (.ok (.int z))) :=
  readAs_of_next? (.num (.ok (.int z))) (by intro h; cases h) (fun _ => rfl)
    fun _ hs => next?_intText hz hs

/-! ## Blanks and marks -/

theorem next?_newline (depth : Nat) (s : List UInt8) :
    next? (bytesOf (newline depth) ++ s) = next? s := by
  have hspaces : ∀ n : Nat, next? (bytesOf (String.ofList (List.replicate n ' ')) ++ s) =
      next? s := by
    intro n
    induction n with
    | zero => rfl
    | succ n ih =>
        rw [bytesOf_ofList] at ih ⊢
        rw [List.replicate_succ, List.flatMap_cons]
        exact ih
  rw [newline, bytesOf_append]
  exact hspaces (2 * depth)

theorem endsNumber_newline (depth : Nat) (s : List UInt8) :
    EndsNumber (bytesOf (newline depth) ++ s) := by
  rw [newline, bytesOf_append]
  exact ⟨rfl, by decide, by decide, by decide⟩

theorem endsNumber_comma (s : List UInt8) : EndsNumber (bytesOf "," ++ s) :=
  ⟨rfl, by decide, by decide, by decide⟩

/-! ## Lists -/

theorem endsNumber_prettyItems (depth : Nat) (xs : List Json) (s : List UInt8) :
    EndsNumber (bytesOf (prettyItems depth xs) ++ s) := by
  cases xs with
  | nil =>
      rw [prettyItems, bytesOf_append, List.append_assoc]
      exact endsNumber_newline depth _
  | cons x xs =>
      simp only [prettyItems, bytesOf_append, List.append_assoc]
      exact endsNumber_comma _

theorem build_prettyItems {depth : Nat} {xs : List Json}
    (hxs : ∀ x ∈ xs, ReadAs (prettyAt (depth + 1) x) x.toTree) (ts : List Tree)
    (stack : List Frame) (s : List UInt8) :
    build .listEnd (.list ts :: stack) (bytesOf (prettyItems depth xs) ++ s) =
      conclude (.list (ts.reverse ++ treesOfItems xs) none) stack s := by
  induction xs generalizing ts with
  | nil =>
      have hnext : next? (bytesOf (prettyItems depth []) ++ s) = some (.closeList, s) := by
        rw [prettyItems, bytesOf_append, List.append_assoc, next?_newline]
        rfl
      rw [build_of_some hnext, treesOfItems, List.append_nil]
      exact resume_ofValue _ stack _ s
  | cons x xs ih =>
      have hrest := ih (fun y hy => hxs y (List.mem_cons_of_mem x hy)) (x.toTree :: ts)
      have hx := hxs x List.mem_cons_self .nextItem (.list ts :: stack) _ (Or.inr (Or.inr rfl))
        (endsNumber_prettyItems depth xs s)
      have hnext : next? (bytesOf (prettyItems depth (x :: xs)) ++ s) =
          some (.comma, bytesOf (newline (depth + 1)) ++
            (bytesOf (prettyAt (depth + 1) x) ++ (bytesOf (prettyItems depth xs) ++ s))) := by
        simp only [prettyItems, bytesOf_append, List.append_assoc]
        rfl
      rw [build_of_some hnext]
      change build .nextItem (.list ts :: stack) _ = _
      rw [build_congr (next?_newline _ _), hx]
      change build .listEnd (.list (x.toTree :: ts) :: stack) _ = _
      rw [hrest, List.reverse_cons, List.append_assoc]
      rfl

theorem readAs_arr {depth : Nat} {xs : List Json}
    (hxs : ∀ x ∈ xs, ReadAs (prettyAt (depth + 1) x) x.toTree) :
    ReadAs (prettyAt depth (.arr xs)) (Json.arr xs).toTree := by
  intro e stack s he hs
  cases xs with
  | nil =>
      have hnext : next? (bytesOf (prettyAt depth (.arr [])) ++ s) = some (.openList, 93 :: s) := by
        rfl
      rw [build_of_some hnext, step_of_takesValue he stack (by intro h; cases h)]
      change build .firstItem (.list [] :: stack) (93 :: s) = _
      have hclose : next? (93 :: s) = some (.closeList, s) := rfl
      rw [build_of_some hclose]
      exact resume_ofValue _ stack _ s
  | cons x xs =>
      have hx := hxs x List.mem_cons_self .firstItem (.list [] :: stack) _ (Or.inr (Or.inl rfl))
        (endsNumber_prettyItems depth xs s)
      have hrest := build_prettyItems (fun y hy => hxs y (List.mem_cons_of_mem x hy)) [x.toTree]
        stack s
      have hnext : next? (bytesOf (prettyAt depth (.arr (x :: xs))) ++ s) =
          some (.openList, bytesOf (newline (depth + 1)) ++
            (bytesOf (prettyAt (depth + 1) x) ++ (bytesOf (prettyItems depth xs) ++ s))) := by
        simp only [prettyAt, bytesOf_append, List.append_assoc]
        rfl
      rw [build_of_some hnext, step_of_takesValue he stack (by intro h; cases h)]
      change build .firstItem (.list [] :: stack) _ = _
      rw [build_congr (next?_newline _ _), hx]
      exact hrest

/-! ## Objects -/

theorem build_member {e : Expect} (he : e = .firstKey ∨ e = .nextKey) {text : String} {t : Tree}
    (ht : ReadAs text t) (key : String) (ms : List (Key × Tree)) (stack : List Frame)
    {s : List UInt8} (hs : EndsNumber s) :
    build e (.object ms none :: stack)
        (bytesOf (stringText key) ++ (bytesOf ": " ++ (bytesOf text ++ s))) =
      build .objectEnd (.object ((.ok key, t) :: ms) none :: stack) s := by
  have hkey : step e (.object ms none :: stack) (.str (.ok key)) =
      .go .colon (.object ms (some (.ok key)) :: stack) := by
    rcases he with rfl | rfl <;> rfl
  have hcolon : next? (58 :: 32 :: (bytesOf text ++ s)) =
      some (.colon, 32 :: (bytesOf text ++ s)) := rfl
  have hblank : next? (32 :: (bytesOf text ++ s)) = next? (bytesOf text ++ s) := rfl
  rw [build_of_some (next?_stringText key _), hkey]
  change build .colon (.object ms (some (.ok key)) :: stack) (58 :: 32 :: (bytesOf text ++ s)) = _
  rw [build_of_some hcolon]
  change build .value (.object ms (some (.ok key)) :: stack) _ = _
  rw [build_congr hblank, ht .value _ s (Or.inl rfl) hs]
  rfl

theorem endsNumber_prettyMembers (depth : Nat) (ms : List (String × Json)) (s : List UInt8) :
    EndsNumber (bytesOf (prettyMembers depth ms) ++ s) := by
  cases ms with
  | nil =>
      rw [prettyMembers, bytesOf_append, List.append_assoc]
      exact endsNumber_newline depth _
  | cons m ms =>
      simp only [prettyMembers, bytesOf_append, List.append_assoc]
      exact endsNumber_comma _

theorem build_prettyMembers {depth : Nat} {ms : List (String × Json)}
    (hms : ∀ m ∈ ms, ReadAs (prettyAt (depth + 1) m.2) m.2.toTree) (ts : List (Key × Tree))
    (stack : List Frame) (s : List UInt8) :
    build .objectEnd (.object ts none :: stack) (bytesOf (prettyMembers depth ms) ++ s) =
      conclude (.object (ts.reverse ++ treesOfMembers ms) none) stack s := by
  induction ms generalizing ts with
  | nil =>
      have hnext : next? (bytesOf (prettyMembers depth []) ++ s) = some (.closeObject, s) := by
        rw [prettyMembers, bytesOf_append, List.append_assoc, next?_newline]
        rfl
      rw [build_of_some hnext, treesOfMembers, List.append_nil]
      exact resume_ofValue _ stack _ s
  | cons m ms ih =>
      have hrest := ih (fun n hn => hms n (List.mem_cons_of_mem m hn)) ((.ok m.1, m.2.toTree) :: ts)
      have hm := build_member (Or.inr rfl) (hms m List.mem_cons_self) m.1 ts stack
        (endsNumber_prettyMembers depth ms s)
      have hnext : next? (bytesOf (prettyMembers depth (m :: ms)) ++ s) =
          some (.comma, bytesOf (newline (depth + 1)) ++ (bytesOf (stringText m.1) ++
            (bytesOf ": " ++ (bytesOf (prettyAt (depth + 1) m.2) ++
              (bytesOf (prettyMembers depth ms) ++ s))))) := by
        simp only [prettyMembers, bytesOf_append, List.append_assoc]
        rfl
      rw [build_of_some hnext]
      change build .nextKey (.object ts none :: stack) _ = _
      rw [build_congr (next?_newline _ _), hm, hrest, List.reverse_cons, List.append_assoc]
      rfl

theorem readAs_obj {depth : Nat} {ms : List (String × Json)}
    (hms : ∀ m ∈ ms, ReadAs (prettyAt (depth + 1) m.2) m.2.toTree) :
    ReadAs (prettyAt depth (.obj ms)) (Json.obj ms).toTree := by
  intro e stack s he hs
  cases ms with
  | nil =>
      have hnext : next? (bytesOf (prettyAt depth (.obj [])) ++ s) =
          some (.openObject, 125 :: s) := by
        rfl
      rw [build_of_some hnext, step_of_takesValue he stack (by intro h; cases h)]
      change build .firstKey (.object [] none :: stack) (125 :: s) = _
      have hclose : next? (125 :: s) = some (.closeObject, s) := rfl
      rw [build_of_some hclose]
      exact resume_ofValue _ stack _ s
  | cons m ms =>
      have hm := build_member (Or.inl rfl) (hms m List.mem_cons_self) m.1 [] stack
        (endsNumber_prettyMembers depth ms s)
      have hrest := build_prettyMembers (fun n hn => hms n (List.mem_cons_of_mem m hn))
        [(.ok m.1, m.2.toTree)] stack s
      have hnext : next? (bytesOf (prettyAt depth (.obj (m :: ms))) ++ s) =
          some (.openObject, bytesOf (newline (depth + 1)) ++ (bytesOf (stringText m.1) ++
            (bytesOf ": " ++ (bytesOf (prettyAt (depth + 1) m.2) ++
              (bytesOf (prettyMembers depth ms) ++ s))))) := by
        simp only [prettyAt, bytesOf_append, List.append_assoc]
        rfl
      rw [build_of_some hnext, step_of_takesValue he stack (by intro h; cases h)]
      change build .firstKey (.object [] none :: stack) _ = _
      rw [build_congr (next?_newline _ _), hm]
      exact hrest

theorem ReadAs.ofBytes {text : String} {t : Tree} (h : ReadAs text t) :
    Source.ofBytes text.toUTF8 = ⟨t, false⟩ := by
  have hbuild := h .value [] [] (Or.inl rfl) trivial
  rw [List.append_nil] at hbuild
  exact hbuild

end SettingsStore.Json
