import SettingsStore.Json.Token

/-!
# Syntax trees of JSON text

The tree of a text is built by one pass over its tokens with a stack of open lists and objects.
It exists for every text: where the syntax breaks, the tree stops, and the list or object that was
open there says why. Whoever walks a tree in the order of the text meets its first fault first.

Members stand in the order of the text, repeated keys included.
-/

namespace SettingsStore.Json

/-- Why a list or an object was not closed. `closing` is the fault for a reader that has all the
items it wants and only looks for the end. -/
structure Stop where
  reading : SyntaxFault
  skipping : SyntaxFault
  closing : SyntaxFault
deriving DecidableEq, Repr

def Stop.ofBreak (b : Break) : Stop := ⟨b.reading, b.skipping, .trailingCharacters⟩

def Stop.all (fault : SyntaxFault) : Stop := ⟨fault, fault, fault⟩

abbrev Key := Except SyntaxFault String

inductive Tree where
  | literal (value : Literal)
  | num (value : Except SyntaxFault Number)
  | str (value : Except SyntaxFault String)
  | list (items : List Tree) (stop : Option Stop)
  | object (members : List (Key × Tree)) (stop : Option Stop)
  | broken (cause : Break)

/-- A list or object that is still open, its parts last first. An object holds the key whose value
is to come. -/
inductive Frame where
  | list (items : List Tree)
  | object (members : List (Key × Tree)) (key : Option Key)

/-- What may come next. -/
inductive Expect where
  | value
  | firstItem
  | nextItem
  | listEnd
  | firstKey
  | nextKey
  | colon
  | objectEnd
deriving DecidableEq, Repr

/-- Where the text stops: with a value that broke off, or between values. -/
inductive Ending where
  | value (cause : Break)
  | between (stop : Stop)

def Ending.stop : Ending → Stop
  | .value cause => .ofBreak cause
  | .between stop => stop

namespace Frame

/-- The frame closed, for good or by a stop. -/
def close (stop : Option Stop) : Frame → Tree
  | .list items => .list items.reverse stop
  | .object members _ => .object members.reverse stop

/-- The frame with a complete value in it. -/
def add (t : Tree) : Frame → Frame
  | .list items => .list (t :: items)
  | .object members (some key) => .object ((key, t) :: members) none
  | .object members none => .object members none

/-- What may follow a value in the frame. -/
def after : Frame → Expect
  | .list _ => .listEnd
  | .object _ _ => .objectEnd

end Frame

/-- All open frames closed around a tree. -/
def unwind (stop : Stop) (t : Tree) : List Frame → Tree
  | [] => t
  | f :: fs => unwind stop ((f.add t).close (some stop)) fs

/-- The tree of a text that ends here. -/
def abandon (ending : Ending) (stack : List Frame) : Tree :=
  match ending, stack with
  | .value cause, fs => unwind (.ofBreak cause) (.broken cause) fs
  | .between stop, f :: fs => unwind stop (f.close (some stop)) fs
  | .between stop, [] => .broken ⟨stop.reading, stop.skipping⟩

inductive Step where
  | go (expect : Expect) (stack : List Frame)
  | complete (t : Tree)
  | stop (ending : Ending)

def Step.ofValue (t : Tree) : List Frame → Step
  | [] => .complete t
  | f :: fs => .go f.after (f.add t :: fs)

/-- The innermost frame becomes a value. -/
def Step.ofClose : List Frame → Step
  | [] => .stop (.between (.all .expectedValue))
  | f :: fs => .ofValue (f.close none) fs

def stepValue (stack : List Frame) : Token → Step
  | .openObject => .go .firstKey (.object [] none :: stack)
  | .openList => .go .firstItem (.list [] :: stack)
  | .literal v => .ofValue (.literal v) stack
  | .num v => .ofValue (.num v) stack
  | .str v => .ofValue (.str v) stack
  | .broken cause | .brokenStr cause => .stop (.value cause)
  | .closeObject | .closeList | .comma | .colon | .other => .stop (.value (.both .expectedValue))

/-- A key, in an object that may not be closed here with `atClose` as the fault. -/
def stepKey (stack : List Frame) (atClose : Option Stop) : Token → Step
  | .str key => match stack with
    | .object members _ :: fs => .go .colon (.object members (some key) :: fs)
    | fs => .go .colon fs
  | .brokenStr cause => .stop (.between (.ofBreak cause))
  | .closeObject => match atClose with
    | none => .ofClose stack
    | some stop => .stop (.between stop)
  | _ => .stop (.between (.all .keyNotString))

def step (expect : Expect) (stack : List Frame) (token : Token) : Step :=
  match expect, token with
  | .value, t => stepValue stack t
  | .firstItem, .closeList => .ofClose stack
  | .firstItem, t => stepValue stack t
  | .nextItem, .closeList =>
    .stop (.between ⟨.trailingComma, .expectedValue, .trailingComma⟩)
  | .nextItem, t => stepValue stack t
  | .listEnd, .comma => .go .nextItem stack
  | .listEnd, .closeList => .ofClose stack
  | .listEnd, _ => .stop (.between ⟨.expectedListEnd, .expectedListEnd, .trailingCharacters⟩)
  | .firstKey, t => stepKey stack none t
  | .nextKey, t => stepKey stack (some ⟨.trailingComma, .keyNotString, .trailingComma⟩) t
  | .colon, .colon => .go .value stack
  | .colon, _ => .stop (.value (.both .expectedColon))
  | .objectEnd, .comma => .go .nextKey stack
  | .objectEnd, .closeObject => .ofClose stack
  | .objectEnd, _ => .stop (.between (.all .expectedObjectEnd))

/-- The fault of a text that ends where something should follow. -/
def endOf : Expect → Ending
  | .value => .value (.both .endInValue)
  | .firstItem | .listEnd => .between (.all .endInList)
  | .nextItem => .between ⟨.endInValue, .endInValue, .trailingCharacters⟩
  | .firstKey | .objectEnd => .between (.all .endInObject)
  | .nextKey => .between ⟨.endInValue, .endInObject, .endInObject⟩
  | .colon => .value (.both .endInObject)

/-! ## Tokens shorten the text -/

theorem length_digits_le (s : List UInt8) : (digits s).2.length ≤ s.length := by
  exact (List.dropWhile_sublist _).length_le

theorem length_scanExponent_le {n n' : Numeral} {s r : List UInt8}
    (h : scanExponent n s = .ok (n', r)) : r.length ≤ s.length := by
  unfold scanExponent at h
  split at h
  · cases h; simp
  · next b t =>
    split at h
    · split at h
      next down u hu =>
      have hl : u.length ≤ t.length := by
        split at hu <;> cases hu <;> simp
      have hd := length_digits_le u
      split at h
      · cases h
      · next ds v _ hv =>
        cases h
        simp only [hv, List.length_cons] at hd ⊢
        omega
    · cases h; simp

theorem length_scanFraction_le {n n' : Numeral} {s r : List UInt8}
    (h : scanFraction n s = .ok (n', r)) : r.length ≤ s.length := by
  unfold scanFraction at h
  split at h
  · next t =>
    have hd := length_digits_le t
    split at h
    · cases h
    · next ds v _ hv =>
      have := length_scanExponent_le h
      simp only [hv, List.length_cons] at hd ⊢
      omega
  · exact length_scanExponent_le h

theorem length_scanNumber_le {negative : Bool} {n : Numeral} {s r : List UInt8}
    (h : scanNumber negative s = .ok (n, r)) : r.length ≤ s.length := by
  unfold scanNumber at h
  have hd := length_digits_le s
  split at h
  · cases h
  · cases h
  · next ds v _ _ hv =>
    have := length_scanFraction_le h
    simp only [hv] at hd
    omega

theorem length_scanNumber_lt {negative : Bool} {n : Numeral} {b : UInt8} {s r : List UInt8}
    (hb : isDigit b = true) (h : scanNumber negative (b :: s) = .ok (n, r)) :
    r.length < (b :: s).length := by
  have hd : (digits (b :: s)).2.length ≤ s.length := by
    simp only [digits, List.dropWhile_cons, hb, if_true]
    exact (List.dropWhile_sublist _).length_le
  unfold scanNumber at h
  split at h
  · cases h
  · cases h
  · next ds v _ _ hv =>
    have := length_scanFraction_le h
    simp only [hv, List.length_cons] at hd ⊢
    omega

theorem length_scanString_lt {p : Except SyntaxFault Partial} {s r : List UInt8}
    {v : Except SyntaxFault String} (h : scanString p s = .ok (v, r)) : r.length < s.length := by
  fun_induction scanString p s with
  | case1 => cases h
  | case2 => cases h; simp
  | case3 => cases h
  | case4 p a b c d s n hn ih => have := ih h; simp only [List.length_cons]; omega
  | case5 => cases h
  | case6 => cases h
  | case7 p b s _ _ e he ih => have := ih h; simp only [List.length_cons]; omega
  | case8 => cases h
  | case9 => cases h
  | case10 => next ih => have := ih h; simp only [List.length_cons]; omega

theorem length_scanWord_le {w s r : List UInt8} (h : scanWord w s = .ok r) :
    r.length ≤ s.length := by
  fun_induction scanWord w s with
  | case1 => cases h; simp
  | case2 => cases h
  | case3 ws b s ih => have := ih h; simp only [List.length_cons]; omega
  | case4 => cases h

theorem length_wordToken_le (w : List UInt8) (v : Literal) (s : List UInt8) :
    (wordToken w v s).2.length ≤ s.length := by
  unfold wordToken
  split
  · next r h => exact length_scanWord_le h
  · simp

theorem length_stringToken_le (s : List UInt8) : (stringToken s).2.length ≤ s.length := by
  unfold stringToken
  split
  · next v r h => exact Nat.le_of_lt (length_scanString_lt h)
  · simp

theorem length_numberToken_le (negative : Bool) (s : List UInt8) :
    (numberToken negative s).2.length ≤ s.length := by
  unfold numberToken
  split
  · next n r h => exact length_scanNumber_le h
  · simp

theorem length_numberToken_lt (negative : Bool) {b : UInt8} (hb : isDigit b = true)
    (s : List UInt8) : (numberToken negative (b :: s)).2.length ≤ s.length := by
  unfold numberToken
  split
  · next n r h => exact Nat.le_of_lt_succ (length_scanNumber_lt hb h)
  · simp

theorem length_tokenAt_le (b : UInt8) (s : List UInt8) : (tokenAt b s).2.length ≤ s.length := by
  unfold tokenAt
  split
  · exact Nat.le_refl _
  · exact length_wordToken_le _ _ _
  · split
    · exact length_stringToken_le s
    · split
      · exact length_numberToken_le _ s
      · split
        · next hb => exact length_numberToken_lt _ hb s
        · exact Nat.le_refl _

theorem length_next?_lt {s r : List UInt8} {t : Token} (h : next? s = some (t, r)) :
    r.length < s.length := by
  induction s with
  | nil => cases h
  | cons b s ih =>
    unfold next? at h
    split at h
    · have := ih h
      simp only [List.length_cons]; omega
    · have := congrArg (·.2.length) (Option.some.inj h)
      exact Nat.lt_succ_of_le (this ▸ length_tokenAt_le b s)

/-! ## Texts -/

/-- A text read as one value: its tree, and whether anything follows the value. -/
structure Source where
  root : Tree
  trailing : Bool

def build (expect : Expect) (stack : List Frame) (s : List UInt8) : Source :=
  match h : next? s with
  | none => ⟨abandon (endOf expect) stack, false⟩
  | some (token, rest) =>
    match step expect stack token with
    | .go expect stack =>
      have := length_next?_lt h
      build expect stack rest
    | .complete t => ⟨t, (next? rest).isSome⟩
    | .stop ending => ⟨abandon ending stack, false⟩
termination_by s.length

def Source.ofBytes (bs : Bytes) : Source := build .value [] bs.data.toList

end SettingsStore.Json
