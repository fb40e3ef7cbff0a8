import SettingsStore.Decimal.Power

/-!
# Scalars of TOML

Strings, numbers and dates, each read off the front of a text. A reader returns what it has read and
the rest, or `none`.
-/

namespace SettingsStore.Toml

abbrev Rest := List Char

/-- A value that has no parts. Of a float only that it is one is kept, and of a date its text. -/
inductive Scalar where
  | str (s : String)
  | int (n : Int)
  | float
  | bool (b : Bool)
  | date (text : String)
deriving DecidableEq, Repr

def isSpace (c : Char) : Bool := c == ' ' || c == '\t'

def skipSpace (s : Rest) : Rest := s.dropWhile isSpace

/-- A line end, if the text begins with one. -/
def newline? : Rest → Option Rest
  | '\n' :: s => some s
  | '\r' :: '\n' :: s => some s
  | _ => none

/-- Characters that may stand in comments: no controls but tabs. -/
def isPlain (c : Char) : Bool := c == '\t' || (32 ≤ c.toNat && c.toNat ≠ 127)

/-- A text with what must stand in front of it taken off. -/
def expect? : List Char → Rest → Option Rest
  | [], s => some s
  | c :: cs, d :: s => if c = d then expect? cs s else none
  | _ :: _, [] => none

/-! ## Strings -/

def hexDigit? (c : Char) : Option Nat :=
  if '0' ≤ c ∧ c ≤ '9' then some (c.toNat - 48)
  else if 'a' ≤ c ∧ c ≤ 'f' then some (c.toNat - 87)
  else if 'A' ≤ c ∧ c ≤ 'F' then some (c.toNat - 55)
  else none

/-- A character from its code point in hexadecimal digits. -/
def codePoint? (ds : List Char) : Option Char := do
  let n := (← ds.mapM hexDigit?).foldl (fun n d => n * 16 + d) 0
  if n < 0xD800 ∨ (0xDFFF < n ∧ n < 0x110000) then some (Char.ofNat n) else none

/-- The character after a backslash. -/
def escape? : Rest → Option (Char × Rest)
  | '"' :: s => some ('"', s)
  | '\\' :: s => some ('\\', s)
  | 'b' :: s => some (Char.ofNat 8, s)
  | 'f' :: s => some (Char.ofNat 12, s)
  | 'n' :: s => some ('\n', s)
  | 'r' :: s => some ('\r', s)
  | 't' :: s => some ('\t', s)
  | 'u' :: a :: b :: c :: d :: s => (codePoint? [a, b, c, d]).map (·, s)
  | 'U' :: a :: b :: c :: d :: e :: f :: g :: h :: s =>
    (codePoint? [a, b, c, d, e, f, g, h]).map (·, s)
  | _ => none

theorem length_escape?_lt {s r : Rest} {c : Char} (h : escape? s = some (c, r)) :
    r.length < s.length := by
  unfold escape? at h
  split at h
  case h_8 =>
    obtain ⟨_, _, h⟩ := Option.map_eq_some_iff.1 h
    cases h
    simp only [List.length_cons]
    omega
  case h_9 =>
    obtain ⟨_, _, h⟩ := Option.map_eq_some_iff.1 h
    cases h
    simp only [List.length_cons]
    omega
  case h_10 => cases h
  all_goals
    cases h
    exact Nat.lt_succ_self _

/-- A string in double quotes, after the first of them. The characters so far are last first. -/
def basic? (acc : List Char) (s : Rest) : Option (String × Rest) :=
  match s with
  | [] => none
  | '"' :: s => some (String.ofList acc.reverse, s)
  | '\\' :: s => match h : escape? s with
    | some (c, r) =>
      have := length_escape?_lt h
      basic? (c :: acc) r
    | none => none
  | c :: s => if isPlain c then basic? (c :: acc) s else none
termination_by s.length
decreasing_by all_goals simp only [List.length_cons]; omega

/-- A string in single quotes, after the first of them. -/
def literal? (acc : List Char) : Rest → Option (String × Rest)
  | [] => none
  | '\'' :: s => some (String.ofList acc.reverse, s)
  | c :: s => if isPlain c then literal? (c :: acc) s else none

/-- Blanks and line ends after a backslash at the end of a line. -/
def skipFolded (s : Rest) : Option Rest :=
  (newline? (skipSpace s)).map fun r => r.dropWhile fun c => isSpace c || c == '\n' || c == '\r'

/-- A carriage return stands only in front of a line feed. -/
def returnsPaired : Rest → Bool
  | '\r' :: '\n' :: s => returnsPaired s
  | '\r' :: _ => false
  | _ :: s => returnsPaired s
  | [] => true

theorem length_newline?_lt {s r : Rest} (h : newline? s = some r) : r.length < s.length := by
  unfold newline? at h
  split at h
  · cases h; simp
  · cases h; simp only [List.length_cons]; omega
  · cases h

theorem length_skipFolded_lt {s r : Rest} (h : skipFolded s = some r) :
    r.length < s.length := by
  unfold skipFolded at h
  simp only [Option.map_eq_some_iff] at h
  obtain ⟨u, hu, rfl⟩ := h
  have h1 := length_newline?_lt hu
  have h2 := (List.dropWhile_sublist isSpace (l := s)).length_le
  have h3 := (List.dropWhile_sublist (fun c => isSpace c || c == '\n' || c == '\r')
    (l := u)).length_le
  simp only [skipSpace] at h1
  omega

/-- A string in triple double quotes, after the first three. Up to two quotes may stand before the
closing ones. -/
def multiBasic? (acc : List Char) (s : Rest) : Option (String × Rest) :=
  match s with
  | '"' :: '"' :: '"' :: '"' :: '"' :: s => some (String.ofList ('"' :: '"' :: acc).reverse, s)
  | '"' :: '"' :: '"' :: '"' :: s => some (String.ofList ('"' :: acc).reverse, s)
  | '"' :: '"' :: '"' :: s => some (String.ofList acc.reverse, s)
  | '\\' :: s => match h : escape? s with
    | some (c, r) =>
      have := length_escape?_lt h
      multiBasic? (c :: acc) r
    | none => match h : skipFolded s with
      | some r =>
        have := length_skipFolded_lt h
        if returnsPaired (s.take (s.length - r.length)) then multiBasic? acc r else none
      | none => none
  | '\n' :: s => multiBasic? ('\n' :: acc) s
  | '\r' :: '\n' :: s => multiBasic? ('\n' :: acc) s
  | c :: s => if isPlain c then multiBasic? (c :: acc) s else none
  | [] => none
termination_by s.length
decreasing_by all_goals simp only [List.length_cons]; omega

/-- A string in triple single quotes, after the first three. -/
def multiLiteral? (acc : List Char) : Rest → Option (String × Rest)
  | '\'' :: '\'' :: '\'' :: '\'' :: '\'' :: s =>
    some (String.ofList ('\'' :: '\'' :: acc).reverse, s)
  | '\'' :: '\'' :: '\'' :: '\'' :: s => some (String.ofList ('\'' :: acc).reverse, s)
  | '\'' :: '\'' :: '\'' :: s => some (String.ofList acc.reverse, s)
  | '\n' :: s => multiLiteral? ('\n' :: acc) s
  | '\r' :: '\n' :: s => multiLiteral? ('\n' :: acc) s
  | c :: s => if isPlain c then multiLiteral? (c :: acc) s else none
  | [] => none

/-- A line end directly after the opening quotes is dropped. -/
def dropNewline (s : Rest) : Rest := (newline? s).getD s

def string? : Rest → Option (String × Rest)
  | '"' :: '"' :: '"' :: s => multiBasic? [] (dropNewline s)
  | '\'' :: '\'' :: '\'' :: s => multiLiteral? [] (dropNewline s)
  | '"' :: s => basic? [] s
  | '\'' :: s => literal? [] s
  | _ => none

/-! ## Numbers -/

/-- Digits with single underscores between them: their values, and the rest. -/
def digits (digit? : Char → Option Nat) : Rest → Option (List Nat × Rest)
  | [] => none
  | c :: s => match digit? c with
    | none => none
    | some d => match s with
      | '_' :: s => (digits digit? s).map fun (ds, r) => (d :: ds, r)
      | s => match digits digit? s with
        | some (ds, r) => some (d :: ds, r)
        | none => if s.head?.any (fun c => (digit? c).isSome) then none else some ([d], s)

def radixDigit? (radix : Nat) (c : Char) : Option Nat := (hexDigit? c).filter (· < radix)

def ofDigits (radix : Nat) (ds : List Nat) : Nat := ds.foldl (fun n d => n * radix + d) 0

def int64? (n : Int) : Option Scalar :=
  if Word.isSigned64 n then some (.int n) else none

def sign : Rest → Bool × Rest
  | '-' :: s => (true, s)
  | '+' :: s => (false, s)
  | s => (false, s)

/-- Digits without a leading zero, unless zero is all of them. -/
def decimal? (s : Rest) : Option (List Nat × Rest) :=
  match s with
  | '0' :: r => some ([0], r)
  | _ => digits (radixDigit? 10) s

/-- An exponent of ten, if there is one: its sign and digits. -/
def exponent? : Rest → Option (Option (Bool × List Nat) × Rest)
  | c :: s =>
    if c = 'e' ∨ c = 'E' then
      let (down, s) := sign s
      (digits (radixDigit? 10) s).map fun (ds, r) => (some (down, ds), r)
    else some (none, c :: s)
  | [] => some (none, [])

/-- Numbers from this one on are beyond the largest double: halfway to the next power of two. -/
def overflow : Nat := Word.count 1024 - Word.count 970

/-- Digits with a point and an exponent, as a fraction, are beyond the largest double. -/
def overflows (whole fraction : List Nat) (exponent : Option (Bool × List Nat)) : Bool :=
  let n := ofDigits 10 (whole ++ fraction)
  let e : Int := match exponent with
    | none => 0
    | some (down, ds) => if down then -ofDigits 10 ds else ofDigits 10 ds
  let shift := e - fraction.length
  if n = 0 then false
  else if 0 ≤ shift then 400 < shift || overflow ≤ n * Decimal.tenTo shift.toNat
  else
    let down := (-shift).toNat
    (whole ++ fraction).length ≥ down && overflow * Decimal.tenTo down ≤ n

def special? (word : List Char) (s : Rest) : Option (Scalar × Rest) :=
  (expect? word s).map (.float, ·)

/-- A float or an integer in decimal notation. A positive float must be finite. -/
def decimalNumber? (s : Rest) : Option (Scalar × Rest) := do
  let (negative, s) := sign s
  let (whole, r) ← decimal? s
  match r with
  | '.' :: r =>
    let (fraction, r) ← digits (radixDigit? 10) r
    let (exponent, r) ← exponent? r
    if !negative && overflows whole fraction exponent then none
    return (.float, r)
  | r =>
    let (exponent, r) ← exponent? r
    match exponent with
    | none =>
      let n : Int := ofDigits 10 whole
      return (← int64? (if negative then -n else n), r)
    | some _ =>
      if !negative && overflows whole [] exponent then none
      return (.float, r)

def number? (s : Rest) : Option (Scalar × Rest) :=
  match s with
  | '0' :: 'x' :: s => do
    let (ds, r) ← digits (radixDigit? 16) s
    return (← int64? (ofDigits 16 ds), r)
  | '0' :: 'o' :: s => do
    let (ds, r) ← digits (radixDigit? 8) s
    return (← int64? (ofDigits 8 ds), r)
  | '0' :: 'b' :: s => do
    let (ds, r) ← digits (radixDigit? 2) s
    return (← int64? (ofDigits 2 ds), r)
  | s => special? "inf".toList (sign s).2 <|> special? "nan".toList (sign s).2
    <|> decimalNumber? s

/-! ## Dates and times -/

/-- A number of exactly `count` digits. -/
def fixed? (count : Nat) (s : Rest) : Option (Nat × Rest) :=
  let ds := s.take count
  if ds.length = count ∧ ds.all (·.isDigit) then
    some (ds.foldl (fun n c => n * 10 + (c.toNat - 48)) 0, s.drop count)
  else none

def isLeapYear (y : Nat) : Bool := y % 4 == 0 && (y % 100 != 0 || y % 400 == 0)

def daysIn (year month : Nat) : Nat :=
  if month = 2 then (if isLeapYear year then 29 else 28)
  else if month = 4 ∨ month = 6 ∨ month = 9 ∨ month = 11 then 30
  else 31

def date? (s : Rest) : Option Rest := do
  let (year, s) ← fixed? 4 s
  let (month, s) ← fixed? 2 (← expect? ['-'] s)
  let (day, s) ← fixed? 2 (← expect? ['-'] s)
  if 1 ≤ month ∧ month ≤ 12 ∧ 1 ≤ day ∧ day ≤ daysIn year month then some s else none

def hourMinute? (s : Rest) : Option Rest := do
  let (hour, s) ← fixed? 2 s
  let (minute, s) ← fixed? 2 (← expect? [':'] s)
  if hour ≤ 23 ∧ minute ≤ 59 then some s else none

def time? (s : Rest) : Option Rest := do
  let s ← hourMinute? s
  let (second, s) ← fixed? 2 (← expect? [':'] s)
  if 60 < second then none
  match s with
  | '.' :: s =>
    if s.head?.any (·.isDigit) then some (s.dropWhile (·.isDigit)) else none
  | s => some s

def offset? : Rest → Option Rest
  | 'Z' :: s | 'z' :: s => some s
  | '+' :: s | '-' :: s => hourMinute? s
  | s => some s

def moment? (s : Rest) : Option Rest :=
  match date? s with
  | none => time? s
  | some r => match r with
    | c :: t =>
      if c = 'T' ∨ c = 't' ∨ c = ' ' then match time? t with
        | some u => offset? u
        | none => some r
      else some r
    | [] => some r

def dateTime? (s : Rest) : Option (Scalar × Rest) :=
  (moment? s).map fun r => (.date (String.ofList (s.take (s.length - r.length))), r)

/-! ## Scalars -/

def scalar? (s : Rest) : Option (Scalar × Rest) :=
  match s with
  | '"' :: _ | '\'' :: _ => (string? s).map fun (t, r) => (.str t, r)
  | 't' :: _ => (expect? "true".toList s).map (.bool true, ·)
  | 'f' :: _ => (expect? "false".toList s).map (.bool false, ·)
  | _ => dateTime? s <|> number? s

end SettingsStore.Toml
