import SettingsStore.Toml.Table

/-!
# Reading TOML

The grammar of statements, keys and values, and `Toml.parse?` for a whole text. Lists and tables in
braces nest 79 deep, and a key has at most 79 names.
-/

namespace SettingsStore.Toml

/-- The deepest nesting of lists and tables in braces. -/
def maxDepth : Nat := 79

/-- The largest number of names in a key. -/
def maxNames : Nat := 79

/-- Skips blanks, line ends and comments. What may not stand in a comment is left in front. -/
def skipBlank (comment : Bool) : Rest → Rest
  | [] => []
  | '\r' :: '\n' :: s => skipBlank false s
  | c :: s =>
    if c = '\n' then skipBlank false s
    else if comment then (if isPlain c then skipBlank true s else c :: s)
    else if isSpace c then skipBlank false s
    else if c = '#' then skipBlank true s
    else c :: s

/-- The end of a statement: of the text, of a line, or a comment, which is left to be skipped. -/
def lineEnd? (s : Rest) : Option Rest :=
  match skipSpace s with
  | [] => some []
  | '#' :: s => some ('#' :: s)
  | s => newline? s

/-! ## Keys -/

def isBareKey (c : Char) : Bool := c.isAlphanum || c == '_' || c == '-'

def name? : Rest → Option (String × Rest)
  | '"' :: s => basic? [] s
  | '\'' :: s => literal? [] s
  | s =>
    let word := s.takeWhile isBareKey
    if word.isEmpty then none else some (String.ofList word, s.dropWhile isBareKey)

/-- The names of a dotted key, the first of them apart. -/
def names? : Nat → Rest → Option ((String × List String) × Rest)
  | 0, _ => none
  | count + 1, s => do
    let (name, s) ← name? (skipSpace s)
    match skipSpace s with
    | '.' :: s =>
      let ((next, more), s) ← names? count s
      return ((name, next :: more), s)
    | s => return ((name, []), s)

def Path.ofNames : String → List String → Path
  | name, [] => ⟨[], name⟩
  | parent, name :: names =>
    let p := ofNames name names
    ⟨parent :: p.parents, p.name⟩

def path? (s : Rest) : Option (Path × Rest) :=
  (names? maxNames s).map fun ((name, names), r) => (.ofNames name names, r)

/-! ## Values

Lists and pairs are read with a reader for the values in them. Each item takes at least a character,
so the length of the text bounds their number. -/

def pair? (value? : Rest → Option (Item × Rest)) (s : Rest) : Option ((Path × Item) × Rest) := do
  let (path, s) ← path? s
  let (x, s) ← value? (skipSpace (← expect? ['='] s))
  return ((path, x), s)

/-- Items up to the closing bracket. A comma may follow the last one. -/
def items? (value? : Rest → Option (Item × Rest)) : Nat → Rest → Option (List Item × Rest)
  | 0, _ => none
  | count + 1, s =>
    match skipBlank false s with
    | ']' :: s => some ([], s)
    | s => do
      let (x, s) ← value? s
      match skipBlank false s with
      | ',' :: s =>
        let (xs, s) ← items? value? count s
        return (x :: xs, s)
      | ']' :: s => return ([x], s)
      | _ => none

/-- Pairs up to the closing brace: at least one, and no comma after the last. -/
def pairs? (value? : Rest → Option (Item × Rest)) : Nat → Rest → Option (List (Path × Item) × Rest)
  | 0, _ => none
  | count + 1, s => do
    let (p, s) ← pair? value? s
    match skipSpace s with
    | ',' :: s =>
      let (ps, s) ← pairs? value? count s
      return (p :: ps, s)
    | '\x7d' :: s => return ([p], s)
    | _ => none

def inlineTable? (value? : Rest → Option (Item × Rest)) (s : Rest) : Option (Item × Rest) :=
  match skipSpace s with
  | '\x7d' :: s => (Item.ofPairs []).map (·, s)
  | s => do
    let (ps, s) ← pairs? value? (s.length + 1) s
    return (← Item.ofPairs ps, s)

/-- A value in which lists and tables nest at most so deep. -/
def value? (depth : Nat) (s : Rest) : Option (Item × Rest) :=
  match depth, s with
  | 0, '[' :: _ | 0, '\x7b' :: _ => none
  | depth + 1, '[' :: s =>
    (items? (value? depth) (s.length + 1) s).map fun (xs, s) => (.list xs, s)
  | depth + 1, '\x7b' :: s => inlineTable? (value? depth) s
  | _, s => (scalar? s).map fun (v, s) => (.scalar v, s)
termination_by structural depth

/-! ## Texts -/

def statement? : Rest → Option (Statement × Rest)
  | '[' :: '[' :: s => do
    let (path, s) ← path? s
    return (.row path, ← expect? [']', ']'] s)
  | '[' :: s => do
    let (path, s) ← path? s
    return (.header path, ← expect? [']'] s)
  | s => do
    let ((path, x), s) ← pair? (value? maxDepth) s
    return (.pair path x, s)

/-- The statements of a text, each of which takes at least a character. -/
def statements? : Nat → Rest → Option (List Statement)
  | 0, _ => none
  | count + 1, s =>
    match skipBlank false s with
    | [] => some []
    | s => do
      let (statement, s) ← statement? s
      return statement :: (← statements? count (← lineEnd? s))

def byteOrderMark : Char := '\ufeff'

/-- Reads a text into its outermost table. A byte order mark may stand in front. -/
def parse? (text : String) : Option Members := do
  let s := text.toList
  let s := if s.head? = some byteOrderMark then s.tail else s
  Members.ofStatements (← statements? (s.length + 1) s)

end SettingsStore.Toml
