import SettingsStore.Url.Host

/-!
# URLs

A URL as far as it says where something is: its scheme, its host and its path. Some schemes are
special: their hosts are domain names, and a backslash separates segments as a slash does. Queries
and fragments end a path and are not kept. Control characters and blanks around a URL are dropped,
and so are tabs and line ends inside it.
-/

namespace SettingsStore

structure Url where
  scheme : String
  /-- The host, if it is not empty. -/
  host : Option Url.Host
  path : List Char
deriving DecidableEq, Repr

namespace Url

inductive SchemeType where
  | file
  | special
  | other
deriving DecidableEq, Repr

def SchemeType.ofScheme (scheme : String) : SchemeType :=
  if scheme = "file" then .file
  else if ["http", "https", "ws", "wss", "ftp"].contains scheme then .special
  else .other

def SchemeType.isSpecial (t : SchemeType) : Bool := t ≠ .other

def isSlash (t : SchemeType) (c : Char) : Bool := c == '/' || (t.isSpecial && c == '\\')

def endsPath (c : Char) : Bool := c == '?' || c == '#'

/-- The text without surrounding controls and blanks, and without tabs and line ends. -/
def clean (cs : List Char) : List Char :=
  let isEdge (c : Char) : Bool := c.toNat ≤ 32
  let stripped := ((cs.dropWhile isEdge).reverse.dropWhile isEdge).reverse
  stripped.filter fun c => !(c == '\t' || c == '\n' || c == '\r')

/-! ## Schemes -/

def isSchemeChar (c : Char) : Bool :=
  c.isAlpha || c.isDigit || c == '+' || c == '-' || c == '.'

/-- The scheme in lower case and what follows its colon. -/
def splitScheme? (cs : List Char) : Option (String × List Char) :=
  match cs.head?, cs.dropWhile isSchemeChar with
  | some c, ':' :: rest =>
    if c.isAlpha then some (String.ofList ((cs.takeWhile isSchemeChar).map (·.toLower)), rest)
    else none
  | _, _ => none

/-! ## Paths -/

def isDriveLetter : List Char → Bool
  | [c, d] => c.isAlpha && (d == ':' || d == '|')
  | _ => false

/-- Dots may be percent encoded. -/
def undot : List Char → List Char
  | '%' :: '2' :: e :: cs => if e = 'e' ∨ e = 'E' then '.' :: undot cs else '%' :: '2' :: e :: cs
  | '.' :: cs => '.' :: undot cs
  | cs => cs

def isSingleDot (segment : List Char) : Bool := undot segment == ['.']

def isDoubleDot (segment : List Char) : Bool := undot segment == ['.', '.']

/-- One segment up: the last segment goes, unless it names a drive. -/
def shorten : List (List Char) → List (List Char)
  | [] => []
  | last :: rest => if isDriveLetter last then last :: rest else rest

/-- Resolves dot segments. The segments so far are listed last first. -/
def resolve (t : SchemeType) (done : List (List Char)) : List (List Char) → List (List Char)
  | [] => done
  | segment :: rest =>
    let isLast := rest.isEmpty
    if isDoubleDot segment then
      resolve t (if isLast then [] :: shorten done else shorten done) rest
    else if isSingleDot segment then resolve t (if isLast then [] :: done else done) rest
    else
      let segment := match t, done, segment with
        | .file, [], [c, '|'] => if c.isAlpha then [c, ':'] else segment
        | _, _, _ => segment
      resolve t (segment :: done) rest

def joinSegments (segments : List (List Char)) : List Char :=
  segments.flatMap ('/' :: ·)

/-- The path of segments that begins after its first slash. -/
def parseSegments (t : SchemeType) (cs : List Char) : List Char :=
  let segments := (Text.splitWhere (isSlash t) cs).map (percentEncode isEncodedInPath)
  let path := joinSegments (resolve t [] segments).reverse
  if t = .file then '/' :: path.dropWhile (· == '/') else path

/-- The path after a host: special schemes always have one. -/
def parsePathStart (t : SchemeType) (cs : List Char) : List Char :=
  match cs.takeWhile (!endsPath ·) with
  | c :: rest => parseSegments t (if isSlash t c then rest else c :: rest)
  | [] => if t.isSpecial then ['/'] else []

/-! ## Authorities -/

def endsAuthority (t : SchemeType) (c : Char) : Bool := isSlash t c || endsPath c

/-- The text after a user name and password, and whether there are any. -/
def dropCredentials (t : SchemeType) (cs : List Char) : Except Fault (Bool × List Char) :=
  let authority := cs.takeWhile (!endsAuthority t ·)
  if authority.contains '@' then
    let host := (authority.reverse.takeWhile (· ≠ '@')).reverse
    let credentials := authority.take (authority.length - host.length - 1)
    let rest := cs.drop (credentials.length + 1)
    match credentials, rest with
    | [], c :: _ => if endsAuthority t c then .error .emptyHost else .ok (false, rest)
    | _, _ => .ok (credentials ≠ [] ∧ credentials ≠ [':'], rest)
  else .ok (false, cs)

/-- The text of a host: up to a delimiter, or to a colon outside brackets. -/
def hostText (t : SchemeType) (bracketed : Bool) : List Char → List Char
  | [] => []
  | c :: cs =>
    if endsAuthority t c || (c == ':' && !bracketed) then []
    else c :: hostText t (if c = '[' then true else if c = ']' then false else bracketed) cs

def maxPort : Nat := 65535

/-- What follows a port, which may be empty. -/
def dropPort (port : Nat) : List Char → Except Fault (List Char)
  | [] => .ok []
  | c :: cs =>
    if c.isDigit then
      let port := port * 10 + (c.toNat - 48)
      if maxPort < port then .error .invalidPort else dropPort port cs
    else if c == '/' || c == '\\' || endsPath c then .ok (c :: cs)
    else .error .invalidPort

/-- The host after two slashes, and the text after host and port. -/
def parseAuthority (t : SchemeType) (cs : List Char) :
    Except Fault (Option Host × List Char) := do
  let (credentials, cs) ← dropCredentials t cs
  let text := hostText t false cs
  let rest := cs.drop text.length
  if t.isSpecial && text.isEmpty then throw .emptyHost
  let host ← if t.isSpecial then Host.parseDomain text else Host.parseOpaque text
  let hasHost := host ≠ .name []
  let rest ← match rest with
    | ':' :: port => if hasHost then dropPort 0 port else throw .emptyHost
    | rest => pure rest
  if !hasHost && credentials then throw .emptyHost
  return (if hasHost then some host else none, rest)

/-! ## URLs by type of scheme -/

/-- The host of a file URL; the local machine is no host, and neither is a drive. -/
def parseFileHost (cs : List Char) : Except Fault (Option Host × List Char) := do
  let text := cs.takeWhile (!endsAuthority .file ·)
  let rest := cs.drop text.length
  if text.isEmpty then return (none, rest)
  if isDriveLetter text then return (none, cs)
  let host ← Host.parseDomain text
  return (if host = .name "localhost".toList then none else some host, rest)

def isSlashAhead (t : SchemeType) (cs : List Char) : Bool := cs.head?.any (isSlash t)

def parseFile (cs : List Char) : Except Fault Url := do
  if isSlashAhead .file cs && isSlashAhead .file (cs.drop 1) then
    let (host, rest) ← parseFileHost (cs.drop 2)
    return ⟨"file", host, parsePathStart .file rest⟩
  else return ⟨"file", none, parsePathStart .file cs⟩

def parseSpecial (scheme : String) (cs : List Char) : Except Fault Url := do
  let (host, rest) ← parseAuthority .special (cs.dropWhile (isSlash .special))
  return ⟨scheme, host, parsePathStart .special rest⟩

def parseOther (scheme : String) (cs : List Char) : Except Fault Url := do
  match cs with
  | '/' :: '/' :: rest =>
    let (host, rest) ← parseAuthority .other rest
    return ⟨scheme, host, parsePathStart .other rest⟩
  | '/' :: _ => return ⟨scheme, none, parsePathStart .other cs⟩
  | _ => return ⟨scheme, none, percentEncode isControl (cs.takeWhile (!endsPath ·))⟩

def parse (s : String) : Except Fault Url :=
  match splitScheme? (clean s.toList) with
  | none => .error .relativeWithoutBase
  | some (scheme, rest) => match SchemeType.ofScheme scheme with
    | .file => parseFile rest
    | .special => parseSpecial scheme rest
    | .other => parseOther scheme rest

/-- The local path of a file URL, as bytes; a drive letter at its end is a directory. -/
def filePath? (u : Url) : Option (List UInt8) :=
  if u.host.isSome then none
  else
    let bytes := percentDecode u.path
    match bytes.reverse with
    | last :: letter :: _ :: _ =>
      if (last = 58 ∨ last = 124) ∧ (Char.ofNat letter.toNat).isAlpha then some (bytes ++ [47])
      else some bytes
    | _ => some bytes

end Url

end SettingsStore
