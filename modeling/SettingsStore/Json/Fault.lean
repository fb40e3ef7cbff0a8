import SettingsStore.Json.Printer
import SettingsStore.Text.Quoted

/-!
# Faults of a document

Why a text or a value is not the document it should be: a break in the syntax, a value of the wrong
type or out of range, or a name given twice. `Fault.message` is the only place with their wording.
-/

namespace SettingsStore.Json

/-- A place where text stops being JSON. -/
inductive SyntaxFault where
  | endInList
  | endInObject
  | endInString
  | endInValue
  | expectedColon
  | expectedListEnd
  | expectedObjectEnd
  | expectedIdent
  | expectedValue
  | invalidEscape
  | invalidNumber
  | numberOutOfRange
  | invalidCodePoint
  | controlCharacter
  | keyNotString
  | loneSurrogate
  | trailingComma
  | trailingCharacters
  | unpairedSurrogate
  | tooDeep
deriving DecidableEq, Repr

def SyntaxFault.message : SyntaxFault → String
  | .endInList => "EOF while parsing a list"
  | .endInObject => "EOF while parsing an object"
  | .endInString => "EOF while parsing a string"
  | .endInValue => "EOF while parsing a value"
  | .expectedColon => "expected `:`"
  | .expectedListEnd => "expected `,` or `]`"
  | .expectedObjectEnd => "expected `,` or `\x7d`"
  | .expectedIdent => "expected ident"
  | .expectedValue => "expected value"
  | .invalidEscape => "invalid escape"
  | .invalidNumber => "invalid number"
  | .numberOutOfRange => "number out of range"
  | .invalidCodePoint => "invalid unicode code point"
  | .controlCharacter => "control character (\\u0000-\\u001F) found while parsing a string"
  | .keyNotString => "key must be a string"
  | .loneSurrogate => "lone leading surrogate in hex escape"
  | .trailingComma => "trailing comma"
  | .trailingCharacters => "trailing characters"
  | .unpairedSurrogate => "unexpected end of hex escape"
  | .tooDeep => "recursion limit exceeded"

/-- What stands where a value of another type should. -/
inductive Found where
  | null
  | bool (b : Bool)
  | num (n : Number)
  | str (s : String)
  | list
  | object
deriving DecidableEq, Repr

def Found.text : Found → String
  | .null => "null"
  | .bool b => "boolean `" ++ (if b then "true" else "false") ++ "`"
  | .num (.int n) => "integer `" ++ toString n ++ "`"
  | .num (.double x) => "floating point `" ++ x.text ++ "`"
  | .str s => "string " ++ Text.quoted s
  | .list => "sequence"
  | .object => "map"

/-- What a value should be. -/
inductive Expected where
  | string
  | boolean
  | list
  | word32
  | int64
  | record (name : String)
deriving DecidableEq, Repr

def Expected.text : Expected → String
  | .string => "a string"
  | .boolean => "a boolean"
  | .list => "a sequence"
  | .word32 => "u32"
  | .int64 => "i64"
  | .record name => "struct " ++ name

inductive Fault where
  | broken (cause : SyntaxFault)
  | wrongType (found : Found) (expected : Expected)
  | outOfRange (n : Int) (expected : Expected)
  | repeatedKey (key : String)
  | tooManyItems (count : Nat)
deriving DecidableEq, Repr

def Fault.message : Fault → String
  | .broken cause => cause.message
  | .wrongType found expected => "invalid type: " ++ found.text ++ ", expected " ++ expected.text
  | .outOfRange n expected =>
    "invalid value: integer `" ++ toString n ++ "`, expected " ++ expected.text
  | .repeatedKey key => "duplicate field `" ++ key ++ "`"
  | .tooManyItems count =>
    "invalid length " ++ toString count ++ ", expected fewer elements in array"

end SettingsStore.Json
