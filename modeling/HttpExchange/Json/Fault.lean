import HttpExchange.Json.Printer
import HttpExchange.Text.Quoted
import HttpExchange.Text.Utf8

/-!
# What can be wrong with JSON text
-/

namespace HttpExchange
namespace Json

inductive Found where
  | null
  | bool (b : Bool)
  | number (n : Number)
  | string (text : String)
  | sequence
  | map
  deriving DecidableEq

def Found.describe : Found → String
  | null => "null"
  | bool true => "boolean `true`"
  | bool false => "boolean `false`"
  | number (.integer n) => "integer `" ++ (Number.integer n).text ++ "`"
  | number (.real x) => "floating point `" ++ x.text ++ "`"
  | string text => "string " ++ Quoted.text text
  | sequence => "sequence"
  | map => "map"

/-- What is wrong with a text that is to be read as JSON. -/
inductive Cause where
  | endOfValue
  | endOfList
  | endOfObject
  | endOfString
  | expectedValue
  | expectedWord
  | expectedColon
  | expectedListCommaOrEnd
  | expectedObjectCommaOrEnd
  | trailingComma
  | keyNotString
  | trailingCharacters
  | tooDeep
  | invalidNumber
  | numberOutOfRange
  | controlCharacter
  | invalidEscape
  | loneSurrogate
  /-- A leading surrogate without a second escape. -/
  | unfinishedEscape
  /-- A string that is not well-formed text. -/
  | invalidCodePoint
  | wrongType (found : Found) (wanted : String)
  | unknownVariant (name : String) (allowed : List String)
  | duplicateField (name : String)
  deriving DecidableEq

def alternatives (names : List String) : String :=
  String.intercalate " or " (names.map fun name => "`" ++ name ++ "`")

def Cause.message : Cause → String
  | endOfValue => "EOF while parsing a value"
  | endOfList => "EOF while parsing a list"
  | endOfObject => "EOF while parsing an object"
  | endOfString => "EOF while parsing a string"
  | expectedValue => "expected value"
  | expectedWord => "expected ident"
  | expectedColon => "expected `:`"
  | expectedListCommaOrEnd => "expected `,` or `]`"
  | expectedObjectCommaOrEnd => "expected `,` or `\x7d`"
  | trailingComma => "trailing comma"
  | keyNotString => "key must be a string"
  | trailingCharacters => "trailing characters"
  | tooDeep => "recursion limit exceeded"
  | invalidNumber => "invalid number"
  | numberOutOfRange => "number out of range"
  | controlCharacter => "control character (\\u0000-\\u001F) found while parsing a string"
  | invalidEscape => "invalid escape"
  | loneSurrogate => "lone leading surrogate in hex escape"
  | unfinishedEscape => "unexpected end of hex escape"
  | invalidCodePoint => "invalid unicode code point"
  | wrongType found wanted => "invalid type: " ++ found.describe ++ ", expected " ++ wanted
  | unknownVariant name allowed =>
    "unknown variant `" ++ name ++ "`, expected " ++ alternatives allowed
  | duplicateField name => "duplicate field `" ++ name ++ "`"

/-- A cause and its place. -/
structure Fault where
  cause : Cause
  line : Nat
  /-- The number of octets of the line before the place. -/
  column : Nat
  deriving DecidableEq

def Fault.message (fault : Fault) : String :=
  fault.cause.message ++ " at line " ++ Nat.repr fault.line ++ " column " ++ Nat.repr fault.column

/-- A cause, noticed while reading. -/
structure Failure where
  cause : Cause
  rest : Bytes
  /-- The number of octets by which the place is moved back within its line. -/
  back : Nat
  deriving DecidableEq

/-- The place of a failure in the input that was being read. -/
def Failure.locate (input : Bytes) (failure : Failure) : Fault :=
  let before := input.take (input.length - failure.rest.length)
  { cause := failure.cause
    line := 1 + before.count 0x0A
    column := (before.reverse.takeWhile (· != 0x0A)).length - failure.back }

/-- Read a value off the input; the rest of the input is left. -/
abbrev Reader (α : Type) := Bytes → Except Failure (α × Bytes)

/-- Fail in front of `rest`. -/
def fail {α : Type} (cause : Cause) (rest : Bytes) : Except Failure α :=
  .error ⟨cause, rest, 0⟩

end Json
end HttpExchange
