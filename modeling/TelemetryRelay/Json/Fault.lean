import TelemetryRelay.Json.Printer
import TelemetryRelay.Text.Quoted

/-! # What is wrong with a JSON text

    A fault names the first thing that keeps a text from being read as the
    expected type. Faults fall into three categories: the text is not JSON, it
    ends too early, or it is JSON of another shape.
-/

namespace TelemetryRelay

namespace Json

/-- What stands where something else was expected. -/
inductive Found where
  | null
  | boolean (b : Bool)
  | number (n : Number)
  | text (s : String)
  | sequence
  | map
deriving DecidableEq, Repr

/-- The first thing wrong with a JSON text. -/
inductive Fault where
  | endOfList
  | endOfObject
  | endOfString
  | endOfValue
  | expectedColon
  | expectedListEnd
  | expectedObjectEnd
  | expectedIdent
  | expectedValue
  | invalidEscape
  | invalidNumber
  | numberOutOfRange
  | invalidCodePoint
  | controlCharacter
  | keyNotString
  | loneLeadingSurrogate
  | endOfHexEscape
  | trailingComma
  | trailingCharacters
  | recursionLimit
  | wrongType (found : Found) (expected : String)
  | wrongValue (found : Found) (expected : String)
  | missingField (name : String)
  | duplicateField (name : String)
  | unknownVariant (name : String) (known : List String)
  | wrongLength (length : Nat) (expected : String)
deriving DecidableEq, Repr

/-- The kind of a fault. -/
inductive Category where
  | grammar
  | data
  | ending
deriving DecidableEq, Repr

/-- The name of a category. -/
def Category.name : Category → String
  | .grammar => "syntax"
  | .data => "data"
  | .ending => "eof"

/-- The category of a fault. -/
def Fault.category : Fault → Category
  | .endOfList | .endOfObject | .endOfString | .endOfValue => .ending
  | .wrongType .. | .wrongValue .. | .missingField .. | .duplicateField ..
  | .unknownVariant .. | .wrongLength .. => .data
  | _ => .grammar

/-- A text between backquotes. -/
def backquoted (s : String) : String := "\x60" ++ s ++ "\x60"

/-- How a message names what was found. -/
def Found.describe : Found → String
  | .null => "null"
  | .boolean b => "boolean " ++ backquoted (toString b)
  | .number (.integer i) => "integer " ++ backquoted (toString i)
  | .number (.real x) => "floating point " ++ backquoted (String.ofList x.text)
  | .text s => "string " ++ Text.quoted s
  | .sequence => "sequence"
  | .map => "map"

/-- How a value shows where another type was expected. -/
def Value.found : Value → Found
  | .null => .null
  | .bool b => .boolean b
  | .number n => .number n
  | .string s => .text s
  | .array _ => .sequence
  | .object _ => .map

/-- One of several names, as a message lists them. -/
def alternatives : List String → String
  | [] => "there are no variants"
  | [a] => "expected " ++ backquoted a
  | [a, b] => "expected " ++ backquoted a ++ " or " ++ backquoted b
  | names => "expected one of " ++ ", ".intercalate (names.map backquoted)

/-- The message of a fault. -/
def Fault.message : Fault → String
  | .endOfList => "EOF while parsing a list"
  | .endOfObject => "EOF while parsing an object"
  | .endOfString => "EOF while parsing a string"
  | .endOfValue => "EOF while parsing a value"
  | .expectedColon => "expected " ++ backquoted ":"
  | .expectedListEnd => "expected " ++ backquoted "," ++ " or " ++ backquoted "]"
  | .expectedObjectEnd => "expected " ++ backquoted "," ++ " or " ++ backquoted "\x7d"
  | .expectedIdent => "expected ident"
  | .expectedValue => "expected value"
  | .invalidEscape => "invalid escape"
  | .invalidNumber => "invalid number"
  | .numberOutOfRange => "number out of range"
  | .invalidCodePoint => "invalid unicode code point"
  | .controlCharacter =>
    "control character (\\u0000-\\u001F) found while parsing a string"
  | .keyNotString => "key must be a string"
  | .loneLeadingSurrogate => "lone leading surrogate in hex escape"
  | .endOfHexEscape => "unexpected end of hex escape"
  | .trailingComma => "trailing comma"
  | .trailingCharacters => "trailing characters"
  | .recursionLimit => "recursion limit exceeded"
  | .wrongType found expected =>
    "invalid type: " ++ found.describe ++ ", expected " ++ expected
  | .wrongValue found expected =>
    "invalid value: " ++ found.describe ++ ", expected " ++ expected
  | .missingField name => "missing field " ++ backquoted name
  | .duplicateField name => "duplicate field " ++ backquoted name
  | .unknownVariant name known =>
    "unknown variant " ++ backquoted name ++ ", " ++ alternatives known
  | .wrongLength length expected =>
    "invalid length " ++ toString length ++ ", expected " ++ expected

end Json

end TelemetryRelay
