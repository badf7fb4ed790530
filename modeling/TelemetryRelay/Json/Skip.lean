import TelemetryRelay.Json.Scan

/-! # Skipping a value

    The value of an unknown field is passed over: it must be JSON, but its
    nesting is not limited, its strings need not be UTF-8 and its numbers need
    not be in range. Open brackets are kept in a list, so that the depth of the
    text does not matter.
-/

namespace TelemetryRelay

namespace Json

/-! ## Section 1: Scalars -/

/-- What one octet does inside a skipped string, the closing mark aside. -/
def skipStep (place : Place) (b : UInt8) : Except Fault Place :=
  match place with
  | .plain =>
    if b == 92 then .ok .escaped
    else if b < 32 then .error .controlCharacter
    else .ok .plain
  | .escaped =>
    if (simpleEscape? b).isSome then .ok .plain
    else if b == 117 then .ok (.digits none [])
    else .error .invalidEscape
  | .digits _ [z, y, x] =>
    if (hexQuad? x y z b).isSome then .ok .plain else .error .invalidEscape
  | .digits lead read => .ok (.digits lead (b :: read))
  | .halfway _ | .halfEscaped _ => .ok .plain

/-- Skips a string after its opening quotation mark. -/
def skipStringFrom : Place → Bytes → Except Fault Bytes
  | _, [] => .error .endOfString
  | place, b :: rest =>
    if place = .plain ∧ b = 34 then .ok rest
    else match skipStep place b with
      | .error fault => .error fault
      | .ok place => skipStringFrom place rest

/-- Skips a string after its opening quotation mark. -/
def skipString (octets : Bytes) : Except Fault Bytes := skipStringFrom .plain octets

/-- Skips digits, of which there must be one. -/
def skipDigits (octets : Bytes) : Except Fault Bytes :=
  if digitAhead octets then .ok (dropDigits 0 octets).2 else .error .invalidNumber

/-- Skips an exponent after its letter. -/
def skipExponent : Bytes → Except Fault Bytes
  | 43 :: rest => skipDigits rest
  | 45 :: rest => skipDigits rest
  | octets => skipDigits octets

/-- Skips what follows the decimals of a number. -/
def skipRealEnd (octets : Bytes) : Except Fault Bytes :=
  if exponentAhead octets then skipExponent octets.tail else .ok octets

/-- Skips what follows the integer part of a number. -/
def skipNumberEnd (octets : Bytes) : Except Fault Bytes :=
  if pointAhead octets then do skipRealEnd (← skipDigits octets.tail)
  else skipRealEnd octets

/-- Skips a number after its sign. -/
def skipNumber : Bytes → Except Fault Bytes
  | [] => .error .invalidNumber
  | b :: rest =>
    if b == 48 then
      if digitAhead rest then .error .invalidNumber else skipNumberEnd rest
    else if Bytes.isDigit b then skipNumberEnd (dropDigits 0 rest).2
    else .error .invalidNumber

/-! ## Section 2: Brackets -/

/-- An open bracket. -/
inductive Bracket where
  | list
  | object
deriving DecidableEq, Repr

/-- The octet that closes a bracket. -/
def Bracket.closer : Bracket → UInt8
  | .list => 93
  | .object => 125

/-- The fault of a text that ends inside a bracket. -/
def Bracket.ending : Bracket → Fault
  | .list => .endOfList
  | .object => .endOfObject

/-- The fault of a text with neither a comma nor the closing bracket. -/
def Bracket.unclosed : Bracket → Fault
  | .list => .expectedListEnd
  | .object => .expectedObjectEnd

/-- Goes to the value of the next element: in an object, past its name. -/
def skipName (bracket : Bracket) (octets : Bytes) : Except Fault Bytes :=
  match bracket with
  | .list => .ok octets
  | .object =>
    match skipSpace octets with
    | [] => .error .endOfObject
    | b :: rest =>
      if b == 34 then do
        let rest ← skipString rest
        let ((), rest) ← colon rest
        .ok rest
      else .error .keyNotString

/-- After a whole value: closes brackets up to a comma. Returns the brackets
    still open with the octets of the next value, or with what follows the
    outermost value if none is. -/
def afterValue : List Bracket → Bytes → Except Fault (List Bracket × Bytes)
  | [], octets => .ok ([], octets)
  | bracket :: outer, octets =>
    match skipSpace octets with
    | [] => .error bracket.ending
    | b :: rest =>
      if b == 44 then do
        let rest ← skipName bracket rest
        .ok (bracket :: outer, rest)
      else if b == bracket.closer then afterValue outer rest
      else .error bracket.unclosed

/-- After an opening bracket: closes it at once, or goes to its first value. -/
def afterOpening (bracket : Bracket) (outer : List Bracket) (octets : Bytes) :
    Except Fault (List Bracket × Bytes) :=
  match skipSpace octets with
  | [] => .error bracket.ending
  | b :: rest =>
    if b == bracket.closer then afterValue outer rest
    else do
      let rest ← skipName bracket (b :: rest)
      .ok (bracket :: outer, rest)

/-- Skips a scalar or an opening bracket. -/
def skipStart (outer : List Bracket) (octets : Bytes) :
    Except Fault (List Bracket × Bytes) :=
  match skipSpace octets with
  | [] => .error .endOfValue
  | b :: rest =>
    if b == 110 then do afterValue outer (← identNull rest).2
    else if b == 116 then do afterValue outer (← identTrue rest).2
    else if b == 102 then do afterValue outer (← identFalse rest).2
    else if b == 45 then do afterValue outer (← skipNumber rest)
    else if Bytes.isDigit b then do afterValue outer (← skipNumber (b :: rest))
    else if b == 34 then do afterValue outer (← skipString rest)
    else if b == 91 then afterOpening .list outer rest
    else if b == 123 then afterOpening .object outer rest
    else .error .expectedValue

/-- Skips values until no bracket is open. Every round reads an octet, so the
    octets themselves, with one more, are fuel enough. -/
def skipFrom : Bytes → List Bracket → Bytes → Except Fault Bytes
  | [], _, _ => .error .endOfValue
  | _ :: fuel, outer, octets =>
    match skipStart outer octets with
    | .error fault => .error fault
    | .ok ([], rest) => .ok rest
    | .ok (outer, rest) => skipFrom fuel outer rest

/-- Skips one value. -/
def skipValue (octets : Bytes) : Except Fault Bytes :=
  skipFrom (0 :: octets) [] octets

end Json

end TelemetryRelay
