import TelemetryRelay.Log.Level
import TelemetryRelay.Text.Quoted

/-! # Log lines

    Everything the relay logs goes to the log stream of the function it runs
    beside, so each line starts with a mark and the level. The spans an event
    happened in come next, outermost first, then its message and fields.
-/

namespace TelemetryRelay

namespace Log

/-- The mark in front of every line. -/
def mark : String := "NR_EXT"

/-- The value of a field of an event or a span. -/
inductive FieldValue where
  | integer (i : Int)
  | flag (b : Bool)
  /-- A text, shown in quotation marks. -/
  | text (s : String)
  /-- A text shown as it is. -/
  | shown (s : String)
deriving DecidableEq, Repr

/-- How a field value is shown. -/
def FieldValue.display : FieldValue → String
  | .integer i => toString i
  | .flag b => toString b
  | .text s => Text.quoted s
  | .shown s => s

/-- A name with its value. -/
abbrev LogField := String × FieldValue

/-- How a field is shown. -/
def fieldText (field : LogField) : String := field.1 ++ "=" ++ field.2.display

/-- Something an event happens within. -/
structure Span where
  name : String
  fields : List LogField
deriving DecidableEq, Repr

/-- How a span is shown in front of a message. -/
def Span.lead (span : Span) : String :=
  span.name ++
    (if span.fields.isEmpty then ""
     else "\x7b" ++ " ".intercalate (span.fields.map fieldText) ++ "\x7d")
    ++ ": "

/-- What is logged. -/
structure Event where
  level : Level
  spans : List Span
  message : Option String
  fields : List LogField
deriving DecidableEq, Repr

/-- Whether a character of a message would steer a terminal. -/
def isSteering (c : Char) : Bool :=
  let n := c.toNat
  n == 7 || n == 8 || n == 12 || n == 27 || n == 127

/-- One character of a message: those that would steer a terminal are shown by
    their number. -/
def messageChar (c : Char) : List Char :=
  let n := c.toNat
  if isSteering c then
    ['\\', 'x', Nat.digitChar (n / 16), Nat.digitChar (n % 16)]
  else if 128 ≤ n && n ≤ 159 then
    ['\\', 'u', Char.ofNat 0x7B] ++ (Bytes.hexText n).toList ++ [Char.ofNat 0x7D]
  else [c]

/-- A message without characters that would steer a terminal. -/
def messageText (message : String) : String :=
  String.ofList (message.toList.flatMap messageChar)

/-- What every line of a level starts with. -/
def lineLead (level : Level) : String := mark ++ " | " ++ level.name ++ " | "

/-- The message and the fields of an event. -/
def Event.body (event : Event) : String :=
  " ".intercalate
    ((event.message.map messageText).toList ++ event.fields.map fieldText)

/-- The text of an event, without the final line break. -/
def Event.text (event : Event) : String :=
  lineLead event.level ++ String.join (event.spans.map Span.lead) ++ event.body

end Log

end TelemetryRelay
