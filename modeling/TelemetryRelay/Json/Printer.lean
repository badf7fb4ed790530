import TelemetryRelay.Bytes
import TelemetryRelay.Decimal.Shortest
import TelemetryRelay.Json.Value

/-! # Compact JSON text

    The only form in which the relay writes JSON: no blanks, fields in their
    order, and escapes only for quotation marks, backslashes and the controls
    below U+0020.
-/

namespace TelemetryRelay

namespace Json

/-- A backslash followed by one character. -/
def shortEscape (c : Char) : List Char := ['\\', c]

/-- One character inside a JSON string. -/
def escapeChar (c : Char) : List Char :=
  if c = '"' then shortEscape '"'
  else if c = '\\' then shortEscape '\\'
  else if 32 ≤ c.toNat then [c]
  else if c.toNat = 8 then shortEscape 'b'
  else if c.toNat = 9 then shortEscape 't'
  else if c.toNat = 10 then shortEscape 'n'
  else if c.toNat = 12 then shortEscape 'f'
  else if c.toNat = 13 then shortEscape 'r'
  else ['\\', 'u', '0', '0', Nat.digitChar (c.toNat / 16), Nat.digitChar (c.toNat % 16)]

/-- A JSON string literal. -/
def stringText (s : String) : String :=
  String.ofList ('"' :: (s.toList.flatMap escapeChar ++ ['"']))

/-- The text of a number. -/
def Number.text : Number → String
  | .integer i => toString i
  | .real x => String.ofList x.text

/-- Texts with commas between them. -/
def commas (texts : List String) : String := ",".intercalate texts

/-- An array of the texts of its items. -/
def arrayText (items : List String) : String := "[" ++ commas items ++ "]"

/-- An object of names and the texts of their values. -/
def objectText (fields : List (String × String)) : String :=
  "\x7b" ++ commas (fields.map fun field => stringText field.1 ++ ":" ++ field.2) ++ "\x7d"

mutual

/-- The compact text of a value. -/
def Value.text : Value → String
  | .null => "null"
  | .bool true => "true"
  | .bool false => "false"
  | .number n => n.text
  | .string s => stringText s
  | .array items => arrayText (itemTexts items)
  | .object fields => objectText (fieldTexts fields)

/-- The texts of the items of an array. -/
def itemTexts : List Value → List String
  | [] => []
  | item :: rest => item.text :: itemTexts rest

/-- The fields of an object with the texts of their values. -/
def fieldTexts : List (String × Value) → List (String × String)
  | [] => []
  | (name, value) :: rest => (name, value.text) :: fieldTexts rest

end

theorem itemTexts_eq_map (items : List Value) :
    itemTexts items = items.map Value.text := by
  induction items with
  | nil => simp [itemTexts]
  | cons item rest ih => simp [itemTexts, ih]

end Json

end TelemetryRelay
