import TelemetryRelay.Decimal.Binary64

/-! # JSON values

    The free-form part of a telemetry record. Objects keep the order of their
    fields, and a field name occurs once: writing it again replaces the value
    and leaves the field where it was.
-/

namespace TelemetryRelay

namespace Json

/-- A number. A literal that is an integer of 64 bits, signed or not, stays one;
    every other literal is a double. -/
inductive Number where
  | integer (i : Int)
  | real (x : Binary64)
deriving DecidableEq, Repr, Inhabited

/-- The double nearest to a number. -/
def Number.toBinary64 : Number → Binary64
  | .integer i => Binary64.ofInt i
  | .real x => x

/-- A JSON value. -/
inductive Value where
  | null
  | bool (b : Bool)
  | number (n : Number)
  | string (s : String)
  | array (items : List Value)
  | object (fields : List (String × Value))
deriving Repr, Inhabited

/-- The fields of an object. -/
abbrev Fields := List (String × Value)

/-- The value of the field of this name. -/
def Fields.find? (fields : Fields) (name : String) : Option Value :=
  (List.find? (fun field => field.1 == name) fields).map fun field => field.2

/-- Writes a field: replaces the value of the field of this name where it
    stands, or adds the field at the end. -/
def Fields.write : Fields → String → Value → Fields
  | [], name, value => [(name, value)]
  | field :: rest, name, value =>
    if field.1 == name then (field.1, value) :: rest
    else field :: Fields.write rest name value

/-- The fields of an object value. -/
def Value.fields? : Value → Option Fields
  | .object fields => some fields
  | _ => none

/-- The items of an array value. -/
def Value.items? : Value → Option (List Value)
  | .array items => some items
  | _ => none

/-- The text of a string value. -/
def Value.text? : Value → Option String
  | .string s => some s
  | _ => none

end Json

end TelemetryRelay
