import TelemetryRelay.Json.Reader
import TelemetryRelay.Json.Skip

/-! # Reading objects of a known shape

    A shape lists the fields of a type in order. It is read from an object,
    whose fields may come in any order and among unknown ones, or from an array
    that holds the fields in order. Faults come in the order of the text: a
    field that is repeated or of the wrong type stops the reading where it
    stands, and fields that are missing are noticed at the end.
-/

namespace TelemetryRelay

namespace Json

/-- One field of a shape, for what has been read so far, `σ`. -/
structure Field (σ : Type) where
  /-- The name of the field. -/
  name : String
  /-- Whether it has been read. -/
  isRead : σ → Bool
  /-- Reads its value, with the brackets that may still be opened. -/
  read : Nat → σ → Reader σ
  /-- Whether it may be absent. -/
  mayLack : Bool

/-- A type with named fields. -/
structure Shape (σ α : Type) where
  /-- The name of the type. -/
  name : String
  /-- Its fields in order. -/
  fields : List (Field σ)
  /-- Nothing read yet. -/
  start : σ
  /-- The result, or a fault for the first field that is missing. -/
  finish : σ → Except Fault α

namespace Shape

variable {σ α : Type}

/-- How messages name the type. -/
def describe (shape : Shape σ α) : String := "struct " ++ shape.name

/-- How messages name the type with its number of fields. -/
def describeLength (shape : Shape σ α) : String :=
  let n := shape.fields.length
  shape.describe ++ " with " ++ toString n ++ (if n == 1 then " element" else " elements")

/-- Continues after the name of a field. -/
def afterName (shape : Shape σ α) (levels : Nat) (state : σ) (name : String) : Reader σ :=
  fun octets =>
  match shape.fields.find? fun field => field.name == name with
  | some field =>
    if field.isRead state then .error (.duplicateField name)
    else do
      let ((), rest) ← colon octets
      field.read levels state rest
  | none => do
    let ((), rest) ← colon octets
    let rest ← skipValue rest
    .ok (state, rest)

/-- Reads the object form after its opening bracket. -/
def readObject (shape : Shape σ α) (levels : Nat) : Reader α := fun octets => do
  let (state, rest) ← openFields (shape.afterName levels) shape.start octets
  let result ← shape.finish state
  let ((), rest) ← closeObject rest
  .ok (result, rest)

/-- Reads the fields of the array form in order; `count` have been read. -/
def readItems (shape : Shape σ α) (levels : Nat) :
    List (Field σ) → Nat → Bool → σ → Reader σ
  | [], _, _, state, octets => .ok (state, octets)
  | field :: fields, count, first, state, octets =>
    match nextItem first octets with
    | .error fault => .error fault
    | .ok (.closing rest) =>
      if field.mayLack then readItems shape levels fields (count + 1) first state rest
      else .error (.wrongLength count shape.describeLength)
    | .ok (.more rest) =>
      match field.read levels state rest with
      | .error fault => .error fault
      | .ok (state, rest) => readItems shape levels fields (count + 1) false state rest

/-- Reads the array form after its opening bracket. -/
def readArray (shape : Shape σ α) (levels : Nat) : Reader α := fun octets => do
  let (state, rest) ← shape.readItems levels shape.fields 0 true shape.start octets
  let result ← shape.finish state
  let ((), rest) ← closeList rest
  .ok (result, rest)

/-- Reads a value of the shape. -/
def read (shape : Shape σ α) (levels : Nat) : Reader α := fun octets =>
  match skipSpace octets with
  | [] => .error .endOfValue
  | b :: rest =>
    if b == 91 then
      match levels with
      | 0 => .error .recursionLimit
      | levels + 1 => shape.readArray levels rest
    else if b == 123 then
      match levels with
      | 0 => .error .recursionLimit
      | levels + 1 => shape.readObject levels rest
    else .error (mismatch shape.describe (b :: rest))

/-- Reads a whole text of the shape. -/
def decode (shape : Shape σ α) (octets : Bytes) : Except Fault α :=
  document (shape.read nestingLimit) octets

end Shape

end Json

end TelemetryRelay
