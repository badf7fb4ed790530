import TelemetryRelay.Json.Scan

/-! # Reading values

    Every reader takes the number of brackets that may still be opened, so that
    the nesting of what is kept is bounded; this bound is also what the readers
    of values recurse on.
-/

namespace TelemetryRelay

namespace Json

/-- How many brackets may be open at once. -/
def nestingLimit : Nat := 127

/-! ## Section 1: Elements and fields -/

/-- Reads the elements of an array up to its closing bracket, put after the
    reversed list `acc`. Every element has an octet, so the octets themselves,
    with one more for the bracket, are fuel enough. -/
def itemsFrom {α : Type} (item : Reader α) : Bytes → Bool → List α → Reader (List α)
  | [], _, _, _ => .error .endOfList
  | _ :: fuel, first, acc, octets =>
    match nextItem first octets with
    | .error fault => .error fault
    | .ok (.closing rest) => .ok (acc.reverse, rest)
    | .ok (.more rest) =>
      match item rest with
      | .error fault => .error fault
      | .ok (x, rest) => itemsFrom item fuel false (x :: acc) rest

/-- Reads an array after its opening bracket. -/
def list {α : Type} (item : Reader α) : Reader (List α) := fun octets => do
  let (items, rest) ← itemsFrom item (0 :: octets) true [] octets
  let ((), rest) ← closeList rest
  .ok (items, rest)

/-- Reads the fields of an object up to its closing bracket. Each is handed with
    its name to `field`, which continues after the name. The fuel is as for
    elements. -/
def fieldsFrom {σ : Type} (field : σ → String → Reader σ) : Bytes → Bool → σ → Reader σ
  | [], _, _, _ => .error .endOfObject
  | _ :: fuel, first, state, octets =>
    match nextField first octets with
    | .error fault => .error fault
    | .ok (.closing rest) => .ok (state, rest)
    | .ok (.more rest) =>
      match string rest with
      | .error fault => .error fault
      | .ok (name, rest) =>
        match field state name rest with
        | .error fault => .error fault
        | .ok (state, rest) => fieldsFrom field fuel false state rest

/-- Reads the fields of an object after its opening bracket, without the closing
    bracket. -/
def openFields {σ : Type} (field : σ → String → Reader σ) (state : σ) : Reader σ :=
  fun octets => fieldsFrom field (0 :: octets) true state octets

/-! ## Section 2: Scalars -/

/-- Reads the value that begins with octet `b`, brackets aside. -/
def scalar (b : UInt8) (rest : Bytes) : Except Fault (Value × Bytes) :=
  if b == 110 then do
    let ((), rest) ← identNull rest
    .ok (.null, rest)
  else if b == 116 then do
    let ((), rest) ← identTrue rest
    .ok (.bool true, rest)
  else if b == 102 then do
    let ((), rest) ← identFalse rest
    .ok (.bool false, rest)
  else if b == 45 then do
    let (n, rest) ← number true rest
    .ok (.number n, rest)
  else if Bytes.isDigit b then do
    let (n, rest) ← number false (b :: rest)
    .ok (.number n, rest)
  else if b == 34 then do
    let (s, rest) ← string rest
    .ok (.string s, rest)
  else .error .expectedValue

/-! ## Section 3: Values -/

/-- Reads a value in which `levels` brackets may be open at once. -/
def value : Nat → Reader Value
  | 0, octets =>
    match skipSpace octets with
    | [] => .error .endOfValue
    | b :: rest =>
      if b == 91 || b == 123 then .error .recursionLimit else scalar b rest
  | levels + 1, octets =>
    match skipSpace octets with
    | [] => .error .endOfValue
    | b :: rest =>
      if b == 91 then do
        let (items, rest) ← list (value levels) rest
        .ok (.array items, rest)
      else if b == 123 then do
        let field := fun (fields : Fields) name octets => do
          let ((), rest) ← colon octets
          let (v, rest) ← value levels rest
          .ok (fields.write name v, rest)
        let (fields, rest) ← openFields field [] rest
        let ((), rest) ← closeObject rest
        .ok (.object fields, rest)
      else scalar b rest

/-- The fault of a value of another type than expected: a fault inside a scalar
    comes first. -/
def mismatch (expected : String) (octets : Bytes) : Fault :=
  match octets with
  | [] => .endOfValue
  | b :: rest =>
    if b == 91 then .wrongType .sequence expected
    else if b == 123 then .wrongType .map expected
    else match scalar b rest with
      | .error fault => fault
      | .ok (v, _) => .wrongType v.found expected

/-- Reads a string where only a string is expected. -/
def expectString : Reader String := fun octets =>
  match skipSpace octets with
  | [] => .error .endOfValue
  | b :: rest =>
    if b == 34 then string rest else .error (mismatch "a string" (b :: rest))

/-- Reads `null` as nothing, and anything else as a value. -/
def optional (levels : Nat) : Reader (Option Value) := fun octets =>
  match skipSpace octets with
  | [] => .error .endOfValue
  | b :: rest =>
    if b == 110 then do
      let ((), rest) ← identNull rest
      .ok (none, rest)
    else do
      let (v, rest) ← value levels (b :: rest)
      .ok (some v, rest)

/-- Reads an array where only an array is expected. -/
def expectList {α : Type} (levels : Nat) (item : Nat → Reader α) : Reader (List α) :=
  fun octets =>
  match skipSpace octets with
  | [] => .error .endOfValue
  | b :: rest =>
    if b == 91 then
      match levels with
      | 0 => .error .recursionLimit
      | levels + 1 => list (item levels) rest
    else .error (mismatch "a sequence" (b :: rest))

end Json

end TelemetryRelay
