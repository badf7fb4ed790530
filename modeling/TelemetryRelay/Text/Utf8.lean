import TelemetryRelay.Bytes

/-! # Reading UTF-8

    `Utf8.pieces` cuts a string of octets into characters and malformed
    stretches, one octet at a time. A stretch is the longest start of a
    well-formed sequence that could not be completed, or a single octet that
    starts none. Strict reading asks that there be no malformed stretch; lossy
    reading puts one replacement character in place of each.
-/

namespace TelemetryRelay

namespace Utf8

/-! ## Section 1: Sequences under way -/

/-- A sequence that has begun: the bits read so far, how many octets are still
    due, and the range the next one must lie in. The range is narrower than that
    of continuation octets just after a first octet that could otherwise start
    an overlong form, a surrogate or a number past the last code point. -/
structure Pending where
  bits : Nat
  due : Nat
  low : UInt8
  high : UInt8

/-- What an octet does when no sequence is under way. -/
inductive Opening where
  /-- It is a character by itself. -/
  | whole (c : Char)
  /-- It starts a longer sequence. -/
  | begins (p : Pending)
  /-- It cannot start a sequence. -/
  | malformed

/-- The role of an octet that starts a sequence. -/
def opening (b : UInt8) : Opening :=
  if b < 128 then .whole (Char.ofNat b.toNat)
  else if 194 ≤ b && b ≤ 223 then .begins ⟨b.toNat % 32, 1, 128, 191⟩
  else if b == 224 then .begins ⟨0, 2, 160, 191⟩
  else if b == 237 then .begins ⟨13, 2, 128, 159⟩
  else if 225 ≤ b && b ≤ 239 then .begins ⟨b.toNat % 16, 2, 128, 191⟩
  else if b == 240 then .begins ⟨0, 3, 144, 191⟩
  else if 241 ≤ b && b ≤ 243 then .begins ⟨b.toNat % 8, 3, 128, 191⟩
  else if b == 244 then .begins ⟨4, 3, 128, 143⟩
  else .malformed

/-! ## Section 2: Cutting into characters -/

/-- The pieces of the remaining octets after an optional sequence under way, put
    after the reversed list `acc`. -/
def piecesFrom : Bytes → Option Pending → List (Option Char) → List (Option Char)
  | [], none, acc => acc.reverse
  | [], some _, acc => (none :: acc).reverse
  | b :: rest, none, acc =>
    match opening b with
    | .whole c => piecesFrom rest none (some c :: acc)
    | .begins p => piecesFrom rest (some p) acc
    | .malformed => piecesFrom rest none (none :: acc)
  | b :: rest, some p, acc =>
    if p.low ≤ b && b ≤ p.high then
      let bits := p.bits * 64 + b.toNat % 64
      if p.due ≤ 1 then piecesFrom rest none (some (Char.ofNat bits) :: acc)
      else piecesFrom rest (some ⟨bits, p.due - 1, 128, 191⟩) acc
    else
      match opening b with
      | .whole c => piecesFrom rest none (some c :: none :: acc)
      | .begins q => piecesFrom rest (some q) (none :: acc)
      | .malformed => piecesFrom rest none (none :: none :: acc)

/-- The characters and malformed stretches (`none`) of a string of octets. -/
def pieces (octets : Bytes) : List (Option Char) := piecesFrom octets none []

/-- The characters of a list of pieces if none is malformed, put after the
    reversed list `acc`. -/
def wholeFrom : List (Option Char) → List Char → Option (List Char)
  | [], acc => some acc.reverse
  | some c :: rest, acc => wholeFrom rest (c :: acc)
  | none :: _, _ => none

/-! ## Section 3: Strict and lossy reading -/

/-- The text whose UTF-8 form is `octets`, if there is one. -/
def decode (octets : Bytes) : Option String :=
  (wholeFrom (pieces octets) []).map String.ofList

/-- The text of `octets` with U+FFFD for every malformed stretch. -/
def decodeLossy (octets : Bytes) : String :=
  String.ofList ((pieces octets).map fun piece => piece.getD '\uFFFD')

end Utf8

end TelemetryRelay
