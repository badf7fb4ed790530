/-! # Names in ASCII letters

    A name with other characters is written in ASCII: first the ASCII characters
    it has, then where and in which order the others are put among them. Places
    are numbers of mixed base whose digits end themselves, and the base adapts to
    the numbers that came before.
-/

namespace TelemetryRelay

namespace Text

namespace Punycode

/-! ## Section 1: Digits -/

/-- The letter or figure that stands for a digit below 36. -/
def digitChar (d : Nat) : Char :=
  if d < 26 then Char.ofNat (97 + d) else Char.ofNat (22 + d)

/-- The digit a lower-case letter or a figure stands for. -/
def digit? (c : Char) : Option Nat :=
  if 'a' ≤ c ∧ c ≤ 'z' then some (c.toNat - 97)
  else if '0' ≤ c ∧ c ≤ '9' then some (c.toNat - 22)
  else none

/-- The least value of the digit at a place that does not end the number. -/
def threshold (place bias : Nat) : Nat := min 26 (max 1 (place - bias))

/-- Divides a distance until it is small, and counts how often. -/
def shrink : Nat → Nat → Nat → Nat × Nat
  | 0, distance, count => (distance, count)
  | fuel + 1, distance, count =>
    if 455 < distance then shrink fuel (distance / 35) (count + 1) else (distance, count)

/-- The bias after a distance, with so many characters placed. -/
def adapt (distance placed : Nat) (isFirst : Bool) : Nat :=
  let scaled := if isFirst then distance / 700 else distance / 2
  let (small, count) := shrink distance.log2 (scaled + scaled / placed) 0
  count * 36 + 36 * small / (small + 38)

/-! ## Section 2: Writing -/

/-- The digits of a number. The fuel bounds how many there are. -/
def digits (bias : Nat) : Nat → Nat → Nat → List Char
  | 0, _, _ => []
  | fuel + 1, place, n =>
    let t := threshold place bias
    if n < t then [digitChar n]
    else digitChar (t + (n - t) % (36 - t)) :: digits bias fuel (place + 36) ((n - t) / (36 - t))

/-- What has been written: the digits, last first, the distance from the last
    place that was written, the bias, and how many characters are placed. -/
structure Writing where
  written : List Char
  distance : Nat
  bias : Nat
  placed : Nat

/-- Passes one character while those of code point `point` are placed. -/
def Writing.pass (ascii point : Nat) (state : Writing) (c : Char) : Writing :=
  if c.toNat < point then { state with distance := state.distance + 1 }
  else if c.toNat = point then
    { written := (digits state.bias (state.distance.log2 + 2) 36 state.distance).reverse
        ++ state.written
      distance := 0
      bias := adapt state.distance (state.placed + 1) (state.placed == ascii)
      placed := state.placed + 1 }
  else state

/-- Places the characters of each of some code points, which come in increasing
    order; `next` is the first code point that is not yet dealt with. -/
def placeAll (chars : List Char) (ascii : Nat) : List Nat → Nat → Writing → Writing
  | [], _, state => state
  | point :: rest, next, state =>
    let state := { state with distance := state.distance + (point - next) * (state.placed + 1) }
    let state := chars.foldl (Writing.pass ascii point) state
    placeAll chars ascii rest (point + 1) { state with distance := state.distance + 1 }

/-- The ASCII form of a name. -/
def encode (chars : List Char) : List Char :=
  let ascii := chars.filter fun c => c.toNat < 128
  let others := (chars.filter fun c => 128 ≤ c.toNat).map Char.toNat
  let points := (others.mergeSort fun a b => decide (a ≤ b)).eraseDups
  let state := placeAll chars ascii.length points 128 ⟨[], 0, 72, ascii.length⟩
  ascii ++ (if ascii.isEmpty then [] else ['-']) ++ state.written.reverse

/-! ## Section 3: Reading -/

/-- Reads a number: its value added to `sum`, and what follows. -/
def readNumber (bias : Nat) : List Char → Nat → Nat → Nat → Option (Nat × List Char)
  | [], _, _, _ => none
  | c :: rest, place, weight, sum =>
    match digit? c with
    | none => none
    | some d =>
      let t := threshold place bias
      if d < t then some (sum + d * weight, rest)
      else readNumber bias rest (place + 36) (weight * (36 - t)) (sum + d * weight)

/-- Puts the others among the ASCII characters. The fuel bounds how many there
    are. -/
def readPlaces : Nat → Nat → Nat → Nat → List Char → List Char → Option (List Char)
  | _, _, _, _, name, [] => some name
  | 0, _, _, _, _, _ => none
  | fuel + 1, bias, point, start, name, digits => do
    let (sum, rest) ← readNumber bias digits 36 1 start
    let count := name.length + 1
    let point := point + sum / count
    let place := sum % count
    if point < 0xD800 ∨ (0xDFFF < point ∧ point < 0x110000) then
      readPlaces fuel (adapt (sum - start) count (start == 0)) point (place + 1)
        (name.take place ++ Char.ofNat point :: name.drop place) rest
    else none

/-- The name an ASCII form stands for. -/
def decode (chars : List Char) : Option (List Char) :=
  let digits := (chars.reverse.takeWhile fun c => c != '-').reverse
  let ascii := chars.take (chars.length - digits.length - 1)
  if digits.length < chars.length ∧ ascii.isEmpty then none
  else readPlaces digits.length 72 128 0 ascii digits

end Punycode

end Text

end TelemetryRelay
