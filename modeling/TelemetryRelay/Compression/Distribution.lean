import TelemetryRelay.Compression.StateCode

/-! # Distributions

    The table of a state code is given by how many places each symbol has. The
    places are shared out by how often the symbols occur, and they are written in
    fields that get narrower as the places that are left get fewer.
-/

namespace TelemetryRelay

namespace StateCode

open Bits (Field)

/-! ## Section 1: Sharing out -/

/-- How often each symbol occurs, up to the greatest one. -/
def countSymbols (symbols : List Nat) : Array Nat :=
  symbols.foldl (fun counts symbol => counts.set! symbol (counts.getD symbol 0 + 1))
    (Array.replicate (symbols.foldl max 0 + 1) 0)

/-- The sum of some numbers. -/
def sumOf (numbers : Array Nat) : Nat := numbers.foldl (fun sum n => sum + n) 0

/-- The index of the first greatest number. -/
def greatestAt (numbers : Array Nat) : Nat :=
  (numbers.toList.zipIdx.foldl
    (fun (best : Nat × Nat) p => if best.1 < p.1 then p else best) (0, 0)).2

/-- Makes shares fill a table: the greatest one gets what is left, and gives away
    what is missing. -/
def settleShares (size : Nat) : Nat → Array Nat → Array Nat
  | 0, shares => shares
  | fuel + 1, shares =>
    let sum := sumOf shares
    let top := greatestAt shares
    let share := shares.getD top 0
    if sum < size then shares.set! top (share + (size - sum))
    else if size < sum then settleShares size fuel (shares.set! top (share - 1))
    else shares

/-- The places of each symbol in a table of so many: near its share of all, and
    at least one if it occurs. -/
def sharesOf (size : Nat) (counts : Array Nat) : Array Nat :=
  let total := sumOf counts
  settleShares size (counts.size + 1)
    (counts.map fun n => if n = 0 then 0 else max 1 ((2 * n * size + total) / (2 * total)))

/-- How accurate a table should be: the more symbols are coded, the finer, up to
    a limit, and it has to have room for the greatest symbol. -/
def accuracyFor (limit count greatest : Nat) : Nat :=
  let wanted := min limit ((count - 1).log2 - 2)
  max 5 (max wanted (min (count.log2 + 1) (greatest.log2 + 2)))

/-! ## Section 2: Writing -/

/-- The field of a number of places, of which `left` less one are left. Small
    numbers take one bit less. -/
def shareField (left share : Nat) : Field :=
  let half := twoTo left.log2
  let short := 2 * half - 1 - left
  let value := if share + 1 < half then share + 1 else share + 1 + short
  ⟨value, if value < short then left.log2 else left.log2 + 1⟩

/-- The fields of so many symbols without places after one of them. -/
def absentFields (n : Nat) : List Field :=
  List.replicate (n / 3) ⟨3, 2⟩ ++ [⟨n % 3, 2⟩]

/-- The fields of the places of all symbols. `absent` counts those without places
    after one of them. -/
def shareFields : List Nat → Nat → Option Nat → List Field
  | [], _, _ => []
  | 0 :: rest, left, some absent => shareFields rest left (some (absent + 1))
  | share :: rest, left, absent =>
    (absent.map absentFields).getD [] ++
      shareField left share :: shareFields rest (left - share) (if share = 0 then some 0 else none)

/-- The octets that describe a table. -/
def describe (accuracy : Nat) (shares : Array Nat) : Bytes :=
  Bits.pack (⟨accuracy - 5, 4⟩ :: shareFields shares.toList (twoTo accuracy + 1) none)

/-! ## Section 3: Reading -/

/-- How many more symbols have no places, and the position after that. -/
def readAbsent (data : Array UInt8) : Nat → Nat → Nat → Nat × Nat
  | 0, position, absent => (absent, position)
  | fuel + 1, position, absent =>
    let n := Bits.valueAt data position 2
    if n = 3 then readAbsent data fuel (position + 2) (absent + 3) else (absent + n, position + 2)

/-- The value of a field for `left`, and the position after it. -/
def readShare (data : Array UInt8) (position left : Nat) : Nat × Nat :=
  let half := twoTo left.log2
  let short := 2 * half - 1 - left
  let low := Bits.valueAt data position left.log2
  let value := Bits.valueAt data position (left.log2 + 1)
  if low < short then (low, position + left.log2)
  else (if value < half then value else value - short, position + left.log2 + 1)

/-- The weights of all symbols, last first, and the position after them. -/
def readShares (data : Array UInt8) : Nat → Nat → Nat → List Int → Option (List Int × Nat)
  | 0, _, _, _ => none
  | fuel + 1, position, left, weights =>
    if left ≤ 1 then some (weights, position)
    else
      let (value, position) := readShare data position left
      let weight : Int := value - 1
      if left ≤ weight.natAbs then none
      else if weight = 0 then
        let (absent, position) := readAbsent data fuel position 0
        readShares data fuel position left (List.replicate (absent + 1) 0 ++ weights)
      else readShares data fuel position (left - weight.natAbs) (weight :: weights)

/-- The table that is described from an octet on, and the octet after it. -/
def readTable (data : Array UInt8) (start : Nat) : Option (Table × Nat) :=
  let accuracy := Bits.valueAt data (8 * start) 4 + 5
  (readShares data 256 (8 * start + 4) (twoTo accuracy + 1) []).map fun (weights, position) =>
    (.ofWeights accuracy weights.reverse, (position + 7) / 8)

end StateCode

end TelemetryRelay
