import TelemetryRelay.Compression.Bits

/-! # State codes

    Sequences of symbols are coded by a walk through a table of states. Every
    state stands for a symbol, and the next state is its baseline plus some bits.
    The writer goes backwards: each state is the one of its symbol whose range of
    next states holds the state chosen before. Bits are read from their end, so
    that the reader goes forwards.
-/

namespace TelemetryRelay

namespace StateCode

open Bits (Field)

/-- A state: its symbol, and where it can go. -/
structure State where
  symbol : Nat
  baseline : Nat
  width : Nat
deriving Repr, Inhabited

/-- A table of `2 ^ accuracy` states, with the states of each symbol in order. -/
structure Table where
  accuracy : Nat
  states : Array State
  places : Array (Array Nat)

/-! ## Section 1: Tables -/

/-- The place after `place` that is not reserved. -/
def nextPlace (size limit : Nat) : Nat → Nat → Nat
  | 0, place => place
  | fuel + 1, place =>
    let place := (place + size / 2 + size / 8 + 3) % size
    if place < limit then place else nextPlace size limit fuel place

/-- Gives a symbol so many places, and returns the next free one. -/
def spread (size limit symbol : Nat) : Nat → Array Nat → Nat → Array Nat × Nat
  | 0, symbols, place => (symbols, place)
  | count + 1, symbols, place =>
    spread size limit symbol count (symbols.set! place symbol)
      (nextPlace size limit size place)

/-- The symbol of every state. A weight is the number of places of a symbol: 0
    is one that does not occur, and -1 a rare one, which gets one place at the
    end. -/
def symbolsOf (size : Nat) (weights : List Int) : Array Nat :=
  let rare := (weights.zipIdx.filter fun p => p.1 == -1).map fun p => p.2
  let limit := size - rare.length
  let start := (rare.foldl
    (fun (acc : Array Nat × Nat) symbol => (acc.1.set! (acc.2 - 1) symbol, acc.2 - 1))
    (Array.replicate size 0, size)).1
  (weights.zipIdx.foldl
    (fun (acc : Array Nat × Nat) p => spread size limit p.2 p.1.toNat acc.1 acc.2)
    (start, 0)).1

/-- The table of a distribution. The states of a symbol with `n` places are
    numbered from `n` on, and a state goes the further the lower its number is. -/
def Table.ofWeights (accuracy : Nat) (weights : List Int) : Table :=
  let size := twoTo accuracy
  let symbols := symbolsOf size weights
  let counts := (weights.map Int.natAbs).toArray
  let states := (symbols.foldl
    (fun (acc : Array State × Array Nat) symbol =>
      let n := acc.2.getD symbol 1
      let width := accuracy - n.log2
      (acc.1.push ⟨symbol, n * twoTo width - size, width⟩, acc.2.set! symbol (n + 1)))
    (#[], counts)).1
  let places := symbols.toList.zipIdx.foldl
    (fun (places : Array (Array Nat)) p => places.set! p.1 ((places.getD p.1 #[]).push p.2))
    (Array.replicate weights.length #[])
  ⟨accuracy, states, places⟩

/-- The table of a single symbol, which takes no bits. -/
def Table.single (symbol : Nat) : Table :=
  ⟨0, #[⟨symbol, 0, 0⟩], (Array.replicate symbol #[]).push #[0]⟩

/-- Whether a symbol has a state. -/
def Table.has (table : Table) (symbol : Nat) : Bool :=
  !(table.places.getD symbol #[]).isEmpty

/-! ## Section 2: Walks -/

/-- The state of this symbol that can go to `next`, or the first one if there is
    no next. It is the one whose number begins like `next` does. -/
def Table.stateFor (table : Table) (symbol : Nat) (next : Option Nat) : Nat :=
  let places := table.places.getD symbol #[]
  match next with
  | none => places.getD 0 0
  | some next =>
    let n := places.size
    let whole := next + twoTo table.accuracy
    let width := whole.log2 - n.log2
    let number := whole / twoTo width
    let number := if number < n then whole / twoTo (width - 1) else number
    places.getD (number - n) 0

/-- The states of a list of symbols. -/
def Table.walk (table : Table) (symbols : List Nat) : List Nat :=
  symbols.foldr (fun symbol states => table.stateFor symbol states.head? :: states) []

/-- The bits that lead from each state to the next one. -/
def Table.transitions (table : Table) : List Nat → List Field
  | state :: next :: rest =>
    let s := table.states.getD state default
    ⟨next - s.baseline, s.width⟩ :: table.transitions (next :: rest)
  | _ => []

/-- The number of bits of a walk. -/
def Table.cost (table : Table) (symbols : List Nat) : Nat :=
  table.accuracy + Bits.totalWidth (table.transitions (table.walk symbols))

/-! ## Section 3: Reading from the end -/

/-- The octets of fields that are read from the end: a bit that marks the end
    comes last. -/
def packBackward (fields : List Field) : Bytes :=
  Bits.pack (fields.reverse ++ [⟨1, 1⟩])

/-- Where reading from the end starts: at the last bit that is set. -/
def startBackward (data : Array UInt8) (stop : Nat) : Nat :=
  8 * (stop - 1) + (data.getD (stop - 1) 0).toNat.log2

/-- The value of the `width` bits before a position. Where the bits start at
    `start` already, zeros are read in place of those before them. -/
def bitsBefore (data : Array UInt8) (start position width : Nat) : Nat :=
  if start + width ≤ position then Bits.valueAt data (position - width) width
  else Bits.valueAt data start (position - start) * twoTo (start + width - position)

/-- The state after this one, and the position after its bits. -/
def Table.next? (table : Table) (data : Array UInt8) (start position state : Nat) :
    Option (Nat × Nat) :=
  (table.states[state]?).map fun s =>
    (s.baseline + bitsBefore data start position s.width, position - s.width)

end StateCode

end TelemetryRelay
