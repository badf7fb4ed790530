import TelemetryRelay.Compression.Distribution
import TelemetryRelay.Compression.Huffman

/-! # Literals of a block

    The octets that no copy stands for are kept as they are, as one octet that is
    repeated, or under a code of their own. The code is given by the weight of
    each octet: 0 if it does not occur, and otherwise the more the shorter its
    code is. The weight of the greatest octet follows from the others. Codes are
    read from the end, and long literals are in four streams.
-/

namespace TelemetryRelay

namespace Zstandard

open Bits (Field)

/-! ## Section 1: Codes from weights -/

/-- The length of the longest code. -/
def longestCode : Nat := 11

/-- The weights of octets with these code lengths, up to the greatest octet, and
    the length of the longest code. -/
def weightsOf (lengths : Array Nat) : List Nat × Nat :=
  let longest := lengths.foldl max 0
  let used := (lengths.toList.reverse.dropWhile (· == 0)).reverse
  (used.map fun n => if n = 0 then 0 else longest + 1 - n, longest)

/-- The octets with their weights in the order of their codes. -/
def orderedWeights (weights : List Nat) (longest : Nat) : List (Nat × Nat) :=
  (List.range longest).flatMap fun i => weights.zipIdx.filter fun p => p.1 == i + 1

/-- The code of each octet. -/
def octetCodes (weights : List Nat) (longest : Nat) : Array Field :=
  ((orderedWeights weights longest).foldl
    (fun (acc : Array Field × Nat) p =>
      let room := twoTo (p.1 - 1)
      (acc.1.set! p.2 ⟨acc.2 / room, longest + 1 - p.1⟩, acc.2 + room))
    (Array.replicate 256 ⟨0, 0⟩, 0)).1

/-- The octet and the code length for each value of as many bits as the longest
    code has. -/
def octetTable (weights : List Nat) (longest : Nat) : Array (UInt8 × Nat) :=
  (orderedWeights weights longest).foldl
    (fun table p =>
      table ++ Array.replicate (twoTo (p.1 - 1)) (UInt8.ofNat p.2, longest + 1 - p.1))
    #[]

/-! ## Section 2: Writing weights -/

/-- Two weights in each octet. -/
def pairWeights : List Nat → Bytes
  | a :: b :: rest => UInt8.ofNat (16 * a + b) :: pairWeights rest
  | [a] => [UInt8.ofNat (16 * a)]
  | [] => []

/-- Takes turns between two lists, as long as there is something on both sides. -/
def takeTurns : List Field → List Field → List Field
  | a :: as, b :: bs => a :: b :: takeTurns as bs
  | [a], [] => [a]
  | _, _ => []

/-- The weights at every other place from the first one on. -/
def everyOther : List Nat → List Nat
  | a :: _ :: rest => a :: everyOther rest
  | rest => rest

/-- Weights under a state code. Two walks take turns. -/
def codeWeights (weights : List Nat) : Bytes :=
  let counts := StateCode.countSymbols weights
  let accuracy := min 6 (StateCode.accuracyFor 6 weights.length (counts.size - 1))
  let shares := StateCode.sharesOf (twoTo accuracy) counts
  let table := StateCode.Table.ofWeights accuracy (shares.toList.map Int.ofNat)
  let one := table.walk (everyOther weights)
  let other := table.walk (everyOther (weights.drop 1))
  StateCode.describe accuracy shares ++ StateCode.packBackward
    (⟨one.headD 0, accuracy⟩ :: ⟨other.headD 0, accuracy⟩
      :: takeTurns (table.transitions one) (table.transitions other))

/-- The description of a code by the weights of all octets but the greatest, as
    short as it can be. There may be none. -/
def describeWeights (weights : List Nat) : Option Bytes :=
  let coded := if weights.all (· == weights.headD 0) then none else some (codeWeights weights)
  let coded := coded.filter fun octets => octets.length < 128
  let plain := if weights.length ≤ 128 then some (pairWeights weights) else none
  match coded, plain with
  | some c, some p =>
    if c.length < p.length then some (UInt8.ofNat c.length :: c)
    else some (UInt8.ofNat (127 + weights.length) :: p)
  | some c, none => some (UInt8.ofNat c.length :: c)
  | none, some p => some (UInt8.ofNat (127 + weights.length) :: p)
  | none, none => none

/-! ## Section 3: Writing literals -/

/-- Literals as a stream. -/
def literalStream (codes : Array Field) (literals : Bytes) : Bytes :=
  StateCode.packBackward (literals.map fun b => codes.getD b.toNat ⟨0, 0⟩)

/-- Literals as one stream, or as four with the lengths of the first three. -/
def literalStreams (codes : Array Field) (literals : Bytes) : Bytes :=
  if literals.length < 256 then literalStream codes literals
  else
    let quarter := (literals.length + 3) / 4
    let part := fun i => literalStream codes ((literals.drop (i * quarter)).take quarter)
    let a := part 0
    let b := part 1
    let c := part 2
    Bytes.littleEndian 2 a.length ++ Bytes.littleEndian 2 b.length
      ++ Bytes.littleEndian 2 c.length ++ a ++ b ++ c ++ part 3

/-- The header of literals without a code. -/
def plainHeader (kind n : Nat) : Bytes :=
  if n < 32 then [UInt8.ofNat (kind + n * 8)]
  else if n < 4096 then Bytes.littleEndian 2 (kind + 4 + n * 16)
  else Bytes.littleEndian 3 (kind + 12 + n * 16)

/-- The header of literals under a code: how many they are, and in how many
    octets they are written. -/
def codedHeader (n size : Nat) : Bytes :=
  if n < 256 ∧ size < 1024 then Bytes.littleEndian 3 (2 + n * 16 + size * 16384)
  else if n < 1024 ∧ size < 1024 then Bytes.littleEndian 3 (6 + n * 16 + size * 16384)
  else if n < 16384 ∧ size < 16384 then
    Bytes.littleEndian 4 (10 + n * 16 + size * 262144)
  else Bytes.littleEndian 5 (14 + n * 16 + size * 4194304)

/-- How often each octet occurs. -/
def countOctets (octets : Bytes) : Array Nat :=
  octets.foldl (fun counts b => counts.set! b.toNat (counts.getD b.toNat 0 + 1))
    (Array.replicate 256 0)

/-- Literals under a code of their own, with its description. -/
def codeLiterals (literals : Bytes) : Option Bytes :=
  let (weights, longest) := weightsOf (Huffman.lengths longestCode (countOctets literals))
  (describeWeights weights.dropLast).map fun description =>
    description ++ literalStreams (octetCodes weights longest) literals

/-- Whether all octets are the same. -/
def isRun (octets : Bytes) : Bool :=
  match octets with
  | [] => false
  | b :: rest => rest.all (· == b)

/-- How many octets a code has to save. -/
def leastGain (n : Nat) : Nat := n / 64 + 2

/-- Fewer literals than these are not worth a code. -/
def leastLiterals : Nat := 64

/-- The literals of a block. `plain` keeps them as they are. -/
def writeLiterals (plain : Bool) (literals : Bytes) : Bytes :=
  let n := literals.length
  if plain || n < leastLiterals then plainHeader 0 n ++ literals
  else if isRun literals then plainHeader 1 n ++ literals.take 1
  else
    match (codeLiterals literals).filter fun octets => octets.length + leastGain n < n with
    | some octets => codedHeader n octets.length ++ octets
    | none => plainHeader 0 n ++ literals

/-! ## Section 4: Reading -/

/-- Reads weights under a state code up to the place where the bits run out, last
    first. The state of the other walk then stands for the last one. -/
def readTurns (table : StateCode.Table) (data : Array UInt8) (start : Nat) :
    Nat → Nat → Nat → Nat → List Nat → Option (List Nat)
  | 0, _, _, _, _ => none
  | fuel + 1, position, state, other, weights => do
    let s ← table.states[state]?
    if position < start + s.width then
      let o ← table.states[other]?
      some (o.symbol :: s.symbol :: weights)
    else
      let (next, position) ← table.next? data start position state
      readTurns table data start fuel position other next (s.symbol :: weights)

/-- Reads so many weights that stand two in each octet. -/
def readPairs (data : Array UInt8) (start count : Nat) : List Nat :=
  (List.range count).map fun i =>
    let octet := (data.getD (start + i / 2) 0).toNat
    if i % 2 = 0 then octet / 16 else octet % 16

/-- The weight of the greatest octet, which makes the code whole, and the length
    of the longest code. -/
def lastWeight (weights : List Nat) : Option (Nat × Nat) :=
  let sum := weights.foldl (fun sum w => if w = 0 then sum else sum + twoTo (w - 1)) 0
  let longest := sum.log2 + 1
  let rest := twoTo longest - sum
  if sum = 0 ∨ twoTo rest.log2 ≠ rest then none else some (rest.log2 + 1, longest)

/-- Reads the description of a code: the octets of the code, the length of the
    longest one, and where the description ends. -/
def readCode (data : Array UInt8) (start : Nat) : Option (Array (UInt8 × Nat) × Nat × Nat) := do
  let first := (data.getD start 0).toNat
  let (weights, stop) ←
    if 128 ≤ first then
      some (readPairs data (start + 1) (first - 127), start + 1 + (first - 126) / 2)
    else do
      let stop := start + 1 + first
      let (table, bits) ← StateCode.readTable data (start + 1)
      let position := StateCode.startBackward data stop
      let one := StateCode.bitsBefore data (8 * bits) position table.accuracy
      let position := position - table.accuracy
      let other := StateCode.bitsBefore data (8 * bits) position table.accuracy
      let weights ← readTurns table data (8 * bits) 256 (position - table.accuracy) one other []
      some (weights.reverse, stop)
  let (last, longest) ← lastWeight weights
  if longestCode < longest then none
  else some (octetTable (weights ++ [last]) longest, longest, stop)

/-- Reads so many octets of a stream that has to end with them. -/
def readStream (table : Array (UInt8 × Nat)) (longest : Nat) (data : Array UInt8)
    (start : Nat) : Nat → Nat → Array UInt8 → Option (Array UInt8)
  | 0, position, output => if position = start then some output else none
  | count + 1, position, output => do
    let (octet, width) ← table[StateCode.bitsBefore data start position longest]?
    if position < start + width then none
    else readStream table longest data start count (position - width) (output.push octet)

/-- Reads `n` octets under a code that stand between `start` and `stop`. -/
def readCoded (data : Array UInt8) (start stop n : Nat) (single : Bool) :
    Option (Array UInt8) := do
  let (table, longest, start) ← readCode data start
  let read := fun start stop count output =>
    readStream table longest data (8 * start) count (StateCode.startBackward data stop) output
  if single then read start stop n #[]
  else
    let quarter := (n + 3) / 4
    let a := start + 6
    let b := a + Bits.valueAt data (8 * start) 16
    let c := b + Bits.valueAt data (8 * start + 16) 16
    let d := c + Bits.valueAt data (8 * start + 32) 16
    let output ← read a b quarter #[]
    let output ← read b c quarter output
    let output ← read c d quarter output
    read d stop (n - 3 * quarter) output

/-- The size of a header without a code and the number of literals. -/
def readPlainHeader (data : Array UInt8) (start : Nat) : Nat × Nat :=
  let format := Bits.valueAt data (8 * start + 2) 2
  if format % 2 = 0 then (1, Bits.valueAt data (8 * start + 3) 5)
  else if format = 1 then (2, Bits.valueAt data (8 * start + 4) 12)
  else (3, Bits.valueAt data (8 * start + 4) 20)

/-- Reads the literals from `start` on, and where they end. -/
def readLiterals (data : Array UInt8) (start : Nat) : Option (Array UInt8 × Nat) :=
  let kind := Bits.valueAt data (8 * start) 2
  if kind < 2 then
    let (width, n) := readPlainHeader data start
    let start := start + width
    if kind = 0 then some (data.extract start (start + n), start + n)
    else some (Array.replicate n (data.getD start 0), start + 1)
  else if kind = 2 then
    let format := Bits.valueAt data (8 * start + 2) 2
    let width := if format < 2 then 10 else if format = 2 then 14 else 18
    let n := Bits.valueAt data (8 * start + 4) width
    let size := Bits.valueAt data (8 * start + 4 + width) width
    let start := start + (4 + 2 * width) / 8
    (readCoded data start (start + size) n (format = 0)).map fun literals =>
      (literals, start + size)
  else none

end Zstandard

end TelemetryRelay
