import TelemetryRelay.Compression.Literals
import TelemetryRelay.Compression.Seeker

/-! # Sequences of a block

    A sequence is written as three values: how many literals it takes, how much it
    copies, and from where. Each value has a code and extra bits. The codes of
    each kind go through a table of states that is standard, stands for a single
    code, or is described before. The three distances used last have numbers of
    their own.
-/

namespace TelemetryRelay

namespace Zstandard

open Bits (Field)
open Seeker (Sequence)
open StateCode (Table)

/-! ## Section 1: Codes -/

/-- The least literal counts of their codes, with extra bits. -/
def literalBases : Array (Nat × Nat) :=
  ((List.range 16).map fun n => (n, 0)).toArray ++
    #[(16, 1), (18, 1), (20, 1), (22, 1), (24, 2), (28, 2), (32, 3), (40, 3), (48, 4),
      (64, 6), (128, 7), (256, 8), (512, 9), (1024, 10), (2048, 11), (4096, 12),
      (8192, 13), (16384, 14), (32768, 15), (65536, 16)]

/-- The least copy lengths of their codes, with extra bits. -/
def lengthBases : Array (Nat × Nat) :=
  ((List.range 32).map fun n => (n + 3, 0)).toArray ++
    #[(35, 1), (37, 1), (39, 1), (41, 1), (43, 2), (47, 2), (51, 3), (59, 3), (67, 4),
      (83, 4), (99, 5), (131, 7), (259, 8), (515, 9), (1027, 10), (2051, 11), (4099, 12),
      (8195, 13), (16387, 14), (32771, 15), (65539, 16)]

/-- The standard states for literal counts. -/
def literalTable : Table := .ofWeights 6
  [4, 3, 2, 2, 2, 2, 2, 2, 2, 2, 2, 2, 2, 1, 1, 1, 2, 2, 2, 2, 2, 2, 2, 2, 2, 3, 2, 1,
   1, 1, 1, 1, -1, -1, -1, -1]

/-- The standard states for copy lengths. -/
def lengthTable : Table := .ofWeights 6
  [1, 4, 3, 2, 2, 2, 2, 2, 2, 1, 1, 1, 1, 1, 1, 1, 1, 1, 1, 1, 1, 1, 1, 1, 1, 1, 1, 1,
   1, 1, 1, 1, 1, 1, 1, 1, 1, 1, 1, 1, 1, 1, 1, 1, 1, 1, -1, -1, -1, -1, -1, -1, -1]

/-- The standard states for distances. -/
def distanceTable : Table := .ofWeights 5
  [1, 1, 1, 1, 1, 1, 2, 2, 2, 1, 1, 1, 1, 1, 1, 1, 1, 1, 1, 1, 1, 1, 1, 1, -1, -1, -1,
   -1, -1]

/-- The last code whose least value is at most `value`. -/
def codeOf (bases : Array (Nat × Nat)) (value : Nat) : Nat :=
  (bases.foldl (fun n base => if base.1 ≤ value then n + 1 else n) 0) - 1

/-- The extra bits of a value under its code. -/
def extraOf (bases : Array (Nat × Nat)) (code value : Nat) : Field :=
  let base := bases.getD code (0, 0)
  ⟨value - base.1, base.2⟩

/-! ## Section 2: Distances used last -/

/-- The three distances that were used last, latest first. -/
structure Recent where
  first : Nat
  second : Nat
  third : Nat
deriving DecidableEq, Repr

namespace Recent

/-- What counts as used last at the start of a frame. -/
def start : Recent := ⟨1, 4, 8⟩

/-- Uses a distance that is not among the latest. -/
def push (recent : Recent) (distance : Nat) : Recent :=
  ⟨distance, recent.first, recent.second⟩

/-- Uses the distance with a number up to 4. The last one stands for one less
    than the latest distance. -/
def use (recent : Recent) : Nat → Recent
  | 1 => recent
  | 2 => ⟨recent.second, recent.first, recent.third⟩
  | 3 => ⟨recent.third, recent.first, recent.second⟩
  | _ => recent.push (recent.first - 1)

/-- How far the numbers of the latest distances are shifted: a copy right after
    another one does not go on at the same distance. -/
def shift (literals : Nat) : Nat := if literals = 0 then 1 else 0

/-- The number of the way a distance was used last, up to 4. -/
def find? (recent : Recent) (literals distance : Nat) : Option Nat :=
  if literals ≠ 0 ∧ distance = recent.first then some 1
  else if distance = recent.second then some 2
  else if distance = recent.third then some 3
  else if literals = 0 ∧ distance = recent.first - 1 then some 4
  else none

/-- The number a distance is written as, and the distances used last after it. -/
def number (recent : Recent) (literals distance : Nat) : Nat × Recent :=
  match recent.find? literals distance with
  | some way => (way - shift literals, recent.use way)
  | none => (distance + 3, recent.push distance)

/-- The distances used last after one with this number, which is their first. -/
def after (recent : Recent) (literals number : Nat) : Recent :=
  if 3 < number then recent.push (number - 3) else recent.use (number + shift literals)

end Recent

/-! ## Section 3: Writing -/

/-- The codes of a sequence and its extra bits. -/
structure Coded where
  literals : Nat
  length : Nat
  distance : Nat
  extras : List Field

/-- A sequence under its codes, with the number of its distance. -/
def codeSequence (s : Sequence) (number : Nat) : Coded :=
  let l := codeOf literalBases s.literals
  let m := codeOf lengthBases s.length
  let d := number.log2
  ⟨l, m, d, [⟨number - twoTo d, d⟩, extraOf lengthBases m s.length,
    extraOf literalBases l s.literals]⟩

/-- Sequences under their codes, and the distances used last after them. -/
def codeSequences (sequences : List Sequence) (recent : Recent) : List Coded × Recent :=
  let (coded, recent) := sequences.foldl
    (fun (acc : List Coded × Recent) s =>
      let (number, recent) := acc.2.number s.literals s.distance
      (codeSequence s number :: acc.1, recent))
    ([], recent)
  (coded.reverse, recent)

/-- A table of states, how it is chosen, and its description. -/
structure Choice where
  mode : Nat
  description : Bytes
  table : Table

/-- The number of bits some codes take under a choice. -/
def Choice.cost (choice : Choice) (codes : List Nat) : Nat :=
  8 * choice.description.length + choice.table.cost codes

/-- A table made for some codes, no finer than `limit`. -/
def ownChoice (limit : Nat) (codes : List Nat) : Choice :=
  let counts := StateCode.countSymbols codes
  let accuracy := StateCode.accuracyFor limit codes.length (counts.size - 1)
  let shares := StateCode.sharesOf (twoTo accuracy) counts
  ⟨2, StateCode.describe accuracy shares, .ofWeights accuracy (shares.toList.map Int.ofNat)⟩

/-- The choice that takes the fewest bits. -/
def choose (standard : Table) (limit : Nat) (codes : List Nat) : Choice :=
  let first := codes.headD 0
  let own : Choice :=
    if codes.all (· == first) then ⟨1, [UInt8.ofNat first], .single first⟩
    else ownChoice limit codes
  if codes.all standard.has then
    let choice : Choice := ⟨0, [], standard⟩
    if choice.cost codes ≤ own.cost codes then choice else own
  else own

/-- Alternates the extra bits of each sequence with the bits that lead to the
    states of the next one. -/
def interleave : List Coded → List Field → List Field → List Field → List Field
  | s :: rest, l :: ls, m :: ms, d :: ds => s.extras ++ l :: m :: d :: interleave rest ls ms ds
  | s :: _, _, _, _ => s.extras
  | [], _, _, _ => []

/-- The number of sequences. -/
def countField (n : Nat) : Bytes :=
  if n < 128 then [UInt8.ofNat n]
  else if n < 32512 then [UInt8.ofNat (n / 256 + 128), UInt8.ofNat (n % 256)]
  else 255 :: Bytes.littleEndian 2 (n - 32512)

/-- The sequences of a block. -/
def writeSequences (coded : List Coded) : Bytes :=
  let ls := coded.map Coded.literals
  let ds := coded.map Coded.distance
  let ms := coded.map Coded.length
  let l := choose literalTable 9 ls
  let d := choose distanceTable 8 ds
  let m := choose lengthTable 9 ms
  let ls := l.table.walk ls
  let ds := d.table.walk ds
  let ms := m.table.walk ms
  let fields : List Field :=
    ⟨ls.headD 0, l.table.accuracy⟩ :: ⟨ds.headD 0, d.table.accuracy⟩
      :: ⟨ms.headD 0, m.table.accuracy⟩
      :: interleave coded (l.table.transitions ls) (m.table.transitions ms)
        (d.table.transitions ds)
  countField coded.length ++
    if coded.isEmpty then []
    else UInt8.ofNat (64 * l.mode + 16 * d.mode + 4 * m.mode) ::
      (l.description ++ d.description ++ m.description ++ StateCode.packBackward fields)

/-! ## Section 4: Reading -/

/-- The number of sequences and the size it is written in. -/
def readCount (data : Array UInt8) (start : Nat) : Nat × Nat :=
  let first := (data.getD start 0).toNat
  let second := (data.getD (start + 1) 0).toNat
  if first < 128 then (first, 1)
  else if first < 255 then ((first - 128) * 256 + second, 2)
  else (Bits.valueAt data (8 * (start + 1)) 16 + 32512, 3)

/-- The table that is chosen by a mode, and where its description ends. -/
def readChoice (standard : Table) (data : Array UInt8) (mode start : Nat) :
    Option (Table × Nat) :=
  if mode = 0 then some (standard, start)
  else if mode = 1 then some (.single (data.getD start 0).toNat, start + 1)
  else if mode = 2 then StateCode.readTable data start
  else none

/-- Appends a copy of what stands `distance` before. -/
def copyBack (distance : Nat) : Nat → Array UInt8 → Array UInt8
  | 0, output => output
  | n + 1, output => copyBack distance n (output.push (output.getD (output.size - distance) 0))

/-- The tables of the three kinds of codes. -/
structure Tables where
  literals : Table
  length : Table
  distance : Table

/-- Reads and carries out sequences: what is put out, how many literals are used,
    and the distances used last. `start` is the place of the first bit. -/
def runSequences (tables : Tables) (data literals : Array UInt8) (start : Nat) :
    Nat → Nat → Nat → Nat → Nat → Nat → Recent → Array UInt8 →
      Option (Array UInt8 × Nat × Recent)
  | 0, _, _, _, _, used, recent, output => some (output, used, recent)
  | count + 1, l, d, m, position, used, recent, output => do
    let ls ← tables.literals.states[l]?
    let ds ← tables.distance.states[d]?
    let ms ← tables.length.states[m]?
    let (lengthBase, lengthWidth) ← lengthBases[ms.symbol]?
    let (literalBase, literalWidth) ← literalBases[ls.symbol]?
    let number := twoTo ds.symbol + StateCode.bitsBefore data start position ds.symbol
    let position := position - ds.symbol
    let length := lengthBase + StateCode.bitsBefore data start position lengthWidth
    let position := position - lengthWidth
    let taken := literalBase + StateCode.bitsBefore data start position literalWidth
    let position := position - literalWidth
    let output := output ++ literals.extract used (used + taken)
    let recent := recent.after taken number
    if recent.first = 0 ∨ output.size < recent.first then none
    else
      let output := copyBack recent.first length output
      let (l, position) ← tables.literals.next? data start position l
      let (m, position) ← tables.length.next? data start position m
      let (d, position) ← tables.distance.next? data start position d
      runSequences tables data literals start count l d m position (used + taken) recent output

/-- Reads the sequences that stand between two octets, with their literals. The
    literals that no sequence takes come last. -/
def readSequences (data : Array UInt8) (start stop : Nat) (literals : Array UInt8)
    (recent : Recent) (output : Array UInt8) : Option (Array UInt8 × Recent) := do
  let (count, width) := readCount data start
  if count = 0 then some (output ++ literals, recent)
  else
    let modes := (data.getD (start + width) 0).toNat
    let (l, next) ← readChoice literalTable data (modes / 64) (start + width + 1)
    let (d, next) ← readChoice distanceTable data (modes / 16 % 4) next
    let (m, next) ← readChoice lengthTable data (modes / 4 % 4) next
    let start := 8 * next
    let position := StateCode.startBackward data stop
    let ls := StateCode.bitsBefore data start position l.accuracy
    let position := position - l.accuracy
    let ds := StateCode.bitsBefore data start position d.accuracy
    let position := position - d.accuracy
    let ms := StateCode.bitsBefore data start position m.accuracy
    let (output, used, recent) ← runSequences ⟨l, m, d⟩ data literals start count ls ds ms
      (position - m.accuracy) 0 recent output
    some (output ++ literals.extract used literals.size, recent)

end Zstandard

end TelemetryRelay
