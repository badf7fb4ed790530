import TelemetryRelay.Compression.Sequences

/-! # Zstandard

    A frame is cut into blocks of at most 128 KiB. A block holds literals and
    sequences, a single octet that is repeated, or its data as it is where
    sequences do not make it shorter. The level decides how to look for copies.
-/

namespace TelemetryRelay

namespace Zstandard

open Seeker (Sequence)

/-! ## Section 1: Levels -/

/-- How to look for copies. -/
inductive Search where
  | steps (pace : Seeker.Pace)
  | chains (effort : Seeker.Effort)
deriving DecidableEq, Repr

/-- What a level stands for. -/
structure Method where
  /-- The number of bits of the greatest distance. -/
  windowBits : Nat
  /-- Whether literals are kept as they are. -/
  plain : Bool
  /-- How to look for copies. -/
  search : Search
deriving DecidableEq, Repr

/-- The level that 0 stands for. -/
def standardLevel : Nat := 3

/-- The greatest step. Levels that are still lower do not go any faster. -/
def greatestStep : Nat := 131072

/-- The method of a level. Below 0, the data is gone through in steps, and the
    lower the level the wider they are. -/
def methodOf (level : Int) : Method :=
  if level < 0 then ⟨19, true, .steps ⟨6, 13, min level.natAbs greatestStep + 1⟩⟩
  else
    let level := if level = 0 then standardLevel else level.toNat
    if level = 1 then ⟨19, false, .steps ⟨7, 14, 2⟩⟩
    else if level = 2 then ⟨20, false, .steps ⟨6, 16, 2⟩⟩
    else if level ≤ 4 then ⟨21, false, .chains ⟨4, 5, false⟩⟩
    else if level ≤ 6 then ⟨21, false, .chains ⟨8, 5, true⟩⟩
    else if level ≤ 9 then ⟨21, false, .chains ⟨16, 5, true⟩⟩
    else if level ≤ 16 then ⟨22, false, .chains ⟨32, 5, true⟩⟩
    else ⟨23, false, .chains ⟨64, 4, true⟩⟩

/-! ## Section 2: Searching -/

/-- A search with what it has seen so far. -/
inductive Searcher where
  | steps (pace : Seeker.Pace) (heads : Seeker.Heads)
  | chains (effort : Seeker.Effort) (seen : Seeker.Chains)

namespace Searcher

/-- A search that has seen nothing of data of this size. -/
def start (search : Search) (size : Nat) : Searcher :=
  match search with
  | .steps pace => .steps pace (Array.replicate (twoTo pace.bits) 0)
  | .chains effort => .chains effort (.empty size)

/-- The sequences of the block between two places. -/
def sequences (searcher : Searcher) (window : Nat) (data : Array UInt8) (start stop : Nat)
    (recent : Recent) : List Sequence × Searcher :=
  match searcher with
  | .steps pace heads =>
    let (found, heads) :=
      Seeker.skim pace window data start stop recent.first recent.second heads
    (found, .steps pace heads)
  | .chains effort seen =>
    let (found, seen) := Seeker.seek effort window data start stop recent.first seen
    (found, .chains effort seen)

end Searcher

/-! ## Section 3: Writing -/

/-- The literals of the block between two places. -/
def literalsOf (data : Array UInt8) (start stop : Nat) (sequences : List Sequence) : Bytes :=
  let (literals, place) := sequences.foldl
    (fun (acc : Array UInt8 × Nat) s =>
      (acc.1 ++ data.extract acc.2 (acc.2 + s.literals), acc.2 + s.literals + s.length))
    (#[], start)
  (literals ++ data.extract place stop).toList

/-- The contents of the block between two places with these sequences, and the
    distances used last after it. -/
def contentsOf (plain : Bool) (data : Array UInt8) (start stop : Nat) (recent : Recent)
    (sequences : List Sequence) : Bytes × Recent :=
  let (coded, recent) := codeSequences sequences recent
  (writeLiterals plain (literalsOf data start stop sequences) ++ writeSequences coded, recent)

/-- The shorter one of the contents with these sequences and with none. -/
def bestContents (plain : Bool) (data : Array UInt8) (start stop : Nat) (recent : Recent)
    (sequences : List Sequence) : Bytes × Recent :=
  let found := contentsOf plain data start stop recent sequences
  let bare := contentsOf plain data start stop recent []
  if bare.1.length < found.1.length then bare else found

/-- The greatest size of a block. -/
def blockSize : Nat := 128 * 1024

/-- A block with its header. -/
def block (last : Bool) (kind size : Nat) (contents : Bytes) : Bytes :=
  Bytes.littleEndian 3 ((if last then 1 else 0) + kind * 2 + size * 8) ++ contents

/-- Contents that are hardly longer than a repeated octet. -/
def tinySize : Nat := 25

/-- Writes the block of some octets, which has these contents if they are short
    enough. The result tells whether it does. The first block is not written as a
    repeated octet. -/
def writeBlock (first last : Bool) (octets contents : Bytes) : Bytes × Bool :=
  let n := octets.length
  let fits := contents.length + leastGain n < n
  if !first && isRun octets && (!fits || contents.length < tinySize) then
    (block last 1 n (octets.take 1), false)
  else if fits then (block last 2 contents.length contents, true)
  else (block last 0 n octets, false)

/-- Writes the data from a place on, the last block first. Distances count as used
    only by a block with sequences. -/
def writeBlocks (method : Method) (data : Array UInt8) :
    Nat → Nat → Recent → Searcher → List Bytes → List Bytes
  | 0, _, _, _, blocks => blocks
  | fuel + 1, start, recent, searcher, blocks =>
    let stop := min data.size (start + blockSize)
    let last := data.size < start + blockSize
    let octets := (data.extract start stop).toList
    let (sequences, searcher) :=
      searcher.sequences (twoTo method.windowBits) data start stop recent
    let (contents, next) := bestContents method.plain data start stop recent sequences
    let (written, used) := writeBlock (start = 0) last octets contents
    let blocks := written :: blocks
    if last then blocks
    else writeBlocks method data fuel stop (if used then next else recent) searcher blocks

/-- The mark that every frame starts with. -/
def mark : Bytes := [40, 181, 47, 253]

/-- What a frame starts with: the mark, no options, and the size of the window. -/
def header (windowBits : Nat) : Bytes := mark ++ [0, UInt8.ofNat (8 * (windowBits - 10))]

/-- Compresses data at a level. -/
def compress (level : Int) (data : Bytes) : Bytes :=
  let method := methodOf level
  let data := data.toArray
  header method.windowBits ++
    (writeBlocks method data (data.size + 1) 0 .start (.start method.search data.size)
      []).reverse.flatten

/-! ## Section 4: Reading -/

/-- Reads blocks up to the last one. -/
def readBlocks (data : Array UInt8) :
    Nat → Nat → Recent → Array UInt8 → Option (Array UInt8)
  | 0, _, _, _ => none
  | fuel + 1, start, recent, output => do
    let head := Bits.valueAt data (8 * start) 24
    let kind := head / 2 % 4
    let size := head / 8
    let start := start + 3
    let stop := start + if kind = 1 then 1 else size
    if data.size < stop then none
    else
      let (output, recent) ←
        if kind = 0 then some (output ++ data.extract start stop, recent)
        else if kind = 1 then some (output ++ Array.replicate size (data.getD start 0), recent)
        else if kind = 2 then do
          let (literals, next) ← readLiterals data start
          readSequences data next stop literals recent output
        else none
      if head % 2 = 1 then (if stop = data.size then some output else none)
      else readBlocks data fuel stop recent output

/-- Reads a frame of the kind written here. -/
def decompress (frame : Bytes) : Option Bytes :=
  if frame.take 4 = mark ∧ (frame.drop 4).head? = some 0 then
    let data := frame.toArray
    (readBlocks data (data.size + 1) 6 .start #[]).map Array.toList
  else none

end Zstandard

end TelemetryRelay
