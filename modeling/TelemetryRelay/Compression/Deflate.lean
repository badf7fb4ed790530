import TelemetryRelay.Compression.Huffman
import TelemetryRelay.Compression.Matcher

/-! # Compressed blocks

    Data cut into pieces is written in blocks. A block has fixed codes if it is
    short, codes of its own otherwise, and is stored as it is where codes would
    not make it shorter.
-/

namespace TelemetryRelay

namespace Deflate

open Bits (Field)
open Matcher (Token)

/-! ## Section 1: Symbols -/

/-- The symbol that ends a block. -/
def endSymbol : Nat := 256

/-- The least lengths of the length symbols from 257 on, with their extra bits. -/
def lengthBases : Array (Nat × Nat) :=
  #[(3, 0), (4, 0), (5, 0), (6, 0), (7, 0), (8, 0), (9, 0), (10, 0), (11, 1), (13, 1),
    (15, 1), (17, 1), (19, 2), (23, 2), (27, 2), (31, 2), (35, 3), (43, 3), (51, 3),
    (59, 3), (67, 4), (83, 4), (99, 4), (115, 4), (131, 5), (163, 5), (195, 5), (227, 5),
    (258, 0)]

/-- The least distances of the distance symbols, with their extra bits. -/
def distanceBases : Array (Nat × Nat) :=
  #[(1, 0), (2, 0), (3, 0), (4, 0), (5, 1), (7, 1), (9, 2), (13, 2), (17, 3), (25, 3),
    (33, 4), (49, 4), (65, 5), (97, 5), (129, 6), (193, 6), (257, 7), (385, 7), (513, 8),
    (769, 8), (1025, 9), (1537, 9), (2049, 10), (3073, 10), (4097, 11), (6145, 11),
    (8193, 12), (12289, 12), (16385, 13), (24577, 13)]

/-- The last symbol whose least value is at most `value`. -/
def symbolOf (bases : Array (Nat × Nat)) (value : Nat) : Nat :=
  (bases.foldl (fun n base => if base.1 ≤ value then n + 1 else n) 0) - 1

/-- A value as its symbol and extra bits. -/
def splitValue (bases : Array (Nat × Nat)) (value : Nat) : Nat × Field :=
  let symbol := symbolOf bases value
  let base := bases.getD symbol (0, 0)
  (symbol, ⟨value - base.1, base.2⟩)

/-! ## Section 2: Codes of a block -/

/-- The codes of a block. -/
structure Codes where
  literals : Array Field
  distances : Array Field

/-- The fields of a piece. -/
def Codes.token (codes : Codes) : Token → List Field
  | .literal b => [codes.literals.getD b.toNat ⟨0, 0⟩]
  | .copy length distance =>
    let (l, lengthExtra) := splitValue lengthBases length
    let (d, distanceExtra) := splitValue distanceBases distance
    [codes.literals.getD (257 + l) ⟨0, 0⟩, lengthExtra,
      codes.distances.getD d ⟨0, 0⟩, distanceExtra]

/-- The fields of the pieces of a block and of its end. -/
def Codes.body (codes : Codes) (tokens : List Token) : List Field :=
  tokens.flatMap codes.token ++ [codes.literals.getD endSymbol ⟨0, 0⟩]

/-- The code lengths of a block with fixed codes. -/
def fixedLiteralLengths : Array Nat :=
  Array.replicate 144 8 ++ Array.replicate 112 9 ++ Array.replicate 24 7
    ++ Array.replicate 8 8

/-- The fixed codes. -/
def fixedCodes : Codes :=
  ⟨Huffman.codes fixedLiteralLengths, Huffman.codes (Array.replicate 32 5)⟩

/-- A block with fixed codes, after its first bit. -/
def fixedBlock (tokens : List Token) : List Field :=
  ⟨1, 2⟩ :: fixedCodes.body tokens

/-- Counts one more use of a symbol. -/
def countUse (counts : Array Nat) (symbol : Nat) : Array Nat :=
  counts.set! symbol (counts.getD symbol 0 + 1)

/-- How often each symbol is used in a block. -/
def frequencies (tokens : List Token) : Array Nat × Array Nat :=
  tokens.foldl
    (fun (acc : Array Nat × Array Nat) token =>
      match token with
      | .literal b => (countUse acc.1 b.toNat, acc.2)
      | .copy length distance =>
        (countUse acc.1 (257 + (splitValue lengthBases length).1),
          countUse acc.2 (splitValue distanceBases distance).1))
    (countUse (Array.replicate 286 0) endSymbol, Array.replicate 30 0)

/-! ## Section 3: Writing code lengths -/

/-- One entry of the packed code lengths: a symbol with its extra bits. -/
structure Packed where
  symbol : Nat
  extra : Field

/-- A run of zeros that is not longer than 138. -/
def zeroRun (n : Nat) : List Packed :=
  if n < 3 then List.replicate n ⟨0, ⟨0, 0⟩⟩
  else if n ≤ 10 then [⟨17, ⟨n - 3, 3⟩⟩]
  else [⟨18, ⟨n - 11, 7⟩⟩]

/-- A repetition of the length before it, at most six times. -/
def repeatRun (length n : Nat) : List Packed :=
  if n < 3 then List.replicate n ⟨length, ⟨0, 0⟩⟩ else [⟨16, ⟨n - 3, 2⟩⟩]

/-- Packs code lengths. `before` is the length before, `zeros` and `repeats`
    count the run under way. -/
def packLengths : List Nat → Option Nat → Nat → Nat → List Packed
  | [], before, zeros, repeats => repeatRun (before.getD 0) repeats ++ zeroRun zeros
  | 0 :: rest, before, zeros, repeats =>
    repeatRun (before.getD 0) repeats ++
      if zeros + 1 = 138 then zeroRun 138 ++ packLengths rest (some 0) 0 0
      else packLengths rest (some 0) (zeros + 1) 0
  | n :: rest, before, zeros, repeats =>
    zeroRun zeros ++
      if before = some n then
        if repeats + 1 = 6 then repeatRun n 6 ++ packLengths rest (some n) 0 0
        else packLengths rest (some n) 0 (repeats + 1)
      else repeatRun (before.getD 0) repeats ++ ⟨n, ⟨0, 0⟩⟩ :: packLengths rest (some n) 0 0

/-- The order in which the lengths of the codes for lengths are written. -/
def lengthOrder : List Nat :=
  [16, 17, 18, 0, 8, 7, 9, 6, 10, 5, 11, 4, 12, 3, 13, 2, 14, 1, 15]

/-- The number of entries without the zeros at the end. -/
def usedSize (lengths : List Nat) : Nat :=
  (lengths.reverse.dropWhile (· == 0)).length

/-- A block with codes of its own, after its first bit. -/
def ownBlock (tokens : List Token) : List Field :=
  let (literalUses, distanceUses) := frequencies tokens
  let literals := Huffman.lengths 15 literalUses
  let distances := Huffman.lengths 15 distanceUses
  let literalCount := max 257 (usedSize literals.toList)
  let distanceCount := max 1 (usedSize distances.toList)
  let packed := packLengths
    (literals.toList.take literalCount ++ distances.toList.take distanceCount) none 0 0
  let uses := packed.foldl (fun counts p => countUse counts p.symbol) (Array.replicate 19 0)
  let lengths := Huffman.lengths 7 uses
  let codes := Huffman.codes lengths
  let ordered := lengthOrder.map fun symbol => lengths.getD symbol 0
  let orderedCount := max 4 (usedSize ordered)
  [⟨2, 2⟩, ⟨literalCount - 257, 5⟩, ⟨distanceCount - 1, 5⟩, ⟨orderedCount - 4, 4⟩]
    ++ (ordered.take orderedCount).map (fun n => ⟨n, 3⟩)
    ++ packed.flatMap (fun p => [codes.getD p.symbol ⟨0, 0⟩, p.extra])
    ++ Codes.body ⟨Huffman.codes literals, Huffman.codes distances⟩ tokens

/-! ## Section 4: Blocks -/

/-- Writes a stored block after its first bit. -/
def putStored (packer : Bits.Packer) (octets : Bytes) : Bits.Packer :=
  let n := octets.length
  (((packer.put ⟨0, 2⟩).pad.put ⟨n % 65536, 16⟩).put ⟨65535 - n % 65536, 16⟩).putOctets octets

/-- Writes a block: its data in octets and in pieces, and whether it is the last
    one. -/
def putBlock (packer : Bits.Packer) (last : Bool) (octets : Bytes) (tokens : List Token) :
    Bits.Packer :=
  let packer := packer.put ⟨if last then 1 else 0, 1⟩
  let fields := if octets.length < 48 then fixedBlock tokens else ownBlock tokens
  let written := (packer.count + Bits.totalWidth fields) / 8
  if 32 < octets.length && octets.length ≤ written + 1 && octets.length ≤ Matcher.windowSize then
    putStored packer octets
  else fields.foldl Bits.Packer.put packer

/-- The room a block takes while it is collected: the number of octets its
    pieces are kept in, with one more for every eight pieces. -/
structure Room where
  size : Nat
  free : Nat

/-- The room of a block without pieces. -/
def Room.empty : Room := ⟨1, 8⟩

/-- The room with one more piece. -/
def Room.add (room : Room) (token : Token) : Room :=
  let size := room.size + match token with
    | .literal _ => 1
    | .copy .. => 3
  if room.free = 1 then ⟨size + 1, 8⟩ else ⟨size, room.free - 1⟩

/-- Whether a block of so many octets has to be ended: its room is used up, or
    it is long and hardly shrinks. -/
def Room.isFull (room : Room) (patient : Bool) (octets : Nat) : Bool :=
  65536 - 8 < room.size ||
    (patient && 31 * 1024 < octets && octets ≤ room.size * 115 / 128)

/-- Writes all groups of pieces. `tokens` holds the pieces of the block under
    way, last first, and `octets` their number of octets. -/
def putGroups (patient : Bool) :
    List (List Token) → Bytes → List Token → Nat → Room → Bits.Packer → Bits.Packer
  | [], data, tokens, _, _, packer => putBlock packer true data tokens.reverse
  | group :: groups, data, tokens, octets, room, packer =>
    let tokens := group.reverse ++ tokens
    let octets := group.foldl (fun n token => n + token.span) octets
    let room := group.foldl Room.add room
    if room.isFull patient octets then
      putGroups patient groups (data.drop octets) [] 0 .empty
        (putBlock packer false (data.take octets) tokens.reverse)
    else putGroups patient groups data tokens octets room packer

/-- The longest stored block. -/
def storedSize : Nat := 31 * 1024 + 1

/-- Stores data in blocks. -/
def storeAll : Nat → Bytes → Bits.Packer → Bits.Packer
  | 0, _, packer => packer
  | fuel + 1, data, packer =>
    if data.length < storedSize then putStored (packer.put ⟨1, 1⟩) data
    else
      storeAll fuel (data.drop storedSize)
        (putStored (packer.put ⟨0, 1⟩) (data.take storedSize))

/-- The effort of each level above 1. -/
def effortOf (level : Nat) : Matcher.Effort :=
  ⟨#[0, 1, 6, 32, 16, 32, 128, 256, 512, 768].getD level 768, level ≤ 3⟩

/-- Compresses data at a level from 0 to 9. -/
def compress (level : Nat) (data : Bytes) : Bytes :=
  if level = 0 then (storeAll (data.length + 1) data .empty).finish
  else
    let array := data.toArray
    if level = 1 then
      (putGroups false (Matcher.scan array) data [] 0 .empty .empty).finish
    else
      (putGroups true (Matcher.cut (effortOf level) array) data [] 0 .empty .empty).finish

end Deflate

end TelemetryRelay
