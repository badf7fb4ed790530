import TelemetryRelay.Compression.Deflate

/-! # Reading compressed blocks -/

namespace TelemetryRelay

namespace Inflate

open Huffman (Table)

/-- What has been read: the position of the next bit and the octets so far. -/
structure Progress where
  position : Nat
  output : Array UInt8

/-- Appends a copy of what stands `distance` before. -/
def copyBack (distance : Nat) : Nat → Array UInt8 → Array UInt8
  | 0, output => output
  | n + 1, output => copyBack distance n (output.push (output.getD (output.size - distance) 0))

/-- Reads the value of a symbol with its extra bits. -/
def extraValue (data : Array UInt8) (bases : Array (Nat × Nat)) (symbol position : Nat) :
    Option (Nat × Nat) :=
  (bases[symbol]?).map fun base =>
    (base.1 + Bits.valueAt data position base.2, position + base.2)

/-- Reads the pieces of a block up to its end. -/
def tokens (data : Array UInt8) (literals distances : Table) :
    Nat → Progress → Option Progress
  | 0, _ => none
  | fuel + 1, ⟨position, output⟩ =>
    if 8 * data.size < position then none else
    match literals.symbolAt data position with
    | none => none
    | some (symbol, position) =>
      if symbol < 256 then
        tokens data literals distances fuel ⟨position, output.push (UInt8.ofNat symbol)⟩
      else if symbol = Deflate.endSymbol then some ⟨position, output⟩
      else do
        let (length, position) ← extraValue data Deflate.lengthBases (symbol - 257) position
        let (symbol, position) ← distances.symbolAt data position
        let (distance, position) ← extraValue data Deflate.distanceBases symbol position
        if output.size < distance then none
        else tokens data literals distances fuel ⟨position, copyBack distance length output⟩

/-- Reads packed code lengths, put after the reversed list `acc`. -/
def codeLengths (data : Array UInt8) (table : Table) (total : Nat) :
    Nat → Nat → List Nat → Option (List Nat × Nat)
  | 0, _, _ => none
  | fuel + 1, position, acc =>
    if total ≤ acc.length then some (acc.reverse, position)
    else
      match table.symbolAt data position with
      | none => none
      | some (symbol, position) =>
        if symbol < 16 then codeLengths data table total fuel position (symbol :: acc)
        else
          let (length, base, width) :=
            if symbol = 16 then (acc.headD 0, 3, 2)
            else if symbol = 17 then (0, 3, 3) else (0, 11, 7)
          let n := base + Bits.valueAt data position width
          codeLengths data table total fuel (position + width)
            (List.replicate n length ++ acc)

/-- Writes the lengths of the codes for lengths in the order of the symbols. -/
def placeLengths (data : Array UInt8) : List Nat → Nat → Array Nat → Array Nat
  | [], _, lengths => lengths
  | symbol :: rest, position, lengths =>
    placeLengths data rest (position + 3) (lengths.set! symbol (Bits.valueAt data position 3))

/-- Reads a block with codes of its own, after its kind. -/
def ownBlock (data : Array UInt8) (fuel : Nat) (p : Progress) : Option Progress := do
  let literalCount := Bits.valueAt data p.position 5 + 257
  let distanceCount := Bits.valueAt data (p.position + 5) 5 + 1
  let orderedCount := Bits.valueAt data (p.position + 10) 4 + 4
  let position := p.position + 14
  let lengths := placeLengths data (Deflate.lengthOrder.take orderedCount) position
    (Array.replicate 19 0)
  let (all, position) ← codeLengths data (Table.ofLengths lengths)
    (literalCount + distanceCount) (literalCount + distanceCount + 1)
    (position + 3 * orderedCount) []
  tokens data (Table.ofLengths (all.take literalCount).toArray)
    (Table.ofLengths (all.drop literalCount).toArray) fuel ⟨position, p.output⟩

/-- Reads a stored block, after its kind. -/
def storedBlock (data : Array UInt8) (p : Progress) : Option Progress :=
  let start := (p.position + 7) / 8
  let n := Bits.valueAt data (8 * start) 16
  if n + Bits.valueAt data (8 * start + 16) 16 = 65535 ∧ start + 4 + n ≤ data.size then
    some ⟨8 * (start + 4 + n), p.output ++ data.extract (start + 4) (start + 4 + n)⟩
  else none

/-- Reads blocks up to the last one. -/
def blocks (data : Array UInt8) : Nat → Progress → Option Progress
  | 0, _ => none
  | fuel + 1, p =>
    if 8 * data.size ≤ p.position then none else do
    let last := Bits.bitAt data p.position
    let kind := Bits.valueAt data (p.position + 1) 2
    let p := { p with position := p.position + 3 }
    let bits := 8 * data.size + 1
    let p ←
      if kind = 0 then storedBlock data p
      else if kind = 1 then
        tokens data (Table.ofLengths Deflate.fixedLiteralLengths)
          (Table.ofLengths (Array.replicate 32 5)) bits p
      else if kind = 2 then ownBlock data bits p
      else none
    if last = 1 then some p else blocks data fuel p

/-- Reads compressed data that starts at an octet: what it stands for, and the
    octet after it. -/
def decompress (data : Array UInt8) (start : Nat) : Option (Array UInt8 × Nat) :=
  (blocks data (8 * data.size + 1) ⟨8 * start, #[]⟩).map fun p =>
    (p.output, (p.position + 7) / 8)

end Inflate

end TelemetryRelay
