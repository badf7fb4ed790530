import TelemetryRelay.Bytes
import TelemetryRelay.Power

/-! # Bits in octets

    Compressed data is a string of bits, packed into octets from the least
    significant bit on. It is written as a list of fields and read by position.
-/

namespace TelemetryRelay

namespace Bits

/-- A value of so many bits, written least significant bit first. -/
structure Field where
  value : Nat
  width : Nat
deriving DecidableEq, Repr

/-- The number of bits of a list of fields. -/
def totalWidth (fields : List Field) : Nat :=
  fields.foldl (fun total field => total + field.width) 0

/-- Octets under construction: those that are whole, last first, and the bits
    that do not fill one yet. -/
structure Packer where
  whole : Bytes
  pending : Nat
  count : Nat

namespace Packer

/-- Nothing written. -/
def empty : Packer := ⟨[], 0, 0⟩

/-- Moves whole octets out of the pending bits. -/
def settle : Nat → Packer → Packer
  | 0, p => p
  | fuel + 1, p =>
    if p.count < 8 then p
    else settle fuel ⟨UInt8.ofNat (p.pending % 256) :: p.whole, p.pending / 256, p.count - 8⟩

/-- Writes a field. -/
def put (p : Packer) (field : Field) : Packer :=
  settle (field.width / 8 + 1)
    ⟨p.whole, p.pending + (field.value % twoTo field.width) * twoTo p.count,
      p.count + field.width⟩

/-- Fills the last octet with zeros. -/
def pad (p : Packer) : Packer :=
  if p.count = 0 then p else p.put ⟨0, 8 - p.count⟩

/-- Writes octets after filling the last one. -/
def putOctets (p : Packer) (octets : Bytes) : Packer :=
  let p := p.pad
  { p with whole := octets.reverse ++ p.whole }

/-- Everything written, with the last octet filled. -/
def finish (p : Packer) : Bytes := p.pad.whole.reverse

end Packer

/-- The octets of a list of fields. -/
def pack (fields : List Field) : Bytes :=
  (fields.foldl Packer.put Packer.empty).finish

/-! ## Reading -/

/-- The bit at a position. -/
def bitAt (data : Array UInt8) (position : Nat) : Nat :=
  ((data.getD (position / 8) 0).toNat >>> (position % 8)) % 2

/-- The value of so many bits from a position on, least significant first. -/
def valueAt (data : Array UInt8) (position : Nat) : Nat → Nat
  | 0 => 0
  | width + 1 => bitAt data position + 2 * valueAt data (position + 1) width

end Bits

end TelemetryRelay
