import TelemetryRelay.Bytes

/-! # Cyclic redundancy check

    The 32-bit check of gzip, with the reflected polynomial `EDB88320`.
-/

namespace TelemetryRelay

namespace Crc32

/-- Divides by the polynomial, one bit. -/
def bit (c : UInt32) : UInt32 :=
  if c &&& 1 == 1 then (0xEDB88320 : UInt32) ^^^ (c >>> 1) else c >>> 1

/-- The remainders of all octets. -/
def table : Array UInt32 :=
  Array.ofFn fun (n : Fin 256) =>
    let c := UInt32.ofNat n.val
    bit (bit (bit (bit (bit (bit (bit (bit c)))))))

/-- Takes one octet into the check. -/
def step (c : UInt32) (b : UInt8) : UInt32 :=
  table.getD ((c ^^^ b.toUInt32) &&& 0xFF).toNat 0 ^^^ (c >>> 8)

/-- The check of a string of octets. -/
def check (octets : Bytes) : Nat :=
  (octets.foldl step 0xFFFFFFFF ^^^ 0xFFFFFFFF).toNat

end Crc32

end TelemetryRelay
