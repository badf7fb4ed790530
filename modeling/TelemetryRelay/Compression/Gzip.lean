import TelemetryRelay.Compression.Crc32
import TelemetryRelay.Compression.Inflate

/-! # Gzip

    A gzip body is compressed data between a header of ten octets and a trailer
    with its check and its size.
-/

namespace TelemetryRelay

namespace Gzip

/-- What the header says of the level: best, fastest or neither. -/
def levelMark (level : Nat) : UInt8 :=
  if level = 9 then 2 else if level ≤ 1 then 4 else 0

/-- The header: no name, no time, and no system. -/
def header (level : Nat) : Bytes := [31, 139, 8, 0, 0, 0, 0, 0, levelMark level, 255]

/-- The trailer: the check and the size. -/
def trailer (data : Bytes) : Bytes :=
  Bytes.littleEndian 4 (Crc32.check data) ++ Bytes.littleEndian 4 data.length

/-- Compresses data at a level from 0 to 9. -/
def compress (level : Nat) (data : Bytes) : Bytes :=
  header level ++ Deflate.compress level data ++ trailer data

/-- Reads a body made of one header without optional parts, compressed data and
    a trailer that fits it. -/
def decompress (body : Bytes) : Option Bytes :=
  let data := body.toArray
  if body.take 4 = [31, 139, 8, 0] then do
    let (output, stop) ← Inflate.decompress data 10
    let octets := output.toList
    if (data.extract stop data.size).toList = trailer octets then some octets else none
  else none

theorem length_header (level : Nat) : (header level).length = 10 := rfl

/-- A body is read back where the data between its header and its trailer are. -/
theorem decompress_compress (level : Nat) (data : Bytes)
    (h : Inflate.decompress (compress level data).toArray 10
      = some (data.toArray, 10 + (Deflate.compress level data).length)) :
    decompress (compress level data) = some data := by
  have hmagic : (compress level data).take 4 = [31, 139, 8, 0] := rfl
  have hrest : ((compress level data).toArray.extract (10 + (Deflate.compress level data).length)
      (compress level data).toArray.size).toList = trailer data := by
    have hlength : 10 + (Deflate.compress level data).length
        = (header level ++ Deflate.compress level data).length := by
      rw [List.length_append, length_header]
    rw [Array.toList_extract, List.size_toArray, hlength, compress, List.extract_eq_take_drop,
      List.drop_left]
    exact List.take_of_length_le (by simp only [List.length_append]; omega)
  unfold decompress
  simp only [hmagic, h]
  show (if _ = trailer data then some data else none) = some data
  rw [if_pos hrest]

end Gzip

end TelemetryRelay
