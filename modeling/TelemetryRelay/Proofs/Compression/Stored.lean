import TelemetryRelay.Compression.Gzip

/-! # Stored data are read back

    At level 0 data are only framed, in blocks of bounded size. This module says
    which octets that makes, and shows that reading them gives the data back:

    - the packer stands at the start of an octet between blocks, so a stored block
      is five octets and its data,
    - the reader, put in front of such a block, goes on behind it,
    - so by induction over the blocks it reads all data.
-/

namespace TelemetryRelay

/-! ## Section 1: Writing -/

namespace Deflate

open Bits (Packer)

/-- Two octets for a number below 65536, least significant first. -/
def pair (n : Nat) : Bytes := [UInt8.ofNat (n % 256), UInt8.ofNat (n / 256)]

/-- A stored block: whether it is the last one, its size twice, and its data. -/
def frame (mark : Nat) (octets : Bytes) : Bytes :=
  UInt8.ofNat mark :: (pair octets.length ++ (pair (65535 - octets.length) ++ octets))

/-- Data in stored blocks. -/
def frames : Nat → Bytes → Bytes
  | 0, _ => []
  | fuel + 1, data =>
    if data.length < storedSize then frame 1 data
    else frame 0 (data.take storedSize) ++ frames fuel (data.drop storedSize)

/-- Stored blocks hold all data. -/
theorem length_le_frames (fuel : Nat) (data : Bytes) (h : data.length < fuel) :
    data.length ≤ (frames fuel data).length := by
  induction fuel generalizing data with
  | zero => omega
  | succ fuel ih =>
    rw [frames]
    split
    · simp [frame]
      omega
    · have hdrop : (data.drop storedSize).length < fuel := by
        rw [List.length_drop]
        unfold storedSize at *
        omega
      have hrest := ih (data.drop storedSize) hdrop
      rw [List.length_drop] at hrest
      simp [frame]
      omega

/-- Between octets, a packer writes two of them. -/
theorem put_pair (whole : Bytes) {n : Nat} (h : n < 65536) :
    (Packer.mk whole 0 0).put ⟨n, 16⟩ = ⟨(pair n).reverse ++ whole, 0, 0⟩ := by
  have hlow : n % 65536 = n := Nat.mod_eq_of_lt h
  have hhigh : n / 256 % 256 = n / 256 := Nat.mod_eq_of_lt (by omega)
  have hrest : n / 256 / 256 = 0 := by omega
  simp [Packer.put, Packer.settle, pair, twoTo, hlow, hhigh, hrest]

/-- Between octets, a packer writes the head of a stored block into one. -/
theorem put_mark (whole : Bytes) {mark : Nat} (h : mark < 2) :
    (((Packer.mk whole 0 0).put ⟨mark, 1⟩).put ⟨0, 2⟩).pad
      = ⟨UInt8.ofNat mark :: whole, 0, 0⟩ := by
  obtain rfl | rfl : mark = 0 ∨ mark = 1 := by omega
  · simp [Packer.put, Packer.settle, Packer.pad]
  · simp [Packer.put, Packer.settle, Packer.pad, twoTo]

/-- Between octets, a packer writes a stored block. -/
theorem putStored_put (whole octets : Bytes) {mark : Nat} (h : mark < 2)
    (hsize : octets.length < 65536) :
    putStored ((Packer.mk whole 0 0).put ⟨mark, 1⟩) octets
      = ⟨(frame mark octets).reverse ++ whole, 0, 0⟩ := by
  -- the size fits into two octets, so it is written as it is
  have hmod : octets.length % 65536 = octets.length := Nat.mod_eq_of_lt hsize
  unfold putStored
  simp only [hmod, put_mark whole h]
  rw [put_pair _ hsize, put_pair _ (by omega)]
  simp [Packer.putOctets, Packer.pad, frame]

/-- Between octets, a packer writes data as stored blocks. -/
theorem storeAll_eq (fuel : Nat) (data whole : Bytes) :
    storeAll fuel data ⟨whole, 0, 0⟩ = ⟨(frames fuel data).reverse ++ whole, 0, 0⟩ := by
  induction fuel generalizing data whole with
  | zero => rfl
  | succ fuel ih =>
    rw [storeAll, frames]
    by_cases hlast : data.length < storedSize
    · rw [if_pos hlast, if_pos hlast]
      exact putStored_put whole data (by decide) (by unfold storedSize at hlast; omega)
    · have htake : (data.take storedSize).length < 65536 := by
        rw [List.length_take]
        unfold storedSize
        omega
      rw [if_neg hlast, if_neg hlast, putStored_put whole _ (by decide) htake, ih,
        List.reverse_append, List.append_assoc]

/-- Level 0 writes stored blocks. -/
theorem compress_zero (data : Bytes) : compress 0 data = frames (data.length + 1) data := by
  unfold compress
  rw [if_pos rfl, Packer.empty, storeAll_eq]
  simp [Packer.finish, Packer.pad]

end Deflate

/-! ## Section 2: Reading -/

namespace Bits

/-- A bit of an octet. -/
theorem bitAt_octet (data : Array UInt8) (k : Nat) {i : Nat} (h : i < 8) :
    bitAt data (8 * k + i) = ((data.getD k 0).toNat >>> i) % 2 := by
  have hquot : (8 * k + i) / 8 = k := by omega
  have hrem : (8 * k + i) % 8 = i := by omega
  rw [bitAt, hquot, hrem]

/-- Eight bits are an octet. -/
theorem valueAt_octet (data : Array UInt8) (k : Nat) :
    valueAt data (8 * k) 8 = (data.getD k 0).toNat := by
  have hbound : (data.getD k 0).toNat < 256 := (data.getD k 0).toNat_lt
  show bitAt data (8 * k + 0) + 2 * (bitAt data (8 * k + 1) + 2 * (bitAt data (8 * k + 2)
    + 2 * (bitAt data (8 * k + 3) + 2 * (bitAt data (8 * k + 4) + 2 * (bitAt data (8 * k + 5)
    + 2 * (bitAt data (8 * k + 6) + 2 * (bitAt data (8 * k + 7) + 2 * 0))))))) = _
  rw [bitAt_octet data k (by decide), bitAt_octet data k (by decide),
    bitAt_octet data k (by decide), bitAt_octet data k (by decide),
    bitAt_octet data k (by decide), bitAt_octet data k (by decide),
    bitAt_octet data k (by decide), bitAt_octet data k (by decide)]
  omega

/-- Bits are read a few first and the others behind them. -/
theorem valueAt_add (data : Array UInt8) (position width more : Nat) :
    valueAt data position (width + more)
      = valueAt data position width
        + twoTo width * valueAt data (position + width) more := by
  induction width generalizing position with
  | zero => simp [valueAt]
  | succ width ih =>
    have hwidth : width + 1 + more = (width + more) + 1 := by omega
    have hposition : position + 1 + width = position + (width + 1) := by omega
    have hpower : twoTo (width + 1) = 2 * twoTo width := Nat.mul_comm (twoTo width) 2
    rw [hwidth, valueAt, valueAt, ih, hposition, hpower, Nat.mul_add, ← Nat.mul_assoc,
      Nat.add_assoc]

/-- Sixteen bits are two octets. -/
theorem valueAt_pair (data : Array UInt8) (k : Nat) :
    valueAt data (8 * k) 16
      = (data.getD k 0).toNat + 256 * (data.getD (k + 1) 0).toNat := by
  have hpower : twoTo 8 = 256 := rfl
  have hnext : 8 * k + 8 = 8 * (k + 1) := by omega
  rw [valueAt_add data (8 * k) 8 8, hpower, hnext, valueAt_octet, valueAt_octet]

end Bits

namespace Inflate

open Deflate (frame frames pair)

/-- What is read of two octets is the number they were written for. -/
theorem valueAt_append_pair (front rest : Bytes) {n : Nat} (h : n < 65536) :
    Bits.valueAt (front ++ (pair n ++ rest)).toArray (8 * front.length) 16 = n := by
  rw [Bits.valueAt_pair]
  have hfirst : (front ++ (pair n ++ rest)).toArray.getD front.length 0
      = UInt8.ofNat (n % 256) := by
    simp [pair]
  have hsecond : (front ++ (pair n ++ rest)).toArray.getD (front.length + 1) 0
      = UInt8.ofNat (n / 256) := by
    simp [pair]
  rw [hfirst, hsecond, UInt8.toNat_ofNat', UInt8.toNat_ofNat']
  omega

/-- In front of a stored block, the reader goes on behind it. -/
theorem storedBlock_frame (front rest octets : Bytes) (mark : Nat) (output : Array UInt8)
    (h : octets.length < 65536) :
    storedBlock (front ++ (frame mark octets ++ rest)).toArray ⟨8 * front.length + 3, output⟩
      = some ⟨8 * (front ++ frame mark octets).length, output ++ octets.toArray⟩ := by
  have hstart : (8 * front.length + 3 + 7) / 8 = front.length + 1 := by omega
  have hsize : Bits.valueAt (front ++ (frame mark octets ++ rest)).toArray
      (8 * (front.length + 1)) 16 = octets.length := by
    have hvalue := valueAt_append_pair (front ++ [UInt8.ofNat mark])
      (pair (65535 - octets.length) ++ octets ++ rest) h
    simpa [frame] using hvalue
  have hcheck : Bits.valueAt (front ++ (frame mark octets ++ rest)).toArray
      (8 * (front.length + 1) + 16) 16 = 65535 - octets.length := by
    have hvalue := valueAt_append_pair (front ++ UInt8.ofNat mark :: pair octets.length)
      (octets ++ rest) (n := 65535 - octets.length) (by omega)
    have hposition : 8 * (front.length + 1) + 16
        = 8 * (front ++ UInt8.ofNat mark :: pair octets.length).length := by
      simp [pair]
      omega
    rw [hposition]
    simpa [frame] using hvalue
  have hlength : (front ++ frame mark octets).length
      = front.length + 1 + 4 + octets.length := by
    simp [frame, pair]
    omega
  have hextract : (front ++ (frame mark octets ++ rest)).toArray.extract
      (front.length + 1 + 4) (front.length + 1 + 4 + octets.length) = octets.toArray := by
    -- the data stand behind the five octets of the head
    have hfront : front ++ (frame mark octets ++ rest)
        = (front ++ UInt8.ofNat mark :: (pair octets.length ++ pair (65535 - octets.length)))
          ++ (octets ++ rest) := by
      simp [frame]
    have hdrop : front.length + 1 + 4
        = (front ++ UInt8.ofNat mark ::
          (pair octets.length ++ pair (65535 - octets.length))).length := by
      simp [pair]
    rw [List.extract_toArray, List.extract_eq_take_drop, hfront, hdrop, List.drop_left,
      Nat.add_sub_cancel_left, List.take_left]
  have hfits : octets.length + (65535 - octets.length) = 65535 ∧
      front.length + 1 + 4 + octets.length
        ≤ (front ++ (frame mark octets ++ rest)).toArray.size := by
    refine ⟨by omega, ?_⟩
    rw [List.size_toArray, ← List.append_assoc, List.length_append, hlength]
    omega
  unfold storedBlock
  simp only [hstart, hsize, hcheck, hextract]
  rw [if_pos hfits, hlength]

/-- The head of a stored block says whether it is the last one, and of which kind. -/
theorem head_frame (front rest octets : Bytes) {mark : Nat} (h : mark < 2) :
    Bits.bitAt (front ++ (frame mark octets ++ rest)).toArray (8 * front.length) = mark ∧
      Bits.valueAt (front ++ (frame mark octets ++ rest)).toArray (8 * front.length + 1) 2
        = 0 := by
  have hoctet : (front ++ (frame mark octets ++ rest)).toArray.getD front.length 0
      = UInt8.ofNat mark := by
    simp [frame]
  have hbit (i : Nat) (hi : i < 8) := Bits.bitAt_octet
    (front ++ (frame mark octets ++ rest)).toArray front.length hi
  have hfirst := hbit 0 (by decide)
  have hsecond := hbit 1 (by decide)
  have hthird := hbit 2 (by decide)
  rw [hoctet, UInt8.toNat_ofNat'] at hfirst hsecond hthird
  refine ⟨?_, ?_⟩
  · rw [← Nat.add_zero (8 * front.length), hfirst]
    omega
  · rw [Bits.valueAt, Bits.valueAt, Bits.valueAt, hsecond, Nat.add_assoc, hthird]
    omega

/-- **Step**: one stored block is read, and reading ends or goes on behind it. -/
theorem blocks_frame (front rest octets : Bytes) {mark : Nat} (hmark : mark < 2)
    (output : Array UInt8) (h : octets.length < 65536) (steps : Nat) :
    blocks (front ++ (frame mark octets ++ rest)).toArray (steps + 1)
        ⟨8 * front.length, output⟩
      = if mark = 1 then
          some ⟨8 * (front ++ frame mark octets).length, output ++ octets.toArray⟩
        else
          blocks (front ++ (frame mark octets ++ rest)).toArray steps
            ⟨8 * (front ++ frame mark octets).length, output ++ octets.toArray⟩ := by
  obtain ⟨hlast, hkind⟩ := head_frame front rest octets hmark
  have hstored := storedBlock_frame front rest octets mark output h
  have hmore : ¬ 8 * (front ++ (frame mark octets ++ rest)).toArray.size
      ≤ 8 * front.length := by
    simp [frame]
  rw [blocks, if_neg hmore]
  simp only [hlast, hkind, if_true, hstored]
  rfl

/-- **Run**: all blocks of data are read. -/
theorem blocks_frames (fuel : Nat) :
    ∀ (data front rest : Bytes) (output : Array UInt8) (steps : Nat),
      data.length < fuel → fuel ≤ steps →
      blocks (front ++ (frames fuel data ++ rest)).toArray steps ⟨8 * front.length, output⟩
        = some ⟨8 * (front ++ frames fuel data).length, output ++ data.toArray⟩ := by
  induction fuel with
  | zero =>
    intro data front rest output steps hfuel
    omega
  | succ fuel ih =>
    intro data front rest output steps hfuel hsteps
    obtain ⟨steps, rfl⟩ : ∃ n, steps = n + 1 := ⟨steps - 1, by omega⟩
    rw [frames]
    by_cases hlast : data.length < Deflate.storedSize
    · rw [if_pos hlast]
      rw [blocks_frame front rest data (by decide) output
        (by unfold Deflate.storedSize at hlast; omega) steps, if_pos rfl]
    · have htake : (data.take Deflate.storedSize).length < 65536 := by
        rw [List.length_take]
        unfold Deflate.storedSize
        omega
      have hdrop : (data.drop Deflate.storedSize).length < fuel := by
        rw [List.length_drop]
        unfold Deflate.storedSize at *
        omega
      rw [if_neg hlast, List.append_assoc, blocks_frame front _ _ (by decide) output htake steps,
        if_neg (by decide)]
      -- the blocks behind the first one stand behind a longer front
      have hrest := ih (data.drop Deflate.storedSize)
        (front ++ frame 0 (data.take Deflate.storedSize)) rest
        (output ++ (data.take Deflate.storedSize).toArray) steps hdrop (by omega)
      rw [List.append_assoc] at hrest
      have hwhole : output ++ (data.take Deflate.storedSize).toArray
          ++ (data.drop Deflate.storedSize).toArray = output ++ data.toArray := by
        rw [Array.append_assoc,
          List.append_toArray (data.take Deflate.storedSize) (data.drop Deflate.storedSize),
          List.take_append_drop]
      rw [hrest, hwhole, List.append_assoc]

end Inflate

/-! ## Section 3: Reading back -/

namespace Gzip

/-- **Stored data**: what is written at level 0 is read back. -/
theorem decompress_compress_zero (data : Bytes) :
    decompress (compress 0 data) = some data := by
  have hblocks : Deflate.compress 0 data = Deflate.frames (data.length + 1) data :=
    Deflate.compress_zero data
  have hroom : data.length + 1 ≤ 8 * (compress 0 data).toArray.size + 1 := by
    have hframes := Deflate.length_le_frames (data.length + 1) data (by omega)
    rw [List.size_toArray, compress, hblocks, List.length_append, List.length_append]
    omega
  have hread := Inflate.blocks_frames (data.length + 1) data (header 0) (trailer data) #[]
    (8 * (compress 0 data).toArray.size + 1) (by omega) hroom
  rw [← hblocks, ← List.append_assoc] at hread
  apply decompress_compress
  have hposition : 8 * (header 0).length = 8 * 10 := rfl
  have hend : (8 * (header 0 ++ Deflate.compress 0 data).length + 7) / 8
      = 10 + (Deflate.compress 0 data).length := by
    rw [List.length_append, length_header]
    omega
  rw [hposition] at hread
  unfold Inflate.decompress
  rw [compress] at hread ⊢
  rw [hread, Option.map_some, hend, Array.empty_append]

end Gzip

end TelemetryRelay
