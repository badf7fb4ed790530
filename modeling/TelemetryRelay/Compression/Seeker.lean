import TelemetryRelay.Compression.Matcher

/-! # Looking for copies in blocks

    A block is cut into sequences, each of which takes some octets as they are and
    then copies what stands before, as far back as the window goes. There are two
    ways to look for copies. One goes through the data in steps, and looks at the
    latest place with the same hash and at the distance used last. The other one
    looks at every octet, follows chains of places with the same four octets, and
    may wait for a better copy that starts one octet later.

    Places are kept with 1 added, so that 0 means none.
-/

namespace TelemetryRelay

namespace Seeker

open Matcher (octetAt commonLength)

/-- A sequence: how many octets to take as they are, and what to copy then. -/
structure Sequence where
  literals : Nat
  length : Nat
  distance : Nat
deriving DecidableEq, Repr

/-- The end of a block is not looked at so far. -/
def margin : Nat := 8

/-- Whether the four octets from `i` and `j` on are equal. -/
def sameFour (data : Array UInt8) (i j : Nat) : Bool :=
  Matcher.samePair data i j && Matcher.samePair data (i + 2) (j + 2)

/-- How many octets before `i` and `j` are equal, up to a limit. -/
def commonBefore (data : Array UInt8) : Nat → Nat → Nat → Nat
  | 0, _, _ => 0
  | limit + 1, i, j =>
    if 0 < i && 0 < j && octetAt data (i - 1) == octetAt data (j - 1) then
      commonBefore data limit (i - 1) (j - 1) + 1
    else 0

/-- The octets from a place on as one number, least significant first. -/
def gather (data : Array UInt8) (place : Nat) : Nat → UInt64
  | 0 => 0
  | n + 1 => (octetAt data place).toUInt64 + 256 * gather data (place + 1) n

/-! ## Section 1: Going in steps -/

/-- How to go through the data. -/
structure Pace where
  /-- The number of octets that are hashed. -/
  octets : Nat
  /-- The number of bits of a hash. -/
  bits : Nat
  /-- The step where no copy is found. -/
  step : Nat
deriving DecidableEq, Repr

/-- The hash of the octets at a place. -/
def Pace.hash (pace : Pace) (data : Array UInt8) (place : Nat) : Nat :=
  let factor : UInt64 := if pace.octets = 6 then 227718039650203 else 58295818150454627
  let value := gather data place pace.octets <<< UInt64.ofNat (64 - 8 * pace.octets)
  ((value * factor) >>> UInt64.ofNat (64 - pace.bits)).toNat

/-- The latest places of all hashes. -/
abbrev Heads := Array Nat

/-- Notes a place. -/
def Pace.note (pace : Pace) (data : Array UInt8) (place : Nat) (heads : Heads) : Heads :=
  heads.set! (pace.hash data place) (place + 1)

/-- What was found so far: the sequences, last first, and where the octets start
    that none of them stands for. The two distances used last come with it. -/
structure Found where
  heads : Heads
  first : Nat
  second : Nat
  anchor : Nat
  sequences : List Sequence

/-- Takes copies at the last distance but one, as long as there are any. -/
def takeSecond (pace : Pace) (data : Array UInt8) (stop : Nat) : Nat → Found → Found
  | 0, found => found
  | fuel + 1, ⟨heads, first, second, anchor, sequences⟩ =>
    if anchor + margin ≤ stop && 0 < second && sameFour data anchor (anchor - second) then
      let length := commonLength data anchor (anchor - second) (stop - anchor) 0
      takeSecond pace data stop fuel
        ⟨pace.note data anchor heads, second, first, anchor + length,
          ⟨0, length, second⟩ :: sequences⟩
    else ⟨heads, first, second, anchor, sequences⟩

/-- Takes the copy at a place, with up to `before` octets before it. -/
def takeCopy (pace : Pace) (data : Array UInt8) (stop place distance before : Nat)
    (found : Found) : Found :=
  let ⟨heads, first, second, anchor, sequences⟩ := found
  let back := commonBefore data (min before (place - anchor)) place (place - distance)
  let ahead := commonLength data place (place - distance) (stop - place) 0
  let next := place + ahead
  let heads := if next + margin ≤ stop then
      pace.note data (next - 2) (pace.note data (place + 2) heads)
    else heads
  let second := if distance = first then second else first
  takeSecond pace data stop (stop - next)
    ⟨heads, distance, second, next, ⟨place - back - anchor, back + ahead, distance⟩ :: sequences⟩

/-- Whether the octets at a noted place are those at `place`. -/
def isCandidate (data : Array UInt8) (window place noted : Nat) : Bool :=
  0 < noted && place + 1 - noted ≤ window && sameFour data (noted - 1) place

/-- Goes on from a place, with nothing found since the anchor. From the place
    `wider` on the steps get wider, and they are as before after a copy. -/
def skimFrom (pace : Pace) (window : Nat) (data : Array UInt8) (stop : Nat) :
    Nat → Nat → Nat → Nat → Found → Found
  | 0, _, _, _, found => found
  | fuel + 1, place, step, wider, ⟨heads, first, second, anchor, sequences⟩ =>
    let ahead := place + step
    if stop ≤ ahead + 1 + margin then ⟨heads, first, second, anchor, sequences⟩
    else
      let here := heads.getD (pace.hash data place) 0
      let heads := pace.note data place heads
      if 0 < first && sameFour data ahead (ahead - first) then
        let heads := pace.note data (place + 1) heads
        let found := takeCopy pace data stop ahead first 1 ⟨heads, first, second, anchor, sequences⟩
        skimFrom pace window data stop fuel found.anchor pace.step (found.anchor + 128) found
      else if isCandidate data window place here then
        let heads := pace.note data (place + 1) heads
        let found := takeCopy pace data stop place (place + 1 - here) place
          ⟨heads, first, second, anchor, sequences⟩
        skimFrom pace window data stop fuel found.anchor pace.step (found.anchor + 128) found
      else
        let here := heads.getD (pace.hash data (place + 1)) 0
        let heads := pace.note data (place + 1) heads
        if isCandidate data window (place + 1) here then
          let heads := if step ≤ 4 then pace.note data ahead heads else heads
          let found := takeCopy pace data stop (place + 1) (place + 2 - here) (place + 1)
            ⟨heads, first, second, anchor, sequences⟩
          skimFrom pace window data stop fuel found.anchor pace.step (found.anchor + 128) found
        else
          let isWider := wider ≤ ahead + step
          skimFrom pace window data stop fuel ahead (if isWider then step + 1 else step)
            (if isWider then wider + 128 else wider) ⟨heads, first, second, anchor, sequences⟩

/-- The sequences of the block between two places, and the latest places after
    it. The distances used last are not looked at if they reach too far back. -/
def skim (pace : Pace) (window : Nat) (data : Array UInt8) (start stop first second : Nat)
    (heads : Heads) : List Sequence × Heads :=
  let place := max start 1
  let first := if first ≤ place then first else 0
  let second := if second ≤ place then second else 0
  let found := skimFrom pace window data stop (stop - start + 1) place pace.step (place + 128)
    ⟨heads, first, second, start, []⟩
  (found.sequences.reverse, found.heads)

/-! ## Section 2: Following chains -/

/-- How hard to look for copies in chains. -/
structure Effort where
  /-- The number of places that are looked at. -/
  probes : Nat
  /-- The least length of a copy, unless it is at the distance used last. -/
  least : Nat
  /-- Whether to wait for a better copy one octet later. -/
  patient : Bool
deriving DecidableEq, Repr

/-- The latest place of each hash, the place before each place, and how many
    places are in the chains. -/
structure Chains where
  heads : Array Nat
  links : Array Nat
  count : Nat

/-- The hash of four octets. -/
def hash4 (data : Array UInt8) (place : Nat) : Nat :=
  ((gather data place 4 * 11400714819323198485) >>> 47).toNat

/-- Chains for so many octets, without places. -/
def Chains.empty (size : Nat) : Chains :=
  ⟨Array.replicate 131072 0, Array.replicate size 0, 0⟩

/-- Chains the next `n` places. -/
def Chains.insert (data : Array UInt8) : Nat → Chains → Chains
  | 0, chains => chains
  | n + 1, ⟨heads, links, place⟩ =>
    let h := hash4 data place
    let links := links.set! place (heads.getD h 0)
    Chains.insert data n ⟨heads.set! h (place + 1), links, place + 1⟩

/-- A copy of some length at a distance. -/
structure Copy where
  length : Nat
  distance : Nat
deriving DecidableEq, Repr

/-- What a copy saves: four for each octet, and less the longer it takes to write
    the distance, which takes nothing if it was used last. -/
def Copy.worth (copy : Copy) (last : Nat) : Nat :=
  4 * copy.length - if copy.distance = last then 0 else (copy.distance + 3).log2

/-- Follows the chain from a noted place and returns the longest copy. A place is
    looked at closely only if it could give a longer copy. -/
def follow (data : Array UInt8) (links : Array Nat) (window place limit : Nat) : Nat → Nat → Copy → Copy
  | 0, _, best => best
  | probes + 1, noted, best =>
    if noted = 0 || window < place + 1 - noted then best
    else
      let other := noted - 1
      let next := links.getD other 0
      if limit ≤ best.length then best
      else if octetAt data (other + best.length) == octetAt data (place + best.length) then
        let n := commonLength data place other limit 0
        follow data links window place limit probes next
          (if best.length < n then ⟨n, place - other⟩ else best)
      else follow data links window place limit probes next best

/-- The best copy at a place, which is one at the distance used last if that is
    worth as much as the longest. Copies of fewer than four octets do not count. -/
def bestAt (effort : Effort) (window : Nat) (data : Array UInt8) (stop last place : Nat)
    (chains : Chains) : Copy :=
  let limit := stop - place
  let again : Copy :=
    if 0 < last && last ≤ place then ⟨commonLength data place (place - last) limit 0, last⟩
    else ⟨0, 0⟩
  let longest := follow data chains.links window place limit effort.probes
    (chains.heads.getD (hash4 data place) 0) ⟨effort.least - 1, 0⟩
  let again := if again.length < 4 then ⟨0, 0⟩ else again
  let longest := if longest.length < effort.least then ⟨0, 0⟩ else longest
  if longest.worth last ≤ again.worth last then again else longest

/-- The sequences from an anchor on, last first. `held` is a copy that starts one
    octet before the place. -/
def seekFrom (effort : Effort) (window : Nat) (data : Array UInt8) (stop : Nat) :
    Nat → Nat → Nat → Nat → Option Copy → Chains → List Sequence → List Sequence × Chains
  | 0, _, _, _, _, chains, sequences => (sequences, chains)
  | fuel + 1, anchor, place, last, held, chains, sequences =>
    let take := fun (start : Nat) (copy : Copy) =>
      let back := commonBefore data (start - anchor) start (start - copy.distance)
      (⟨start - back - anchor, back + copy.length, copy.distance⟩ : Sequence)
    if stop < place + margin then
      match held with
      | some copy => (take (place - 1) copy :: sequences, chains)
      | none => (sequences, chains)
    else
      let chains := chains.insert data (place - chains.count)
      let here := bestAt effort window data stop last place chains
      match held with
      | some copy =>
        if copy.worth last + 4 < here.worth last then
          seekFrom effort window data stop fuel anchor (place + 1) last (some here) chains sequences
        else
          let next := place - 1 + copy.length
          seekFrom effort window data stop fuel next next copy.distance none chains
            (take (place - 1) copy :: sequences)
      | none =>
        if here.length < 4 then
          seekFrom effort window data stop fuel anchor (place + 1 + (place - anchor) / 256) last
            none chains sequences
        else if effort.patient then
          seekFrom effort window data stop fuel anchor (place + 1) last (some here) chains sequences
        else
          let next := place + here.length
          seekFrom effort window data stop fuel next next here.distance none chains
            (take place here :: sequences)

/-- The sequences of the block between two places, and the chains after it. -/
def seek (effort : Effort) (window : Nat) (data : Array UInt8) (start stop last : Nat)
    (chains : Chains) : List Sequence × Chains :=
  let (sequences, chains) :=
    seekFrom effort window data stop (2 * (stop - start) + 1) start start last none chains []
  (sequences.reverse, chains)

end Seeker

end TelemetryRelay
