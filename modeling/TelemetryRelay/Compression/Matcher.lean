import TelemetryRelay.Bytes

/-! # Finding repetitions

    The data is cut into literals and copies of what stands up to 32 KiB before.
    Earlier places with the same three octets are chained, latest first, and a
    bounded number of them is probed. Positions in the chains are kept modulo
    `2 ^ 16`, and 0 ends a chain.
-/

namespace TelemetryRelay

namespace Matcher

/-- A piece of the data. -/
inductive Token where
  | literal (b : UInt8)
  | copy (length distance : Nat)
deriving DecidableEq, Repr

/-- The number of octets a piece stands for. -/
def Token.span : Token → Nat
  | .literal _ => 1
  | .copy length _ => length

/-- How far back copies may reach. -/
def windowSize : Nat := 32768

/-- The longest copy. -/
def maxLength : Nat := 258

/-- How hard to look for repetitions. -/
structure Effort where
  /-- The number of probes of a chain. -/
  probes : Nat
  /-- Whether a copy is taken as soon as it is found. -/
  greedy : Bool
deriving DecidableEq, Repr

/-- The octet at a position. -/
def octetAt (data : Array UInt8) (i : Nat) : UInt8 := data.getD i 0

/-- How many octets from `i` and `j` on are equal, up to a limit. -/
def commonLength (data : Array UInt8) (i j : Nat) : Nat → Nat → Nat
  | 0, n => n
  | fuel + 1, n =>
    if octetAt data (i + n) == octetAt data (j + n) then commonLength data i j fuel (n + 1)
    else n

/-- Whether the two octets from `i` and `j` on are equal. -/
def samePair (data : Array UInt8) (i j : Nat) : Bool :=
  octetAt data i == octetAt data j && octetAt data (i + 1) == octetAt data (j + 1)

/-! ## Section 1: Chains -/

/-- The latest place of each hash, and the place before each place. -/
structure Chains where
  heads : Array Nat
  links : Array Nat

/-- Chains without places. -/
def Chains.empty : Chains :=
  ⟨Array.replicate windowSize 0, Array.replicate windowSize 0⟩

/-- The hash of three octets. -/
def hash3 (a b c : UInt8) : Nat :=
  ((a.toNat * 1024) ^^^ (b.toNat * 32) ^^^ c.toNat) % windowSize

/-- Chains so many places from `from` on. -/
def Chains.insert (data : Array UInt8) : Nat → Nat → Chains → Chains
  | 0, _, chains => chains
  | count + 1, place, ⟨heads, links⟩ =>
    let h := hash3 (octetAt data place) (octetAt data (place + 1)) (octetAt data (place + 2))
    let links := links.set! (place % windowSize) (heads.getD h 0)
    Chains.insert data count (place + 1) ⟨heads.set! h (place % 65536), links⟩

/-- Follows the chain of `position` and returns the best distance and length.
    `steps` places are left before the next round, and each round costs one of
    `probes`. A place is looked at closely only if it could give a longer copy. -/
def search (data : Array UInt8) (links : Array Nat) (position reach limit : Nat) :
    Nat → Nat → Nat → Nat → Nat → Nat → Nat × Nat
  | 0, _, _, _, distance, length => (distance, length)
  | fuel + 1, probes, steps, place, distance, length =>
    if steps = 0 then
      if probes ≤ 1 then (distance, length)
      else search data links position reach limit fuel (probes - 1) 3 place distance length
    else
      let next := links.getD place 0
      let d := (position % 65536 + 65536 - next) % 65536
      if next = 0 || reach < d then (distance, length)
      else
        let place := next % windowSize
        let candidate := position - d
        if samePair data (candidate + length - 1) (position + length - 1) then
          if d = 0 then (distance, length)
          else if samePair data candidate position then
            let n := commonLength data candidate position limit 0
            if length < n then
              if limit ≤ n then (d, limit)
              else search data links position reach limit fuel probes 0 place d n
            else search data links position reach limit fuel probes 0 place distance length
          else search data links position reach limit fuel probes 0 place distance length
        else
          search data links position reach limit fuel probes (steps - 1) place distance length

/-- The best distance and length at a position that beat the given length. Fewer
    places are probed when there is a long copy already. -/
def best (effort : Effort) (data : Array UInt8) (links : Array Nat)
    (position reach limit length : Nat) : Nat × Nat :=
  let probes := if 32 ≤ length then effort.probes / 4 else effort.probes
  let probes := 1 + (probes + 2) / 3
  if limit ≤ length then (0, length)
  else search data links position reach limit (4 * probes + 4) probes 0
    (position % windowSize) 0 length

/-! ## Section 2: Cutting with chains -/

/-- A copy that is held back to see whether the next place has a longer one. -/
structure Held where
  literal : UInt8
  distance : Nat
  length : Nat

/-- What is decided at one place: the pieces, the copy held back, and how far
    to go on. -/
structure Decision where
  tokens : List Token
  held : Option Held
  advance : Nat

/-- Decides between the copy found here and the one held back. -/
def decide (effort : Effort) (here : UInt8) (held : Option Held) (distance length : Nat) :
    Decision :=
  match held with
  | some h =>
    if h.length < length then
      if 128 ≤ length then ⟨[.literal h.literal, .copy length distance], none, length⟩
      else ⟨[.literal h.literal], some ⟨here, distance, length⟩, 1⟩
    else ⟨[.copy h.length h.distance], none, h.length - 1⟩
  | none =>
    if distance = 0 then ⟨[.literal here], none, 1⟩
    else if effort.greedy || 128 ≤ length then ⟨[.copy length distance], none, length⟩
    else ⟨[], some ⟨here, distance, length⟩, 1⟩

/-- Cuts the data from a position on. `inserted` places are chained, and copies
    may reach `reach` back. The result is in groups that are decided together,
    last first. -/
def cutFrom (effort : Effort) (data : Array UInt8) :
    Nat → Nat → Nat → Nat → Chains → Option Held → List (List Token) → List (List Token)
  | 0, _, _, _, _, _, groups => groups
  | fuel + 1, position, inserted, reach, chains, held, groups =>
    if data.size ≤ position then groups
    else
      let ahead := min maxLength (data.size - position)
      let count := position + ahead - 2 - inserted
      let chains := chains.insert data count inserted
      let reach := min (windowSize - ahead) reach
      let known := (held.map Held.length).getD 2
      let (distance, length) := best effort data chains.links position reach ahead known
      let useless := (length = 3 && 8192 ≤ distance) || position % windowSize = distance
      let (distance, length) := if useless then (0, 0) else (distance, length)
      let decision := decide effort (octetAt data position) held distance length
      cutFrom effort data fuel (position + decision.advance) (inserted + count)
        (min (reach + decision.advance) windowSize) chains decision.held
        (if decision.tokens.isEmpty then groups else decision.tokens :: groups)

/-- The data in groups of pieces. -/
def cut (effort : Effort) (data : Array UInt8) : List (List Token) :=
  (cutFrom effort data (data.size + 1) 0 0 0 .empty none []).reverse

/-! ## Section 3: Cutting in one pass -/

/-- The hash of the one-pass cutter. -/
def hash1 (a b c : UInt8) : Nat :=
  let t := a.toNat + b.toNat * 256 + c.toNat * 65536
  (t ^^^ (t / 131072)) % 4096

/-- Whether the three octets from `i` and `j` on are equal. -/
def sameTriple (data : Array UInt8) (i j : Nat) : Bool :=
  samePair data i j && octetAt data (i + 2) == octetAt data (j + 2)

/-- Cuts the data from a position on, looking only at the latest place of each
    hash. Data is taken in stretches of 4 KiB, whose last octets are literals. -/
def scanFrom (data : Array UInt8) :
    Nat → Nat → Nat → Nat → Array Nat → List (List Token) → List (List Token)
  | 0, _, _, _, _, groups => groups
  | fuel + 1, position, stop, reach, heads, groups =>
    if position < stop then
      let here := octetAt data position
      if stop < position + 4 then
        scanFrom data fuel (position + 1) stop (min (reach + 1) windowSize) heads
          ([.literal here] :: groups)
      else
        let h := hash1 here (octetAt data (position + 1)) (octetAt data (position + 2))
        let distance := (position % 65536 + 65536 - heads.getD h 0) % 65536
        let heads := heads.set! h (position % 65536)
        let candidate := position - distance
        let length :=
          if distance ≤ reach && 0 < distance && sameTriple data candidate position then
            commonLength data candidate position (min maxLength (stop - position)) 0
          else 0
        let token : Token :=
          if length < 3 || (length = 3 && 8192 ≤ distance) then .literal here
          else .copy length distance
        scanFrom data fuel (position + token.span) stop
          (min (reach + token.span) windowSize) heads ([token] :: groups)
    else if position < data.size then
      let stop := min (position + 4096) data.size
      scanFrom data fuel position stop (min (windowSize - (stop - position)) reach) heads groups
    else groups

/-- The data in groups of pieces, in one pass. -/
def scan (data : Array UInt8) : List (List Token) :=
  (scanFrom data (2 * data.size + 1) 0 0 0 (Array.replicate 4096 0) []).reverse

end Matcher

end TelemetryRelay
