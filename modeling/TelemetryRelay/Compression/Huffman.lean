import TelemetryRelay.Compression.Bits

/-! # Huffman codes

    Code lengths come from the frequencies of the symbols, limited to a greatest
    length. Codes are canonical: symbols of one length get consecutive codes in
    the order of the symbols, after those of shorter lengths.
-/

namespace TelemetryRelay

namespace Huffman

/-! ## Section 1: Code lengths -/

/-- A part of the code tree: its weight and how many leaves it has at each
    depth. -/
structure Subtree where
  weight : Nat
  leaves : List Nat

/-- The sums of two lists, the shorter one continued with zeros. -/
def addLists : List Nat → List Nat → List Nat
  | [], b => b
  | a, [] => a
  | x :: a, y :: b => (x + y) :: addLists a b

/-- Two subtrees under one node: every leaf is one deeper. -/
def Subtree.join (a b : Subtree) : Subtree :=
  ⟨a.weight + b.weight, 0 :: addLists a.leaves b.leaves⟩

/-- Takes the lighter of the first leaf and the first inner node. A leaf goes
    first where the weights are equal. -/
def takeLighter : List Subtree → List Subtree → Option (Subtree × List Subtree × List Subtree)
  | [], [] => none
  | leaf :: leaves, [] => some (leaf, leaves, [])
  | [], node :: nodes => some (node, [], nodes)
  | leaf :: leaves, node :: nodes =>
    if node.weight < leaf.weight then some (node, leaf :: leaves, nodes)
    else some (leaf, leaves, node :: nodes)

/-- Joins the two lightest subtrees until one is left. Leaves come in increasing
    weight, and so do the nodes made of them. -/
def grow : Nat → List Subtree → List Subtree → List Nat
  | 0, _, _ => []
  | fuel + 1, leaves, nodes =>
    match takeLighter leaves nodes with
    | none => []
    | some (a, leaves, nodes) =>
      match takeLighter leaves nodes with
      | none => a.leaves
      | some (b, leaves, nodes) => grow fuel leaves (nodes ++ [a.join b])

/-- How many symbols get each length, from the weights in increasing order. A
    single symbol gets one bit. -/
def lengthCounts (weights : List Nat) : List Nat :=
  match weights with
  | [] => []
  | [_] => [0, 1]
  | _ => grow weights.length (weights.map fun w => ⟨w, [1]⟩) []

/-- Moves a symbol down to make room for one that is too deep. -/
def deepen (counts : Array Nat) : Nat → Array Nat
  | 0 => counts
  | depth + 1 =>
    if counts.getD (depth + 1) 0 != 0 then
      (counts.set! (depth + 1) (counts.getD (depth + 1) 0 - 1)).set! (depth + 2)
        (counts.getD (depth + 2) 0 + 2)
    else deepen counts depth

/-- Makes room for so many symbols that are too deep. -/
def makeRoom (limit : Nat) : Nat → Array Nat → Array Nat
  | 0, counts => counts
  | excess + 1, counts =>
    makeRoom limit excess
      (deepen (counts.set! limit (counts.getD limit 0 - 1)) (limit - 1))

/-- The sum of some counts. -/
def total (counts : List Nat) : Nat := counts.foldl (fun sum n => sum + n) 0

/-- How many symbols get each length from 0 to `limit`. -/
def limitedCounts (limit : Nat) (counts : List Nat) : Array Nat :=
  let kept := (counts.take (limit + 1)).toArray
  let kept := kept ++ Array.replicate (limit + 1 - kept.size) 0
  let kept := kept.set! limit (kept.getD limit 0 + total (counts.drop (limit + 1)))
  let used := (List.range limit).foldl
    (fun sum i => sum + kept.getD (i + 1) 0 * twoTo (limit - 1 - i)) 0
  if total counts ≤ 1 then kept else makeRoom limit (used - twoTo limit) kept

/-- Gives the lengths out, the shortest to the most frequent symbols. `symbols`
    is in decreasing order of frequency. -/
def giveLengths (counts : Array Nat) : Nat → Nat → List Nat → Array Nat → Array Nat
  | 0, _, _, lengths => lengths
  | fuel + 1, length, symbols, lengths =>
    let n := counts.getD length 0
    giveLengths counts fuel (length + 1) (symbols.drop n)
      ((symbols.take n).foldl (fun lengths symbol => lengths.set! symbol length) lengths)

/-- The code lengths for the frequencies of the symbols; unused symbols get
    none, which is written 0. -/
def lengths (limit : Nat) (frequencies : Array Nat) : Array Nat :=
  let used := (frequencies.toList.zipIdx.filter fun p => p.1 != 0)
  let sorted := used.mergeSort fun a b => a.1 ≤ b.1
  let counts := limitedCounts limit (lengthCounts (sorted.map fun p => p.1))
  giveLengths counts limit 1 ((sorted.map fun p => p.2).reverse)
    (Array.replicate frequencies.size 0)

/-! ## Section 2: Codes -/

/-- The bits of a code in the opposite order. -/
def reverseBits : Nat → Nat → Nat → Nat
  | 0, _, reversed => reversed
  | width + 1, code, reversed => reverseBits width (code / 2) (reversed * 2 + code % 2)

/-- How many symbols have each length up to 15. -/
def countLengths (lengths : Array Nat) : Array Nat :=
  lengths.foldl (fun counts n => counts.set! n (counts.getD n 0 + 1)) (Array.replicate 16 0)

/-- The first code of each length. -/
def firstCodes (counts : Array Nat) : Array Nat :=
  ((List.range 15).foldl
    (fun (acc : Array Nat × Nat) i =>
      let code := (acc.2 + (if i = 0 then 0 else counts.getD i 0)) * 2
      (acc.1.push code, code)) (#[0], 0)).1

/-- The code of every symbol as a field that is written first bit first. -/
def codes (lengths : Array Nat) : Array Bits.Field :=
  (lengths.foldl
    (fun (acc : Array Bits.Field × Array Nat) n =>
      if n = 0 then (acc.1.push ⟨0, 0⟩, acc.2)
      else
        let code := acc.2.getD n 0
        (acc.1.push ⟨reverseBits n code 0, n⟩, acc.2.set! n (code + 1)))
    (#[], firstCodes (countLengths lengths))).1

/-! ## Section 3: Reading codes -/

/-- What is needed to read a code: how many symbols have each length, and the
    symbols in the order of their codes. -/
structure Table where
  counts : Array Nat
  symbols : Array Nat

/-- The table of the given code lengths. -/
def Table.ofLengths (lengths : Array Nat) : Table :=
  let indexed := lengths.toList.zipIdx
  { counts := (countLengths lengths).set! 0 0
    symbols := ((List.range 15).flatMap fun i =>
      (indexed.filter fun p => p.1 == i + 1).map fun p => p.2).toArray }

/-- Reads bits until they are the code of a symbol: the symbol and the position
    after it. -/
def Table.symbolFrom (table : Table) (data : Array UInt8) :
    Nat → Nat → Nat → Nat → Nat → Nat → Option (Nat × Nat)
  | 0, _, _, _, _, _ => none
  | fuel + 1, length, position, code, first, index =>
    let code := code + Bits.bitAt data position
    let count := table.counts.getD length 0
    if code < first + count then
      (table.symbols[index + (code - first)]?).map fun symbol => (symbol, position + 1)
    else
      table.symbolFrom data fuel (length + 1) (position + 1) (code * 2)
        ((first + count) * 2) (index + count)

/-- Reads the symbol at a position. -/
def Table.symbolAt (table : Table) (data : Array UInt8) (position : Nat) :
    Option (Nat × Nat) :=
  table.symbolFrom data 15 1 position 0 0 0

end Huffman

end TelemetryRelay
