import TelemetryRelay.Bytes
import TelemetryRelay.Power

/-! # Numeric addresses of hosts

    A numeric address is a number of 32 or of 128 bits. The short ones are written
    as four numbers below 256 with dots between them, the long ones as eight
    groups of hexadecimal digits with colons between them, where the first of the
    longest rows of zeros is left out.
-/

namespace TelemetryRelay

namespace Http

/-- A numeric address. -/
structure Ip where
  /-- The number of its bits. -/
  width : Nat
  value : Nat
deriving DecidableEq, Repr

namespace Ip

/-! ## Section 1: Numbers -/

/-- The number of digits in a base. -/
def numeral? (base : Nat) (digits : List Char) : Option Nat :=
  digits.foldlM
    (fun n c =>
      match Bytes.hexValue? (UInt8.ofNat c.toNat) with
      | some d => if c.toNat < 128 ∧ d < base then some (n * base + d) else none
      | none => none)
    0

/-- The number of a part of an address: hexadecimal after `0x`, octal after `0`,
    and decimal otherwise. -/
def part? : List Char → Option Nat
  | [] => none
  | '0' :: 'x' :: digits => numeral? 16 digits
  | '0' :: digits@(_ :: _) => numeral? 8 digits
  | digits => numeral? 10 digits

/-- A decimal number below 256 without needless zeros. -/
def octet? (digits : List Char) : Option Nat :=
  if digits.isEmpty ∨ 3 < digits.length ∨ (1 < digits.length ∧ digits.head? = some '0') then none
  else (numeral? 10 digits).filter fun n => n < 256

/-! ## Section 2: Short addresses -/

/-- Four numbers as one. -/
def ofOctets (octets : List Nat) : Nat := octets.foldl (fun n octet => n * 256 + octet) 0

/-- A short address of four parts. -/
def dotted? (parts : List (List Char)) : Option Nat :=
  if parts.length = 4 then (parts.mapM octet?).map ofOctets else none

/-- A short address of at most four parts, of which the last one fills what the
    others leave. -/
def loose? (parts : List (List Char)) : Option Nat := do
  let numbers ← parts.mapM part?
  let last ← numbers.getLast?
  let others := numbers.dropLast
  if 3 < others.length ∨ others.any (fun n => 256 ≤ n) then none
  else
    let left := 4 - others.length
    if twoTo (8 * left) ≤ last then none
    else some (ofOctets others * twoTo (8 * left) + last)

/-- Whether the last part of a name is a number, so that the name must be a short
    address. -/
def isNumeric (parts : List (List Char)) : Bool :=
  parts.getLast?.any fun last =>
    (!last.isEmpty && last.all Char.isDigit) || (part? last).isSome

/-- The text of a short address. -/
def shortText (value : Nat) : String :=
  String.intercalate "."
    ([value / 0x1000000, value / 0x10000 % 256, value / 256 % 256, value % 256].map toString)

/-! ## Section 3: Long addresses -/

/-- Cuts characters at a character. -/
def cutAt (mark : Char) (chars : List Char) : List (List Char) :=
  chars.foldr
    (fun c parts =>
      if c = mark then [] :: parts
      else match parts with
        | part :: rest => (c :: part) :: rest
        | [] => [[c]])
    [[]]

/-- Cuts characters at the first two colons. -/
def cutAtGap : List Char → Option (List Char × List Char)
  | [] => none
  | ':' :: ':' :: rest => some ([], rest)
  | c :: rest => (cutAtGap rest).map fun (before, after) => (c :: before, after)

/-- One group of hexadecimal digits. -/
def group? (digits : List Char) : Option Nat :=
  if digits.isEmpty ∨ 4 < digits.length then none else numeral? 16 digits

/-- The groups of some parts, of which the last one can be a short address. -/
def groups? : List (List Char) → Option (List Nat)
  | [] => some []
  | [last] =>
    if last.contains '.' then
      (dotted? (cutAt '.' last)).map fun n => [n / 0x10000, n % 0x10000]
    else (group? last).map fun n => [n]
  | part :: rest => do
    let n ← group? part
    (groups? rest).map fun ns => n :: ns

/-- The parts between colons; there are none in nothing. -/
def partsOf (chars : List Char) : List (List Char) :=
  if chars.isEmpty then [] else cutAt ':' chars

/-- The eight groups of a long address. -/
def eight? (chars : List Char) : Option (List Nat) :=
  match cutAtGap chars with
  | none => (groups? (partsOf chars)).filter fun ns => ns.length == 8
  | some (before, after) => do
    let left ← (partsOf before).mapM group?
    let right ← groups? (partsOf after)
    if left.length + right.length < 8 then
      some (left ++ List.replicate (8 - left.length - right.length) 0 ++ right)
    else none

/-- Groups as one number. -/
def ofGroups (groups : List Nat) : Nat := groups.foldl (fun n group => n * 0x10000 + group) 0

/-- The length of the longest row of zeros among some groups. -/
def longestGap : List Nat → Nat
  | [] => 0
  | n :: rest => max ((n :: rest).takeWhile fun m => m == 0).length (longestGap rest)

/-- Groups with colons between them. -/
def groupsText (groups : List Nat) : String :=
  String.intercalate ":" (groups.map Bytes.hexText)

/-- Cuts groups before and after the first row of `gap` zeros. -/
def cutGroups (gap : Nat) : List Nat → List Nat × List Nat
  | [] => ([], [])
  | n :: rest =>
    if ((n :: rest).takeWhile fun m => m == 0).length = gap then ([], (n :: rest).drop gap)
    else
      let (before, after) := cutGroups gap rest
      (n :: before, after)

/-- The text of the groups of a long address. -/
def longText (groups : List Nat) : String :=
  let gap := longestGap groups
  if gap < 2 then groupsText groups
  else
    let (before, after) := cutGroups gap groups
    groupsText before ++ "::" ++ groupsText after

/-! ## Section 4: Addresses in strict form -/

/-- Reads an address that is written out in full. -/
def parse? (chars : List Char) : Option Ip :=
  match dotted? (cutAt '.' chars) with
  | some n => some ⟨32, n⟩
  | none => (eight? chars).map fun groups => ⟨128, ofGroups groups⟩

/-- Whether two addresses agree in their first bits. -/
def agree (bits : Nat) (a b : Ip) : Bool :=
  a.width == b.width &&
    a.value / twoTo (a.width - bits) == b.value / twoTo (b.width - bits)

end Ip

end Http

end TelemetryRelay
