import TelemetryRelay.Bytes
import TelemetryRelay.Text.CodePoints

/-! # Tables written as text

    Long tables of numbers are written as text: rows apart by spaces, the numbers
    of a row apart by commas, each in hexadecimal digits.
-/

namespace TelemetryRelay

namespace Text

/-- What has been read of a table: the number so far, the numbers before it in
    its row, and the rows before that one, the last ones first. -/
structure TableScan where
  number : Nat
  row : List Nat
  rows : List (List Nat)

/-- What has been read after one more character. -/
def TableScan.next (scan : TableScan) (c : Char) : TableScan :=
  if c = ' ' then ⟨0, [], (scan.number :: scan.row).reverse :: scan.rows⟩
  else if c = ',' then ⟨0, scan.number :: scan.row, scan.rows⟩
  else ⟨scan.number * 16 + (Bytes.hexValue? (UInt8.ofNat c.toNat)).getD 0, scan.row, scan.rows⟩

/-- The rows of a line. -/
def rowsOfLine (line : String) : List (List Nat) :=
  ((line.toList ++ [' ']).foldl TableScan.next ⟨0, [], []⟩).rows.reverse

/-- The rows of a table. -/
def rows (lines : List String) : List (List Nat) := lines.flatMap rowsOfLine

/-- The range a row of two numbers stands for. -/
def rangeOfRow? : List Nat → Option (Nat × Nat)
  | [first, last] => some (first, last)
  | _ => none

/-- The ranges of a table. -/
def ranges (lines : List String) : List (Nat × Nat) := (rows lines).filterMap rangeOfRow?

/-- The value of a code point in a row of a range and its value. -/
def rangeValue? (n : Nat) : List Nat → Option Nat
  | [first, last, value] => if first ≤ n && n ≤ last then some value else none
  | _ => none

end Text

end TelemetryRelay
