/-! # Sets of code points

    A set of characters is a list of inclusive ranges of code points.
-/

namespace TelemetryRelay

namespace CodePoints

/-- Whether a code point lies in one of the ranges. -/
def contains (ranges : List (Nat × Nat)) (n : Nat) : Bool :=
  ranges.any fun range => range.1 ≤ n && n ≤ range.2

/-- The code points of white space. -/
def blank : List (Nat × Nat) :=
  [(0x9, 0xD), (0x20, 0x20), (0x85, 0x85), (0xA0, 0xA0), (0x1680, 0x1680),
   (0x2000, 0x200A), (0x2028, 0x2029), (0x202F, 0x202F), (0x205F, 0x205F),
   (0x3000, 0x3000)]

end CodePoints

end TelemetryRelay
