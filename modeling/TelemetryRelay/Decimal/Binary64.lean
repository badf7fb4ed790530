import TelemetryRelay.Power

/-! # Binary floating point

    Numbers of telemetry records that are not integers of 64 bits are kept in
    double precision. The arithmetic is exact on natural numbers and rounded
    once at the end, half to even, so that every step can be computed and
    reasoned about without machine floating point.
-/

namespace TelemetryRelay

/-- A double-precision number. `code` holds everything but the sign: the biased
    exponent above 52 bits of fraction. -/
structure Binary64 where
  negative : Bool
  code : Nat
deriving DecidableEq, Repr, Inhabited

namespace Binary64

/-! ## Section 1: What a code stands for -/

/-- The code of infinity; greater codes are no numbers. -/
def infinityCode : Nat := 2047 * twoTo 52

/-- Positive zero. -/
def zero : Binary64 := ⟨false, 0⟩

/-- The same number with the given sign. -/
def withSign (negative : Bool) (x : Binary64) : Binary64 := ⟨negative, x.code⟩

/-- Whether a number is zero of either sign. -/
def isZero (x : Binary64) : Bool := x.code == 0

/-- Whether a number is infinite. -/
def isInfinite (x : Binary64) : Bool := x.code == infinityCode

/-- The number of steps of `2 ^ 52` between the code and the significand. -/
def scale (x : Binary64) : Nat := x.code / twoTo 52 - 1

/-- The significand: the magnitude is `significand * 2 ^ (scale - 1074)`. -/
def significand (x : Binary64) : Nat := x.code - x.scale * twoTo 52

/-- The magnitude of a finite number as a fraction. -/
def ratio (x : Binary64) : Nat × Nat := (x.significand * twoTo x.scale, twoTo 1074)

/-! ## Section 2: Rounding -/

/-- The quotient rounded to the nearest integer, half to even. -/
def roundDiv (n d : Nat) : Nat :=
  let q := n / d
  let twice := 2 * (n % d)
  if twice < d || (twice == d && q % 2 == 0) then q else q + 1

/-- The number nearest to `n / d`, half to even, infinite past the largest. -/
def ofRatio (negative : Bool) (n d : Nat) : Binary64 :=
  if n = 0 then ⟨negative, 0⟩ else
    let low := n.log2 + 1021 - d.log2
    let fits := n * twoTo 1074 / (d * twoTo low) < twoTo 53
    let scale := if fits then low else low + 1
    let code := scale * twoTo 52 + roundDiv (n * twoTo 1074) (d * twoTo scale)
    ⟨negative, min code infinityCode⟩

/-- The number nearest to a natural number. -/
def ofNat (n : Nat) : Binary64 := ofRatio false n 1

/-- The number nearest to an integer. -/
def ofInt (i : Int) : Binary64 := ofRatio (i < 0) i.natAbs 1

/-- Ten to the power `e`, rounded. -/
def powerOfTen (e : Nat) : Binary64 := ofNat (tenTo e)

/-! ## Section 3: Products and quotients -/

/-- The rounded product of finite numbers. -/
def mul (x y : Binary64) : Binary64 :=
  let (a, b) := x.ratio
  let (c, d) := y.ratio
  ofRatio (x.negative != y.negative) (a * c) (b * d)

/-- The rounded quotient of finite numbers, the divisor not being zero. -/
def div (x y : Binary64) : Binary64 :=
  let (a, b) := x.ratio
  let (c, d) := y.ratio
  ofRatio (x.negative != y.negative) (a * d) (b * c)

end Binary64

end TelemetryRelay
