import TelemetryRelay.Decimal.Binary64

/-! # Shortest decimal digits

    A double is printed with the fewest decimal digits that read back as the
    same double, taking among those the ones nearest to it. The candidates for
    each number of digits are the two multiples of a power of ten around the
    exact value; seventeen digits always suffice.
-/

namespace TelemetryRelay

namespace Binary64

/-! ## Section 1: The digits -/

/-- Decimal digits with the place of the point: `0.d₁d₂… * 10 ^ point`. -/
structure Decimal where
  digits : Nat
  count : Nat
  point : Int
deriving DecidableEq, Repr

/-- A fraction times `10 ^ e`. -/
def timesTen (n d : Nat) (e : Int) : Nat × Nat :=
  if 0 ≤ e then (n * tenTo e.toNat, d) else (n, d * tenTo (-e).toNat)

/-- Whether `n / d` is at least `10 ^ e`. -/
def reaches (n d : Nat) (e : Int) : Bool :=
  let (a, b) := timesTen n d (-e)
  b ≤ a

/-- The exponent `k` with `10 ^ (k - 1) ≤ n / d < 10 ^ k`. -/
def pointOf (n d : Nat) : Int :=
  let guess := (Int.ofNat n.log2 - Int.ofNat d.log2) * 30103 / 100000 - 1
  let step := fun k => if reaches n d k then k + 1 else k
  step (step (step (step guess)))

/-- The multiple of the unit among `q` and `q + 1` that lies between the bounds
    and is nearest to the exact value, all being fractions over `d`. -/
def nearest (exact low high d : Nat) (inclusive : Bool) : Option Nat :=
  let q := exact / d
  let inside := fun c =>
    if inclusive then low ≤ c * d && c * d ≤ high else low < c * d && c * d < high
  let twice := 2 * (exact % d)
  let upper := if twice == d then q % 2 == 1 else d < twice
  if inside q && inside (q + 1) then some (if upper then q + 1 else q)
  else if inside q then some q
  else if inside (q + 1) then some (q + 1)
  else none

/-- Drops the zeros digits end with. -/
def stripZeros : Nat → Nat → Nat → Nat × Nat
  | 0, digits, count => (digits, count)
  | fuel + 1, digits, count =>
    if digits % 10 == 0 && 1 < count then stripZeros fuel (digits / 10) (count - 1)
    else (digits, count)

/-- The first number of digits, from `count` on, with a candidate in bounds. -/
def searchDigits (exact low high d : Nat) (inclusive : Bool) (point : Int) :
    Nat → Nat → Decimal
  | 0, count => ⟨0, count, point⟩
  | fuel + 1, count =>
    let shift := Int.ofNat count - point
    let scaled := fun n => (timesTen n d shift).1
    match nearest (scaled exact) (scaled low) (scaled high) (timesTen 1 d shift).2 inclusive with
    | some digits =>
      if digits == tenTo count then ⟨1, 1, point + 1⟩
      else
        let (digits, count) := stripZeros count digits count
        ⟨digits, count, point⟩
    | none => searchDigits exact low high d inclusive point fuel (count + 1)

/-- The shortest digits of the magnitude of a finite number other than zero. -/
def shortest (x : Binary64) : Decimal :=
  let m := x.significand
  let unit := twoTo x.scale
  let d := twoTo 1076
  let below := if m == twoTo 52 && 0 < x.scale then 1 else 2
  searchDigits (4 * m * unit) ((4 * m - below) * unit) ((4 * m + 2) * unit) d
    (m % 2 == 0) (pointOf (4 * m * unit) d) 17 1

/-! ## Section 2: The text -/

/-- So many zeros. -/
def zeros (n : Nat) : List Char := List.replicate n '0'

/-- The sign of a number, as text in front of its digits. -/
def signText (x : Binary64) : List Char := if x.negative then ['-'] else []

/-- Digits written out around the point, without an exponent. -/
def positional (digits : List Char) (point : Int) : List Char :=
  let count := digits.length
  if Int.ofNat count ≤ point then digits ++ zeros (point.toNat - count) ++ ['.', '0']
  else if 0 < point then digits.take point.toNat ++ ['.'] ++ digits.drop point.toNat
  else ['0', '.'] ++ zeros (-point).toNat ++ digits

/-- Digits with one of them before the point, and the exponent of ten. -/
def scientific (digits : List Char) (point : Int) : List Char :=
  let mantissa := match digits with
    | [d] => [d]
    | d :: rest => d :: '.' :: rest
    | [] => []
  let exponent := point - 1
  mantissa ++ ['e'] ++ (if exponent < 0 then ['-'] else ['+']) ++
    (toString exponent.natAbs).toList

/-- The shortest text of a finite number: positional from `1e-5` up to below
    `1e16`, with an exponent elsewhere, and never looking like an integer. -/
def text (x : Binary64) : List Char :=
  if x.isZero then x.signText ++ ['0', '.', '0'] else
    let dec := x.shortest
    let digits := (toString dec.digits).toList
    x.signText ++
      (if -5 < dec.point && dec.point ≤ 16 then positional digits dec.point
       else scientific digits dec.point)

end Binary64

end TelemetryRelay
