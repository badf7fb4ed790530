/-! # Integers in settings

    An integer is an optional sign and decimal digits. It is read digit by digit,
    and the first digit that is none, or that makes the number too large, decides
    what is wrong.
-/

namespace TelemetryRelay

namespace Decimal

/-- What is wrong with the text of an integer. -/
inductive Fault where
  | empty
  | invalidDigit
  | tooLarge
  | tooSmall
deriving DecidableEq, Repr

/-- The message of a fault. -/
def Fault.message : Fault → String
  | .empty => "cannot parse integer from empty string"
  | .invalidDigit => "invalid digit found in string"
  | .tooLarge => "number too large to fit in target type"
  | .tooSmall => "number too small to fit in target type"

/-- Reads digits onto `n`, which must not pass `limit`. -/
def digitsUpTo (limit : Nat) (overflow : Fault) : Nat → List Char → Except Fault Nat
  | n, [] => .ok n
  | n, c :: rest =>
    if c.isDigit then
      let next := n * 10 + (c.toNat - 48)
      if next ≤ limit then digitsUpTo limit overflow next rest else .error overflow
    else .error .invalidDigit

/-- Reads digits, of which there must be one. -/
def someDigits (limit : Nat) (overflow : Fault) (chars : List Char) : Except Fault Nat :=
  if chars.isEmpty then .error .invalidDigit else digitsUpTo limit overflow 0 chars

/-- Reads a number from 0 to `limit`, with an optional plus sign. -/
def parseUnsigned (limit : Nat) (text : String) : Except Fault Nat :=
  match text.toList with
  | [] => .error .empty
  | '+' :: rest => someDigits limit .tooLarge rest
  | chars => someDigits limit .tooLarge chars

/-- Reads a number from `-bound` up to before `bound`, with an optional sign. -/
def parseSigned (bound : Nat) (text : String) : Except Fault Int :=
  match text.toList with
  | [] => .error .empty
  | '-' :: rest => (someDigits bound .tooSmall rest).map fun n => -Int.ofNat n
  | '+' :: rest => (someDigits (bound - 1) .tooLarge rest).map Int.ofNat
  | chars => (someDigits (bound - 1) .tooLarge chars).map Int.ofNat

/-- The greatest number of 64 bits. -/
def maxWord : Nat := 0xFFFFFFFFFFFFFFFF

/-- The greatest port. -/
def maxPort : Nat := 65535

theorem digitsUpTo_le (limit : Nat) (overflow : Fault) (chars : List Char) (n m : Nat)
    (hn : n ≤ limit) (h : digitsUpTo limit overflow n chars = .ok m) : m ≤ limit := by
  induction chars generalizing n with
  | nil => simp only [digitsUpTo, Except.ok.injEq] at h; omega
  | cons c rest ih =>
    simp only [digitsUpTo] at h
    split at h
    · split at h
      · next hle => exact ih _ hle h
      · cases h
    · cases h

end Decimal

end TelemetryRelay
