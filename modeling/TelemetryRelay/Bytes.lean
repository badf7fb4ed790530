/-! # Octets

    Everything the relay receives or sends is a string of octets: telemetry
    chunks, request bodies, environment values, compressed payloads. They are
    plain lists here, so that every reader below is an ordinary recursion.
-/

namespace TelemetryRelay

/-- A string of octets. -/
abbrev Bytes := List UInt8

namespace Bytes

/-- The UTF-8 octets of a text. -/
def ofText (text : String) : Bytes :=
  text.toUTF8.data.toList

/-- Whether an octet is one of `0` to `9`. -/
def isDigit (b : UInt8) : Bool := 48 ≤ b && b ≤ 57

/-- The value of an octet that `isDigit` accepts. -/
def digitValue (b : UInt8) : Nat := b.toNat - 48

/-- The value of a hexadecimal digit in either letter case. -/
def hexValue? (b : UInt8) : Option Nat :=
  if 48 ≤ b && b ≤ 57 then some (b.toNat - 48)
  else if 97 ≤ b && b ≤ 102 then some (b.toNat - 87)
  else if 65 ≤ b && b ≤ 70 then some (b.toNat - 55)
  else none

/-- Whether `needle` occurs in `hay` as a contiguous part. -/
def occursIn (needle : Bytes) : Bytes → Bool
  | [] => needle.isEmpty
  | hay@(_ :: rest) => needle.isPrefixOf hay || occursIn needle rest

/-- The numeral of `n` in base `base` as characters, most significant first.
    The fuel bounds the number of digits. -/
def numeral (base : Nat) : Nat → Nat → List Char → List Char
  | 0, _, tail => tail
  | fuel + 1, n, tail =>
    let head := Nat.digitChar (n % base) :: tail
    if n < base then head else numeral base fuel (n / base) head

/-- Lower-case hexadecimal text of a number, without leading zeros. -/
def hexText (n : Nat) : String :=
  String.ofList (numeral 16 (n + 1) n [])

/-- The two upper-case hexadecimal digits of an octet. -/
def upperHex (b : UInt8) : List Char :=
  let digit := fun n => (Nat.digitChar n).toUpper
  [digit (b.toNat / 16), digit (b.toNat % 16)]

/-- A number as `width` octets, least significant first. -/
def littleEndian : Nat → Nat → Bytes
  | 0, _ => []
  | width + 1, n => UInt8.ofNat (n % 256) :: littleEndian width (n / 256)

end Bytes

end TelemetryRelay
