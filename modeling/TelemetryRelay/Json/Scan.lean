import TelemetryRelay.Json.Fault
import TelemetryRelay.Text.Utf8

/-! # Tokens of a JSON text

    Reading goes left to right over the octets and stops at the first fault.
    A reader returns what it read with the octets after it. Strings are checked
    for well-formed UTF-8 once, at their closing quotation mark, so that a fault
    inside them is reported first.
-/

namespace TelemetryRelay

namespace Json

/-- Reads something from the front of the octets. -/
abbrev Reader (α : Type) := Bytes → Except Fault (α × Bytes)

/-! ## Section 1: Blanks and words -/

/-- Whether an octet may stand between tokens. -/
def isSpace (b : UInt8) : Bool := b == 32 || b == 10 || b == 9 || b == 13

/-- Drops the blanks in front. -/
def skipSpace : Bytes → Bytes
  | [] => []
  | b :: rest => if isSpace b then skipSpace rest else b :: rest

/-- Reads the rest of a word such as `true` after its first letter. -/
def ident : Bytes → Reader Unit
  | [], octets => .ok ((), octets)
  | _ :: _, [] => .error .endOfValue
  | w :: word, b :: rest => if w == b then ident word rest else .error .expectedIdent

/-- Reads the rest of `null`. -/
def identNull : Reader Unit := ident [117, 108, 108]

/-- Reads the rest of `true`. -/
def identTrue : Reader Unit := ident [114, 117, 101]

/-- Reads the rest of `false`. -/
def identFalse : Reader Unit := ident [97, 108, 115, 101]

/-! ## Section 2: Strings -/

/-- What the letter after a backslash stands for, `u` aside. -/
def simpleEscape? (b : UInt8) : Option UInt8 :=
  if b == 34 then some 34
  else if b == 92 then some 92
  else if b == 47 then some 47
  else if b == 98 then some 8
  else if b == 102 then some 12
  else if b == 110 then some 10
  else if b == 114 then some 13
  else if b == 116 then some 9
  else none

/-- The number of four hexadecimal digits. -/
def hexQuad? (a b c d : UInt8) : Option Nat :=
  match Bytes.hexValue? a, Bytes.hexValue? b, Bytes.hexValue? c, Bytes.hexValue? d with
  | some a, some b, some c, some d => some (((a * 16 + b) * 16 + c) * 16 + d)
  | _, _, _, _ => none

/-- Whether a number is the first half of a surrogate pair. -/
def isLeading (n : Nat) : Bool := 0xD800 ≤ n && n ≤ 0xDBFF

/-- Whether a number is the second half of a surrogate pair. -/
def isTrailing (n : Nat) : Bool := 0xDC00 ≤ n && n ≤ 0xDFFF

/-- The UTF-8 octets of a code point. -/
def octetsOf (n : Nat) : Bytes := String.utf8EncodeChar (Char.ofNat n)

/-- Where the reading of a string stands. -/
inductive Place where
  /-- Between characters. -/
  | plain
  /-- After a backslash. -/
  | escaped
  /-- In the digits of `\u`, those read last first; the second half of a pair if
      a leading half came before. -/
  | digits (lead : Option Nat) (read : Bytes)
  /-- After a leading half, which needs another escape. -/
  | halfway (lead : Nat)
  /-- After a leading half and a backslash. -/
  | halfEscaped (lead : Nat)
deriving DecidableEq, Repr

/-- What the four digits of an escape amount to: a whole character, or the
    leading half of a pair. -/
def quadEnd (lead : Option Nat) (a b c d : UInt8) : Except Fault (Place × Bytes) :=
  match hexQuad? a b c d, lead with
  | none, _ => .error .invalidEscape
  | some n, none =>
    if isTrailing n then .error .loneLeadingSurrogate
    else if isLeading n then .ok (.halfway n, [])
    else .ok (.plain, octetsOf n)
  | some n, some lead =>
    if isTrailing n then
      .ok (.plain, octetsOf (0x10000 + (lead - 0xD800) * 0x400 + (n - 0xDC00)))
    else .error .loneLeadingSurrogate

/-- What one octet does inside a string, the closing mark aside: where the
    reading stands after it and the octets it adds. -/
def stringStep (place : Place) (b : UInt8) : Except Fault (Place × Bytes) :=
  match place with
  | .plain =>
    if b == 92 then .ok (.escaped, [])
    else if b < 32 then .error .controlCharacter
    else .ok (.plain, [b])
  | .escaped =>
    match simpleEscape? b with
    | some octet => .ok (.plain, [octet])
    | none => if b == 117 then .ok (.digits none [], []) else .error .invalidEscape
  | .digits lead [z, y, x] => quadEnd lead x y z b
  | .digits lead read => .ok (.digits lead (b :: read), [])
  | .halfway lead =>
    if b == 92 then .ok (.halfEscaped lead, []) else .error .endOfHexEscape
  | .halfEscaped lead =>
    if b == 117 then .ok (.digits (some lead) [], []) else .error .endOfHexEscape

/-- Reads up to the closing quotation mark; `acc` holds the octets of the string
    so far, last first. -/
def stringOctets : Place → Bytes → Reader Bytes
  | _, _, [] => .error .endOfString
  | place, acc, b :: rest =>
    if place = .plain ∧ b = 34 then .ok (acc.reverse, rest)
    else match stringStep place b with
      | .error fault => .error fault
      | .ok (place, octets) => stringOctets place (octets.reverse ++ acc) rest

/-- Reads a string after its opening quotation mark. -/
def string : Reader String := fun octets => do
  let (body, rest) ← stringOctets .plain [] octets
  match Utf8.decode body with
  | some text => .ok (text, rest)
  | none => .error .invalidCodePoint

/-! ## Section 3: Numbers -/

/-- The least number that does not fit 64 bits. -/
def wordLimit : Nat := 0x10000000000000000

/-- Reads digits onto `n` as long as the number stays below `limit`: the number,
    how many digits were read, and what follows. -/
def digitsBelow (limit : Nat) : Nat → Nat → Bytes → Nat × Nat × Bytes
  | n, count, [] => (n, count, [])
  | n, count, b :: rest =>
    if Bytes.isDigit b && n * 10 + Bytes.digitValue b < limit then
      digitsBelow limit (n * 10 + Bytes.digitValue b) (count + 1) rest
    else (n, count, b :: rest)

/-- Drops the digits in front and counts them onto `count`. -/
def dropDigits : Nat → Bytes → Nat × Bytes
  | count, [] => (count, [])
  | count, b :: rest =>
    if Bytes.isDigit b then dropDigits (count + 1) rest else (count, b :: rest)

/-- Whether the octets start with a digit. -/
def digitAhead : Bytes → Bool
  | b :: _ => Bytes.isDigit b
  | [] => false

/-- Whether the octets start with an exponent. -/
def exponentAhead : Bytes → Bool
  | b :: _ => b == 101 || b == 69
  | [] => false

/-- Whether the octets start with a decimal point. -/
def pointAhead : Bytes → Bool
  | b :: _ => b == 46
  | [] => false

/-- A significand times a power of ten, in steps of at most `10 ^ 308`. Four
    steps down take any significand to zero. -/
def scaled : Nat → Binary64 → Int → Except Fault Binary64
  | 0, f, _ => .ok f
  | fuel + 1, f, e =>
    if e.natAbs ≤ 308 then
      if 0 ≤ e then
        let product := f.mul (Binary64.powerOfTen e.toNat)
        if product.isInfinite then .error .numberOutOfRange else .ok product
      else .ok (f.div (Binary64.powerOfTen e.natAbs))
    else if f.isZero then .ok f
    else if 0 ≤ e then .error .numberOutOfRange
    else scaled fuel (f.div (Binary64.powerOfTen 308)) (e + 308)

/-- The double of a sign, a significand and an exponent of ten. -/
def fromParts (negative : Bool) (significand : Nat) (e : Int) : Except Fault Number :=
  match scaled 5 (Binary64.ofNat significand) e with
  | .ok f => .ok (.real (f.withSign negative))
  | .error fault => .error fault

/-- The integer of a sign and a significand below `2 ^ 64`. A minus sign in
    front of zero, or of a number too large for 64 bits, makes a double. -/
def signedInteger (negative : Bool) (significand : Nat) : Number :=
  if negative then
    if 0 < significand && significand ≤ 0x8000000000000000 then .integer (-Int.ofNat significand)
    else .real ((Binary64.ofNat significand).withSign true)
  else .integer (Int.ofNat significand)

/-- The greatest exponent that is read digit by digit. -/
def exponentLimit : Nat := 0x80000000

/-- Reads the digits of an exponent after its sign. -/
def exponentDigits (negative : Bool) (significand : Nat) (start : Int) (down : Bool) :
    Reader Number := fun octets =>
  match octets with
  | [] => .error .endOfValue
  | b :: _ =>
    if !Bytes.isDigit b then .error .invalidNumber else
      let (e, _, rest) := digitsBelow exponentLimit 0 0 octets
      if digitAhead rest then
        if significand != 0 && !down then .error .numberOutOfRange
        else .ok (.real ((Binary64.zero).withSign negative), (dropDigits 0 rest).2)
      else do
        let number ← fromParts negative significand
          (if down then start - Int.ofNat e else start + Int.ofNat e)
        .ok (number, rest)

/-- Reads an exponent after its letter. -/
def exponentPart (negative : Bool) (significand : Nat) (start : Int) : Reader Number
  | 43 :: rest => exponentDigits negative significand start false rest
  | 45 :: rest => exponentDigits negative significand start true rest
  | octets => exponentDigits negative significand start false octets

/-- Ends a number that is not an integer: with its exponent, if it has one. -/
def realEnd (negative : Bool) (significand : Nat) (e : Int) : Reader Number := fun octets =>
  if exponentAhead octets then exponentPart negative significand e octets.tail
  else do
    let number ← fromParts negative significand e
    .ok (number, octets)

/-- Reads the decimals after the point. Those that no longer fit are dropped. -/
def decimals (negative : Bool) (significand : Nat) (before : Nat) : Reader Number :=
  fun octets =>
  match octets with
  | [] => .error .endOfValue
  | b :: _ =>
    if !Bytes.isDigit b then .error .invalidNumber else
      let (significand, count, rest) := digitsBelow wordLimit significand 0 octets
      let (_, rest) := dropDigits 0 rest
      realEnd negative significand (Int.ofNat before - Int.ofNat count) rest

/-- Ends a number after its integer part, of which `dropped` digits did not fit. -/
def numberEnd (negative : Bool) (significand : Nat) (dropped : Nat) : Reader Number :=
  fun octets =>
  if pointAhead octets then decimals negative significand dropped octets.tail
  else if exponentAhead octets then
    exponentPart negative significand (Int.ofNat dropped) octets.tail
  else if dropped == 0 then .ok (signedInteger negative significand, octets)
  else do
    let number ← fromParts negative significand (Int.ofNat dropped)
    .ok (number, octets)

/-- Reads a number after its sign. -/
def number (negative : Bool) : Reader Number := fun octets =>
  match octets with
  | [] => .error .endOfValue
  | b :: rest =>
    if b == 48 then
      if digitAhead rest then .error .invalidNumber else numberEnd negative 0 0 rest
    else if Bytes.isDigit b then
      let (significand, _, rest) := digitsBelow wordLimit 0 0 octets
      let (dropped, rest) := dropDigits 0 rest
      numberEnd negative significand dropped rest
    else .error .invalidNumber

/-! ## Section 4: Inside arrays and objects -/

/-- What follows an opening bracket or a comma. -/
inductive Step where
  /-- One more element begins here. -/
  | more (rest : Bytes)
  /-- The closing bracket is next. -/
  | closing (rest : Bytes)
deriving DecidableEq, Repr

/-- Goes to the next element of an array. The comma before it is read, and a
    closing bracket is left in place. -/
def nextItem (first : Bool) (octets : Bytes) : Except Fault Step :=
  match skipSpace octets with
  | [] => .error .endOfList
  | b :: rest =>
    if b == 93 then .ok (.closing (b :: rest))
    else if first then .ok (.more (b :: rest))
    else if b == 44 then
      match skipSpace rest with
      | [] => .error .endOfValue
      | c :: rest => if c == 93 then .error .trailingComma else .ok (.more (c :: rest))
    else .error .expectedListEnd

/-- Goes to the next field of an object: its name begins after the quotation
    mark, which is read. -/
def nextField (first : Bool) (octets : Bytes) : Except Fault Step :=
  match skipSpace octets with
  | [] => .error .endOfObject
  | b :: rest =>
    if b == 125 then .ok (.closing (b :: rest))
    else if first then
      if b == 34 then .ok (.more rest) else .error .keyNotString
    else if b == 44 then
      match skipSpace rest with
      | [] => .error .endOfValue
      | c :: rest =>
        if c == 34 then .ok (.more rest)
        else if c == 125 then .error .trailingComma
        else .error .keyNotString
    else .error .expectedObjectEnd

/-- Reads the colon after the name of a field. -/
def colon : Reader Unit := fun octets =>
  match skipSpace octets with
  | [] => .error .endOfObject
  | b :: rest => if b == 58 then .ok ((), rest) else .error .expectedColon

/-- Reads the end of an array. -/
def closeList : Reader Unit := fun octets =>
  match skipSpace octets with
  | [] => .error .endOfList
  | b :: rest =>
    if b == 93 then .ok ((), rest)
    else if b == 44 then
      match skipSpace rest with
      | c :: _ => if c == 93 then .error .trailingComma else .error .trailingCharacters
      | [] => .error .trailingCharacters
    else .error .trailingCharacters

/-- Reads the end of an object. -/
def closeObject : Reader Unit := fun octets =>
  match skipSpace octets with
  | [] => .error .endOfObject
  | b :: rest =>
    if b == 125 then .ok ((), rest)
    else if b == 44 then .error .trailingComma
    else .error .trailingCharacters

/-! ## Section 5: Documents -/

/-- Reads a whole text: nothing but blanks may follow. -/
def document {α : Type} (reader : Reader α) (octets : Bytes) : Except Fault α := do
  let (result, rest) ← reader octets
  match skipSpace rest with
  | [] => .ok result
  | _ :: _ => .error .trailingCharacters

end Json

end TelemetryRelay
