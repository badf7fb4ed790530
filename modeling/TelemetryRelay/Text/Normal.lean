import TelemetryRelay.Text.Composition

/-! # Composed form

    The same letters with marks can be written in several ways. The composed form
    takes characters apart, puts marks into the order of their classes, and joins
    what can be joined: a letter and a mark, or the parts of a Korean syllable.
-/

namespace TelemetryRelay

namespace Text

/-! ## Section 1: Syllables -/

/-- The first syllable. Syllables stand in the order of their leading consonants,
    then of their vowels, then of their trailing consonants, none coming first. -/
def syllableBase : Nat := 0xAC00

/-- The first leading consonant. -/
def leadBase : Nat := 0x1100

/-- The first vowel. -/
def vowelBase : Nat := 0x1161

/-- The place before the first trailing consonant. -/
def trailBase : Nat := 0x11A7

/-- The parts of a syllable. -/
def syllableParts? (n : Nat) : Option (List Nat) :=
  if syllableBase ≤ n && n < syllableBase + 11172 then
    let place := n - syllableBase
    let parts := [leadBase + place / 588, vowelBase + place % 588 / 28]
    some (if place % 28 = 0 then parts else parts ++ [trailBase + place % 28])
  else none

/-- The syllable of a leading consonant and a vowel, or of a syllable without a
    trailing consonant and one. -/
def syllableOf? (a b : Nat) : Option Nat :=
  if leadBase ≤ a && a < leadBase + 19 && vowelBase ≤ b && b < vowelBase + 21 then
    some (syllableBase + (a - leadBase) * 588 + (b - vowelBase) * 28)
  else if syllableBase ≤ a && a < syllableBase + 11172 && (a - syllableBase) % 28 == 0
      && trailBase < b && b < trailBase + 28 then
    some (a + (b - trailBase))
  else none

/-! ## Section 2: Parts and classes -/

/-- The two characters a code point is made of. -/
def partsOf? (n : Nat) : List Nat → Option (Nat × Nat)
  | [whole, a, b] => if whole = n then some (a, b) else none
  | _ => none

/-- The code point that is made of two others. -/
def wholeOf? (a b : Nat) : List Nat → Option Nat
  | [whole, c, d] => if a = c ∧ b = d then some whole else none
  | _ => none

/-- The code points a code point is made of, in the end. The fuel bounds how often
    parts have parts. -/
def takeApart : Nat → Nat → List Nat
  | 0, n => [n]
  | fuel + 1, n =>
    match syllableParts? n with
    | some parts => parts
    | none =>
      match compositionRows.findSome? (partsOf? n) with
      | some (a, b) => takeApart fuel a ++ takeApart fuel b
      | none => [n]

/-- What two code points are joined to. -/
def join? (a b : Nat) : Option Nat :=
  (syllableOf? a b).or (compositionRows.findSome? (wholeOf? a b))

/-- The class in which a code point binds; 0 for one that begins something new. -/
def classOf (n : Nat) : Nat := (classRows.findSome? (rangeValue? n)).getD 0

/-! ## Section 3: Composing -/

/-- Puts a code point into its place after others, which come last first: marks
    of a greater class go behind it. -/
def insertByClass (n : Nat) : List Nat → List Nat
  | [] => [n]
  | m :: rest =>
    if classOf n ≠ 0 ∧ classOf n < classOf m then m :: insertByClass n rest else n :: m :: rest

/-- Code points with their marks in order. -/
def orderMarks (points : List Nat) : List Nat :=
  (points.foldl (fun before n => insertByClass n before) []).reverse

/-- What has been composed: what is complete, last first, the code point that
    others can be joined to, and the marks after it, last first. -/
structure Composing where
  complete : List Nat
  starter : Option Nat
  marks : List Nat

/-- All that has been composed, last first. -/
def Composing.all (state : Composing) : List Nat :=
  state.marks ++ state.starter.toList ++ state.complete

/-- Whether nothing stands between a code point and the one it could join. -/
def Composing.isNext (state : Composing) (n : Nat) : Bool :=
  match state.marks with
  | [] => true
  | mark :: _ => classOf mark < classOf n

/-- Goes on with one more code point. -/
def Composing.next (state : Composing) (n : Nat) : Composing :=
  match state.starter.bind fun starter => if state.isNext n then join? starter n else none with
  | some whole => { state with starter := some whole }
  | none =>
    if classOf n = 0 then ⟨state.all, some n, []⟩
    else { state with marks := n :: state.marks }

/-- The composed form of code points. -/
def composed (points : List Nat) : List Nat :=
  ((orderMarks (points.flatMap (takeApart 4))).foldl Composing.next ⟨[], none, []⟩).all.reverse

/-- The composed form of characters. -/
def composedChars (chars : List Char) : List Char :=
  (composed (chars.map Char.toNat)).map Char.ofNat

end Text

end TelemetryRelay
