import TelemetryRelay.Text.Folding
import TelemetryRelay.Text.Joining
import TelemetryRelay.Text.Normal
import TelemetryRelay.Text.Punycode

/-! # Names of hosts

    A name is a row of labels with dots between them. It is folded and brought
    into composed form; each label is then checked and, if it is not ASCII,
    written in ASCII letters after a mark. A label that has the mark already must
    stand for one that this would have led to.
-/

namespace TelemetryRelay

namespace Http

open Text (Direction)

namespace DomainName

/-! ## Section 1: Labels -/

/-- A label: what it stands for, and its ASCII form. -/
structure Label where
  chars : List Char
  ascii : List Char

/-- What the ASCII form of a label starts with if it stands for other characters. -/
def mark : List Char := ['x', 'n', '-', '-']

/-- Cuts characters at dots. -/
def labelsOf (chars : List Char) : List (List Char) :=
  chars.foldr
    (fun c labels =>
      if c = '.' then [] :: labels
      else match labels with
        | label :: rest => (c :: label) :: rest
        | [] => [[c]])
    [[]]

/-- Whether a character is ASCII. -/
def isAscii (c : Char) : Bool := c.toNat < 128

/-- Whether a character may stand in a name. Beyond ASCII all folded ones may. -/
def isAllowed (c : Char) : Bool :=
  !isAscii c || (32 < c.toNat && c.toNat < 127 && !("%#/:<>?@[\\]^|".toList.contains c))

/-- The greatest length of a label that is written in ASCII letters. -/
def longestLabel : Nat := 1000

/-- The greatest length of what follows the mark. -/
def longestForm : Nat := 2000

/-- Reads the label that stands after the mark. It has a character beyond ASCII,
    is folded and in composed form, and does not start with the mark itself. -/
def readForm (form : List Char) : Option (List Char) :=
  if longestForm < form.length then none
  else
    (Text.Punycode.decode form).filter fun chars =>
      chars.any (fun c => !isAscii c) && chars.all Text.isFolded &&
        Text.composedChars chars == chars && !mark.isPrefixOf chars

/-- Reads a folded label. -/
def readLabel (chars : List Char) : Option Label :=
  if chars.all isAscii then
    if mark.isPrefixOf chars then
      (readForm (chars.drop mark.length)).map fun name => ⟨name, chars⟩
    else some ⟨chars, chars⟩
  else if mark.isPrefixOf chars || longestLabel < chars.length then none
  else some ⟨chars, mark ++ Text.Punycode.encode chars⟩

/-! ## Section 2: Joiners -/

/-- The sign that keeps letters from being joined. -/
def nonJoiner : Nat := 0x200C

/-- The sign that joins letters. -/
def joiner : Nat := 0x200D

/-- The class of the sign that takes the vowel from a letter. -/
def vowelKiller : Nat := 9

/-- Whether the letter nearest to a sign, past marks, is one that `joins`. -/
def nearest (joins : Char → Bool) (chars : List Char) : Bool :=
  match chars.dropWhile fun c => Text.direction c == .mark with
  | c :: _ => joins c
  | [] => false

/-- Whether joiners stand where they have a meaning; `before` holds the characters
    passed, nearest first. -/
def joinersFit : List Char → List Char → Bool
  | _, [] => true
  | before, c :: rest =>
    (if c.toNat = joiner ∨ c.toNat = nonJoiner then
      (before.head?.any fun b => Text.classOf b.toNat == vowelKiller) ||
        (c.toNat == nonJoiner && nearest Text.joinsNext before &&
          nearest Text.joinsPrevious rest)
    else true) && joinersFit (c :: before) rest

/-! ## Section 3: Directions -/

/-- Whether a character makes the name one that runs in both directions. -/
def isRightToLeft (c : Char) : Bool :=
  [Direction.rightToLeft, .arabicLetter, .arabicNumber].contains (Text.direction c)

/-- The directions that may stand in a label of either direction. -/
def weak : List Direction :=
  [.europeanNumber, .numberSeparator, .commonSeparator, .numberTerminator, .neutral,
   .boundary, .mark]

/-- Whether the directions of a label that starts from the left fit together. -/
def fitsFromLeft (directions : List Direction) : Bool :=
  directions.all (fun d => d == .leftToRight || weak.contains d) &&
    match directions.reverse.dropWhile fun d => d == .mark with
    | last :: _ => last == .leftToRight || last == .europeanNumber
    | [] => true

/-- Whether the directions of a label that starts from the right fit together. -/
def fitsFromRight (directions : List Direction) : Bool :=
  directions.all (fun d =>
    [.rightToLeft, .arabicLetter, .arabicNumber].contains d || weak.contains d) &&
    !(directions.contains .arabicNumber && directions.contains .europeanNumber) &&
    match directions.reverse.dropWhile fun d => d == .mark with
    | last :: _ =>
      [.rightToLeft, .arabicLetter, .europeanNumber, .arabicNumber].contains last
    | [] => true

/-- Whether a label can stand in a name that runs in both directions. -/
def directionsFit (chars : List Char) : Bool :=
  let directions := chars.map Text.direction
  match directions with
  | [] => true
  | .leftToRight :: _ => fitsFromLeft directions
  | .rightToLeft :: _ | .arabicLetter :: _ => fitsFromRight directions
  | _ => false

/-! ## Section 4: Names -/

/-- Whether a label beyond ASCII is well formed. -/
def isWellFormed (label : Label) : Bool :=
  label.chars.all isAllowed &&
    (label.chars.all isAscii ||
      (!(label.chars.head?.any Text.isMark) && joinersFit [] label.chars))

/-- The labels of a name in folded and composed form. -/
def foldedLabels (chars : List Char) : Option (List (List Char)) :=
  (chars.mapM Text.fold?).map fun folded =>
    if chars.all isAscii then labelsOf folded.flatten
    else labelsOf (Text.composedChars folded.flatten)

/-- The ASCII form of a name, if it is one. -/
def asciiForm (chars : List Char) : Option (List Char) := do
  let labels ← (← foldedLabels chars).mapM readLabel
  let runsBothWays := labels.any fun label => label.chars.any isRightToLeft
  if labels.all fun label =>
      isWellFormed label && (!runsBothWays || directionsFit label.chars) then
    some (List.intercalate ['.'] (labels.map Label.ascii))
  else none

end DomainName

end Http

end TelemetryRelay
