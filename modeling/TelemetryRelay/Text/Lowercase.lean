import TelemetryRelay.Text.CaseRanges

/-! # Lower case

    Full lower-casing of a text: the dotted capital I becomes two characters,
    and a capital sigma becomes the final form at the end of a word.
-/

namespace TelemetryRelay

namespace Text

open CodePoints

/-- The lower-case form of a character by itself. -/
def lowerChar (c : Char) : List Char :=
  let n := c.toNat
  if n < 128 then [c.toLower]
  else if n == 0x130 then ['i', Char.ofNat 0x307]
  else [((lowerRuns.findSome? fun run => run.lower? n).map Char.ofNat).getD c]

/-- Whether the first character that counts around a sigma has a letter case. -/
def nextIsCased (chars : List Char) : Bool :=
  match chars.dropWhile fun c => contains caseIgnorable c.toNat with
  | c :: _ => contains cased c.toNat
  | [] => false

/-- Lower-cases the remaining characters; `before` holds those already passed,
    nearest first. -/
def lowerFrom : List Char → List Char → List Char
  | _, [] => []
  | before, c :: rest =>
    let here :=
      if c.toNat == 0x3A3 then
        if nextIsCased before && !nextIsCased rest then [Char.ofNat 0x3C2]
        else [Char.ofNat 0x3C3]
      else lowerChar c
    here ++ lowerFrom (c :: before) rest

/-- The lower-case form of a text. -/
def lower (text : String) : String := String.ofList (lowerFrom [] text.toList)

end Text

end TelemetryRelay
