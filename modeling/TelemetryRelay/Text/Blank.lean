import TelemetryRelay.Text.CodePoints

/-! # White space around values -/

namespace TelemetryRelay

namespace Text

/-- Whether a character is white space. -/
def isBlank (c : Char) : Bool := CodePoints.contains CodePoints.blank c.toNat

/-- The characters without the white space they start and end with. -/
def trimChars (chars : List Char) : List Char :=
  ((chars.dropWhile isBlank).reverse.dropWhile isBlank).reverse

/-- The text without the white space it starts and ends with. -/
def trim (text : String) : String := String.ofList (trimChars text.toList)

/-- Whether a text is empty or only white space. -/
def allBlank (text : String) : Bool := text.toList.all isBlank

theorem dropWhile_blank (chars : List Char) (h : chars.all isBlank = true) :
    chars.dropWhile isBlank = [] := by
  induction chars with
  | nil => rfl
  | cons c rest ih =>
    simp only [List.all_cons, Bool.and_eq_true] at h
    simp [h.1, ih h.2]

theorem trimChars_of_blank (chars : List Char) (h : chars.all isBlank = true) :
    trimChars chars = [] := by
  simp [trimChars, dropWhile_blank chars h]

end Text

end TelemetryRelay
