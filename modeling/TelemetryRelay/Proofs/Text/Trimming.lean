import Mathlib.Data.List.TakeWhile
import TelemetryRelay.Text.Blank

/-! # White space around texts

    Trimming takes the white space from both ends of a text. This module says that nothing
    else matters for what is left: white space that is put around a text is trimmed away
    with the rest of it, and what has been trimmed is not trimmed further.
-/

namespace TelemetryRelay

namespace Text

/-! ## Section 1: Characters -/

variable {chars lead trail : List Char}

theorem trimChars_append_left (hlead : ∀ c ∈ lead, isBlank c = true) :
    trimChars (lead ++ chars) = trimChars chars := by
  rw [trimChars, trimChars, List.dropWhile_append_of_pos hlead]

theorem trimChars_append_right (htrail : ∀ c ∈ trail, isBlank c = true) :
    trimChars (chars ++ trail) = trimChars chars := by
  rw [trimChars, trimChars, List.dropWhile_append]
  split
  · next hnone =>
    -- with nothing but white space before it, the end is trimmed from the front
    rw [List.isEmpty_iff.mp hnone, List.dropWhile_eq_nil_iff.mpr htrail]
  · have hreverse : ∀ c ∈ trail.reverse, isBlank c = true := by
      intro c hmem
      exact htrail c (List.mem_reverse.mp hmem)
    rw [List.reverse_append, List.dropWhile_append_of_pos hreverse]

/-- What trimming takes away is white space at both ends. -/
theorem exists_blanks (chars : List Char) : ∃ lead trail : List Char,
    (∀ c ∈ lead, isBlank c = true) ∧ (∀ c ∈ trail, isBlank c = true) ∧
      chars = lead ++ (trimChars chars ++ trail) := by
  have hback := (List.takeWhile_append_dropWhile (p := isBlank)
    (l := (chars.dropWhile isBlank).reverse)).symm
  refine ⟨chars.takeWhile isBlank, ((chars.dropWhile isBlank).reverse.takeWhile isBlank).reverse,
    fun c hmem => List.mem_takeWhile_imp hmem, ?_, ?_⟩
  · intro c hmem
    exact List.mem_takeWhile_imp (List.mem_reverse.mp hmem)
  · rw [trimChars, ← List.reverse_append, ← hback, List.reverse_reverse,
      List.takeWhile_append_dropWhile]

theorem trimChars_trimChars (chars : List Char) :
    trimChars (trimChars chars) = trimChars chars := by
  obtain ⟨lead, trail, hlead, htrail, hchars⟩ := exists_blanks chars
  have hsame : trimChars chars = trimChars (lead ++ (trimChars chars ++ trail)) :=
    congrArg trimChars hchars
  rw [trimChars_append_left hlead, trimChars_append_right htrail] at hsame
  exact hsame.symm

/-! ## Section 2: Texts -/

variable {text front back : String}

theorem allBlank_iff : allBlank text = true ↔ ∀ c ∈ text.toList, isBlank c = true :=
  List.all_eq_true

/-- White space around a text is trimmed away. -/
theorem trim_append (hfront : allBlank front = true) (hback : allBlank back = true) :
    trim (front ++ text ++ back) = trim text := by
  unfold trim
  rw [String.toList_append, String.toList_append,
    trimChars_append_right (allBlank_iff.mp hback), trimChars_append_left (allBlank_iff.mp hfront)]

@[simp] theorem trim_trim (text : String) : trim (trim text) = trim text := by
  unfold trim
  rw [String.toList_ofList, trimChars_trimChars]

/-- Nothing is left of white space. -/
theorem trim_of_allBlank (h : allBlank text = true) : trim text = "" := by
  unfold trim
  rw [trimChars_of_blank _ h]

/-- White space around a text does not make it blank, nor keep it from being blank. -/
theorem allBlank_append (hfront : allBlank front = true) (hback : allBlank back = true) :
    allBlank (front ++ text ++ back) = allBlank text := by
  unfold allBlank at hfront hback ⊢
  rw [String.toList_append, String.toList_append, List.all_append, List.all_append, hfront, hback,
    Bool.true_and, Bool.and_true]

end Text

end TelemetryRelay
