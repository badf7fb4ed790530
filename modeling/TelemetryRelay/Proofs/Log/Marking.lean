import Mathlib.Algebra.GroupWithZero.Nat
import TelemetryRelay.Ingest.Delivery
import TelemetryRelay.Log.Notice

/-! # Which lines are marked

    The mark and the level of an event are written once, in front of it. Who reads the log
    stream sees lines, though, and an event is as many lines as there are breaks in it. This
    module says where these come from and which lines carry the mark:

    - a break in an event is one in a text that is written as it is: the message, a name, or
      a value that is shown without quotation marks,
    - the lead stands in front of the first line, and the later lines are those of the event
      without its lead,
    - hence an event without such a break is one marked line, and any other event is marked
      throughout only if its texts bring the lead with them.
-/

namespace TelemetryRelay

namespace Log

/-! ## Section 1: Lines -/

/-- The line breaks of a text. -/
def breaks (text : String) : Nat := text.toList.count '\n'

/-- The lines of a text: what stands between its line breaks. -/
def linesOf (text : String) : List (List Char) := text.toList.splitOn '\n'

@[simp] theorem breaks_append (text text' : String) :
    breaks (text ++ text') = breaks text + breaks text' := by
  unfold breaks
  rw [String.toList_append, List.count_append]

/-- There is one line more than there are breaks. -/
theorem length_linesOf (text : String) : (linesOf text).length = breaks text + 1 := by
  unfold linesOf breaks
  induction text.toList with
  | nil => rfl
  | cons c rest ih =>
    rw [List.splitOn_cons_eq_if_modifyHead, List.count_cons]
    by_cases hbreak : (c == '\n') = true
    · rw [if_pos hbreak, if_pos hbreak, List.length_cons, ih]
    · rw [if_neg hbreak, if_neg hbreak, List.length_modifyHead, ih]

/-- What has no break is put in front of the first line. -/
theorem splitOn_append {lead : List Char} (h : '\n' ∉ lead) (rest : List Char) :
    (lead ++ rest).splitOn '\n' = (rest.splitOn '\n').modifyHead (lead ++ ·) := by
  induction lead with
  | nil => cases hlines : rest.splitOn '\n' <;> simp [hlines]
  | cons c lead ih =>
    rw [List.mem_cons, not_or] at h
    have hother : (c == '\n') = false := beq_false_of_ne (Ne.symm h.1)
    rw [List.cons_append, List.splitOn_cons_eq_if_modifyHead, hother, if_neg Bool.false_ne_true,
      ih h.2, List.modifyHead_modifyHead]
    rfl

/-! ## Section 2: Where breaks come from -/

/-- The value of a field where it is written as it is. -/
def FieldValue.raw : FieldValue → String
  | .shown s => s
  | _ => ""

/-- The texts of a field that are written as they are. -/
def rawField (field : LogField) : List String := [field.1, field.2.raw]

/-- The texts of a span that are written as they are. -/
def Span.raw (span : Span) : List String := span.name :: span.fields.flatMap rawField

/-- The texts of an event that are written as they are. -/
def Event.raw (event : Event) : List String :=
  event.spans.flatMap Span.raw ++ event.message.toList ++ event.fields.flatMap rawField

/-- The breaks of some texts. -/
def breaksOf (texts : List String) : Nat := (texts.map breaks).sum

@[simp] theorem breaksOf_append (texts texts' : List String) :
    breaksOf (texts ++ texts') = breaksOf texts + breaksOf texts' := by
  unfold breaksOf
  rw [List.map_append, List.sum_append]

/-- Breaks of texts that are made of parts are those of the parts. -/
theorem breaksOf_flatMap {α : Type} {write : α → String} {parts : α → List String}
    (h : ∀ x, breaks (write x) = breaksOf (parts x)) :
    ∀ xs : List α, breaksOf (xs.map write) = breaksOf (xs.flatMap parts)
  | [] => rfl
  | x :: xs => by
    rw [List.flatMap_cons, breaksOf_append, ← h x, ← breaksOf_flatMap h xs]
    rfl

theorem breaks_join (texts : List String) : breaks (String.join texts) = breaksOf texts := by
  induction texts with
  | nil => rfl
  | cons text rest ih =>
    rw [String.join_cons, breaks_append, ih]
    rfl

/-- A separator without breaks adds none. -/
theorem breaks_intercalate {separator : String} (h : breaks separator = 0) :
    ∀ texts : List String, breaks (separator.intercalate texts) = breaksOf texts
  | [] => by simp [breaks, breaksOf]
  | [text] => by simp [breaks, breaksOf]
  | text :: text' :: rest => by
    have ih := breaks_intercalate h (text' :: rest)
    unfold breaks at *
    rw [String.toList_intercalate] at ih ⊢
    rw [List.map_cons, List.map_cons, List.intercalate_cons_cons, List.count_append,
      List.count_append, h, ← List.map_cons, ih]
    rfl

/-- A numeral has no breaks. -/
theorem not_mem_numeral (base : Nat) :
    ∀ (fuel n : Nat) (tail : List Char), '\n' ∉ tail → '\n' ∉ Bytes.numeral base fuel n tail
  | 0, _, _, h => h
  | fuel + 1, n, tail, h => by
    have hhead : '\n' ∉ Nat.digitChar (n % base) :: tail := by
      rw [List.mem_cons, not_or]
      exact ⟨(Nat.digitChar_ne '\n' rfl).symm, h⟩
    rw [Bytes.numeral]
    by_cases hlast : n < base
    · rw [if_pos hlast]
      exact hhead
    · rw [if_neg hlast]
      exact not_mem_numeral base fuel (n / base) _ hhead

theorem not_mem_hexText (n : Nat) : '\n' ∉ (Bytes.hexText n).toList := by
  rw [Bytes.hexText, String.toList_ofList]
  exact not_mem_numeral 16 (n + 1) n [] List.not_mem_nil

theorem not_mem_ite {p : Prop} [Decidable p] {written written' : List Char}
    (h : '\n' ∉ written) (h' : '\n' ∉ written') : '\n' ∉ if p then written else written' := by
  split
  · exact h
  · exact h'

/-- A character that is written as an escape of its number has no breaks. -/
theorem not_mem_escape (n : Nat) :
    '\n' ∉ ['\\', 'u', Char.ofNat 0x7B] ++ (Bytes.hexText n).toList ++ [Char.ofNat 0x7D] := by
  rw [List.mem_append, List.mem_append, not_or, not_or]
  exact ⟨⟨by decide, not_mem_hexText n⟩, by decide⟩

/-- Quotation marks keep breaks out: they are written as escapes. -/
theorem breaks_quoted (text : String) : breaks (Text.quoted text) = 0 := by
  have hchar (c : Char) : '\n' ∉ Text.quoteChar c := by
    by_cases hbreak : c = '\n'
    · rw [hbreak]
      decide
    · have hself : '\n' ∉ [c] := by
        rw [List.mem_singleton]
        exact Ne.symm hbreak
      unfold Text.quoteChar
      refine not_mem_ite (by decide) (not_mem_ite (by decide) (not_mem_ite (by decide) ?_))
      refine not_mem_ite (by decide) (not_mem_ite (by decide) (not_mem_ite (by decide) ?_))
      exact not_mem_ite (not_mem_escape _) hself
  unfold breaks Text.quoted
  rw [String.toList_ofList, List.count_eq_zero, List.mem_cons, List.mem_append, List.mem_flatMap]
  rintro (hmark | ⟨c, _, hmem⟩ | hmark)
  · exact absurd hmark (by decide)
  · exact hchar c hmem
  · exact absurd hmark (by decide)

theorem breaks_integer (i : Int) : breaks (toString i) = 0 := by
  have hnat (n : Nat) : '\n' ∉ n.repr.toList := by
    intro hmem
    rw [Nat.toList_repr] at hmem
    have hdigit := Nat.isDigit_of_mem_toDigits (by decide) (by decide) hmem
    exact absurd hdigit (by decide)
  unfold breaks
  rw [Int.toString_eq_repr, Int.repr_eq_if, List.count_eq_zero]
  split
  · exact hnat _
  · rw [String.toList_append, List.mem_append]
    rintro (hsign | hdigits)
    · exact absurd hsign (by decide)
    · exact hnat _ hdigits

/-- A message keeps its breaks: what would steer a terminal is shown by its number, but a
    break is not taken for that. -/
theorem breaks_messageText (message : String) : breaks (messageText message) = breaks message := by
  have hchar (c : Char) : (messageChar c).count '\n' = [c].count '\n' := by
    by_cases hbreak : c = '\n'
    · rw [hbreak]
      decide
    · have hself : '\n' ∉ [c] := by
        rw [List.mem_singleton]
        exact Ne.symm hbreak
      have hdigit (n : Nat) : '\n' ≠ Nat.digitChar n := (Nat.digitChar_ne '\n' rfl).symm
      rw [List.count_eq_zero.mpr hself, List.count_eq_zero, messageChar]
      refine not_mem_ite ?_ (not_mem_ite (not_mem_escape _) hself)
      simp [hdigit]
  unfold breaks messageText
  rw [String.toList_ofList]
  induction message.toList with
  | nil => rfl
  | cons c rest ih =>
    rw [List.flatMap_cons, List.count_append, ih, hchar, ← List.count_append]
    rfl

theorem breaks_display (value : FieldValue) : breaks value.display = breaks value.raw := by
  cases value with
  | integer i => exact breaks_integer i
  | flag b => cases b <;> decide
  | text s => exact breaks_quoted s
  | shown s => rfl

theorem breaks_fieldText (field : LogField) :
    breaks (fieldText field) = breaksOf (rawField field) := by
  have hequals : breaks "=" = 0 := by decide
  simp only [fieldText, breaks_append, breaks_display, hequals]
  simp [breaksOf, rawField]

theorem breaks_fields (fields : List LogField) :
    breaks (" ".intercalate (fields.map fieldText)) = breaksOf (fields.flatMap rawField) := by
  rw [breaks_intercalate (by decide), breaksOf_flatMap breaks_fieldText]

theorem breaks_lead (span : Span) : breaks span.lead = breaksOf span.raw := by
  have hopen : breaks "\x7b" = 0 := by decide
  have hclose : breaks "\x7d" = 0 := by decide
  have hend : breaks ": " = 0 := by decide
  have hraw : breaksOf span.raw = breaks span.name + breaksOf (span.fields.flatMap rawField) := rfl
  rw [hraw, Span.lead]
  cases span.fields with
  | nil =>
    rw [List.isEmpty_nil, if_pos rfl, breaks_append, breaks_append, hend]
    rfl
  | cons field rest =>
    rw [List.isEmpty_cons, if_neg Bool.false_ne_true, breaks_append, breaks_append,
      breaks_append, breaks_append, breaks_fields, hopen, hclose, hend]
    omega

/-! ## Section 3: Marks -/

/-- An event without its lead. -/
def Event.unmarked (event : Event) : String :=
  String.join (event.spans.map Span.lead) ++ event.body

/-- An event all of whose lines start with the lead of its level. -/
def Event.IsMarked (event : Event) : Prop :=
  ∀ line ∈ linesOf event.text, (lineLead event.level).toList <+: line

instance (event : Event) : Decidable event.IsMarked :=
  inferInstanceAs (Decidable (∀ line ∈ linesOf event.text, _ <+: line))

/-- The lead of a level is on one line. -/
theorem breaks_lineLead (level : Level) : breaks (lineLead level) = 0 := by
  cases level <;> decide

theorem text_eq_append (event : Event) : event.text = lineLead event.level ++ event.unmarked := by
  unfold Event.text Event.unmarked
  exact String.append_assoc

/-- The breaks of an event are those of the texts that are written as they are. -/
theorem breaks_unmarked (event : Event) : breaks event.unmarked = breaksOf event.raw := by
  have hmessage : breaksOf (event.message.map messageText).toList
      = breaksOf event.message.toList := by
    cases event.message with
    | none => rfl
    | some message => simp [breaksOf, breaks_messageText]
  unfold Event.unmarked Event.body Event.raw
  rw [breaks_append, breaks_join, breaksOf_flatMap breaks_lead, breaks_intercalate (by decide),
    breaksOf_append, breaksOf_append, breaksOf_append, hmessage,
    breaksOf_flatMap breaks_fieldText, Nat.add_assoc]

/-- **Marked once**: the lead of an event stands in front of its first line, and the later
    lines are written as they are, so that all lines are marked exactly if those bring the
    lead with them. There are as many later lines as there are breaks in the message, the
    names and the values shown without quotation marks. Without any, the event is one line,
    and it is marked. -/
theorem lead_marks_first_line (event : Event) :
    linesOf event.text
        = (linesOf event.unmarked).modifyHead ((lineLead event.level).toList ++ ·) ∧
      (event.IsMarked ↔
        ∀ line ∈ (linesOf event.unmarked).tail, (lineLead event.level).toList <+: line) ∧
      (linesOf event.unmarked).tail.length = breaksOf event.raw ∧
      ((∀ text ∈ event.raw, '\n' ∉ text.toList) →
        linesOf event.text = [event.text.toList] ∧ event.IsMarked) := by
  have hlines : linesOf event.text
      = (linesOf event.unmarked).modifyHead ((lineLead event.level).toList ++ ·) := by
    have hlead := List.count_eq_zero.mp (breaks_lineLead event.level)
    unfold linesOf
    rw [text_eq_append, String.toList_append, splitOn_append hlead]
  have hlater : (linesOf event.unmarked).tail.length = breaksOf event.raw := by
    rw [List.length_tail, length_linesOf, breaks_unmarked, Nat.add_sub_cancel]
  have hmarked : event.IsMarked ↔
      ∀ line ∈ (linesOf event.unmarked).tail, (lineLead event.level).toList <+: line := by
    unfold Event.IsMarked
    rw [hlines]
    cases hsplit : linesOf event.unmarked with
    | nil => simp
    | cons first rest =>
      rw [List.modifyHead_cons, List.forall_mem_cons, List.tail_cons]
      exact and_iff_right (List.prefix_append _ _)
  refine ⟨hlines, hmarked, hlater, ?_⟩
  intro hunbroken
  have hnone : breaksOf event.raw = 0 := by
    unfold breaksOf
    rw [List.sum_eq_zero_iff_forall_eq_nat, List.forall_mem_map]
    intro text hmem
    exact List.count_eq_zero.mpr (hunbroken text hmem)
  have hempty : (linesOf event.unmarked).tail = [] :=
    List.eq_nil_of_length_eq_zero (hlater.trans hnone)
  constructor
  · apply List.splitOn_eq_singleton
    rw [← List.count_eq_zero]
    show breaks event.text = 0
    rw [text_eq_append, breaks_append, breaks_lineLead, breaks_unmarked, hnone]
  · rw [hmarked, hempty]
    exact List.forall_mem_nil _

/-- An answer that a failure quotes can put a line without a mark into the log stream. -/
theorem quoted_answer_is_not_marked :
    ¬ ((Notice.sendFailed .logging 0 1
      (Ingest.DeliveryError.status 500 "boom\nSTART").message).event
        ⟨"", "", fun _ => ""⟩).IsMarked := by
  decide +kernel

end Log

end TelemetryRelay
