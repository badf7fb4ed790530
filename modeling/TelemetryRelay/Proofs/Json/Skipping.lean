import Mathlib.Tactic.SplitIfs
import TelemetryRelay.Proofs.Json.Numbers
import TelemetryRelay.Proofs.Json.Strings

/-! # Passing over values

    The value of an unknown field is passed over by a loop that keeps the open brackets in
    a list. This module shows that the loop passes over whatever is JSON, and over nothing
    else. Both directions say what holds inside any brackets:

    - a value is left with the brackets that were open before it (`Derives.skipFrom`),
    - what has been passed over closes the brackets one after another (`Closes`).
-/

namespace TelemetryRelay

namespace Json

open Results (exists_of_bind bind_eq)

/-! ## Section 1: Names -/

/-- More blanks may stand in front. -/
theorem Lead.append {bracket : Bracket} {lead gap : Bytes} (h : Lead bracket lead)
    (hgap : IsBlank gap) : Lead bracket (gap ++ lead) := by
  cases h with
  | list _ hlead => exact .list _ (hgap.append hlead)
  | object before body between after hbefore hbody hbetween hafter =>
    rw [← List.append_assoc]
    exact .object (gap ++ before) body between after (hgap.append hbefore) hbody hbetween hafter

/-- What comes before a value is passed over, up to blanks. -/
theorem Lead.skipName {bracket : Bracket} {lead : Bytes} (h : Lead bracket lead)
    (rest : Bytes) : ∃ gap, IsBlank gap ∧
      Json.skipName bracket (lead ++ rest) = .ok (gap ++ rest) := by
  cases h with
  | list _ hgap => exact ⟨lead, hgap, rfl⟩
  | object before body between after hbefore hbody hbetween hafter =>
    refine ⟨after, hafter, ?_⟩
    have hstring : skipString (body ++ 34 :: (between ++ 58 :: (after ++ rest)))
        = .ok (between ++ 58 :: (after ++ rest)) := skipString_eq_ok_iff.mpr ⟨body, hbody, rfl⟩
    simp only [List.append_assoc, List.cons_append]
    rw [Json.skipName]
    simp only
    rw [skipSpace_append_cons hbefore (by decide)]
    simp only [beq_self_eq_true, if_true]
    rw [bind_eq hstring, bind_eq (colon_append hbetween _)]

/-- What is passed over in front of blanks and a value comes before this value. -/
theorem exists_of_skipName {bracket : Bracket} {octets gap rest : Bytes}
    (h : skipName bracket octets = .ok (gap ++ rest)) (hgap : IsBlank gap) :
    ∃ lead, Lead bracket lead ∧ octets = lead ++ rest := by
  cases bracket with
  | list => exact ⟨gap, .list gap hgap, Except.ok.inj h⟩
  | object =>
    unfold skipName at h
    simp only at h
    split at h
    · cases h
    · next b more hskip =>
      split_ifs at h with hb
      obtain ⟨before, hbefore, rfl⟩ := exists_gap_of_skipSpace hskip
      obtain ⟨named, hstring, h⟩ := exists_of_bind h
      obtain ⟨⟨u, rest'⟩, hcolon, h⟩ := exists_of_bind h
      have hrest : rest' = gap ++ rest := Except.ok.inj h
      obtain ⟨body, hbody, rfl⟩ := skipString_eq_ok_iff.mp hstring
      obtain ⟨between, hbetween, rfl⟩ := exists_of_colon hcolon
      refine ⟨_, .object before body between gap hbefore hbody hbetween hgap, ?_⟩
      rw [beq_iff_eq.mp hb, hrest]
      simp

/-! ## Section 2: Rounds of the loop -/

/-- How the loop goes on from open brackets and the octets of the next value. -/
def proceed (fuel : Bytes) : Except Fault (List Bracket × Bytes) → Except Fault Bytes
  | .error fault => .error fault
  | .ok ([], rest) => .ok rest
  | .ok (outer, rest) => skipFrom fuel outer rest

theorem skipFrom_cons (b : UInt8) (fuel : Bytes) (outer : List Bracket) (octets : Bytes) :
    skipFrom (b :: fuel) outer octets = proceed fuel (skipStart outer octets) := by
  rw [skipFrom]
  cases skipStart outer octets with
  | error fault => rfl
  | ok state => rcases state with ⟨_ | ⟨bracket, outer⟩, rest⟩ <;> rfl

/-- Where a bracket closes, what is around it goes on. -/
theorem afterValue_closer {bracket : Bracket} {gap : Bytes} (h : IsBlank gap)
    (outer : List Bracket) (rest : Bytes) :
    afterValue (bracket :: outer) (gap ++ bracket.closer :: rest) = afterValue outer rest := by
  rw [afterValue, skipSpace_append_cons h (by cases bracket <;> rfl)]
  cases bracket <;> rfl

/-- After a comma comes one more value. -/
theorem afterValue_comma {bracket : Bracket} {gap rest more : Bytes} (h : IsBlank gap)
    (hname : skipName bracket rest = .ok more) (outer : List Bracket) :
    afterValue (bracket :: outer) (gap ++ 44 :: rest) = .ok (bracket :: outer, more) := by
  rw [afterValue, skipSpace_append_cons h (by decide)]
  simp only [beq_self_eq_true, if_true]
  rw [bind_eq hname]

theorem afterOpening_closer {bracket : Bracket} {gap : Bytes} (h : IsBlank gap)
    (outer : List Bracket) (rest : Bytes) :
    afterOpening bracket outer (gap ++ bracket.closer :: rest) = afterValue outer rest := by
  rw [afterOpening, skipSpace_append_cons h (by cases bracket <;> rfl)]
  simp only [beq_self_eq_true, if_true]

/-- After an opening bracket comes its first value. -/
theorem afterOpening_lead {bracket : Bracket} {lead text : Bytes} (h : Lead bracket lead)
    (htext : IsValue text) (outer : List Bracket) (rest : Bytes) :
    ∃ gap, IsBlank gap ∧ afterOpening bracket outer (lead ++ (text ++ rest))
      = .ok (bracket :: outer, gap ++ (text ++ rest)) := by
  cases h with
  | list _ hgap =>
    obtain ⟨b, more, rfl, hspace, -, hcloser⟩ := htext.exists_cons
    refine ⟨[], isBlank_nil, ?_⟩
    rw [afterOpening, List.cons_append, skipSpace_append_cons hgap hspace]
    simp only [beq_iff_eq, hcloser .list, if_false]
    rfl
  | object before body between after hbefore hbody hbetween hafter =>
    obtain ⟨gap, hgap, hname⟩ := (Lead.object before body between after hbefore hbody hbetween
      hafter).skipName (text ++ rest)
    refine ⟨gap, hgap, ?_⟩
    -- the blanks in front are skipped twice
    rw [Json.skipName] at hname
    simp only [List.append_assoc, List.cons_append] at hname ⊢
    rw [afterOpening, skipSpace_append_cons hbefore (by decide)]
    simp only [show ((34 : UInt8) == Bracket.object.closer) = false from rfl,
      Bool.false_eq_true, if_false]
    rw [Json.skipName, skipSpace_cons (by decide)]
    rw [skipSpace_append_cons hbefore (by decide)] at hname
    rw [bind_eq hname]

/-! ## Section 3: What is JSON is passed over -/

section Complete

variable {gap rest : Bytes} (hgap : IsBlank gap) (outer : List Bracket)
include hgap

/-- A word is passed over after its first letter. -/
theorem skipStart_word {b : UInt8} {word : Bytes}
    (h : (b, word) ∈ ([(110, [117, 108, 108]), (116, [114, 117, 101]),
      (102, [97, 108, 115, 101])] : List (UInt8 × Bytes))) :
    skipStart outer (gap ++ (b :: word ++ rest)) = afterValue outer rest := by
  rw [skipStart, List.cons_append]
  simp only [List.mem_cons, Prod.mk.injEq, List.not_mem_nil, or_false] at h
  rcases h with ⟨rfl, rfl⟩ | ⟨rfl, rfl⟩ | ⟨rfl, rfl⟩
  all_goals rw [skipSpace_append_cons hgap (by decide)]; rfl

theorem skipStart_positive {text : Bytes} (h : IsUnsigned text) (hrest : Delimited rest) :
    skipStart outer (gap ++ (text ++ rest)) = afterValue outer rest := by
  have hskip := skipNumber_append h hrest
  obtain ⟨b, more, rfl, hb⟩ := h.exists_cons
  have hne : ∀ c, Bytes.isDigit c = false → (b == c) = false := fun c hc =>
    beq_eq_false_iff_ne.mpr (ne_of_isDigit hb hc)
  rw [List.cons_append] at hskip ⊢
  rw [skipStart, skipSpace_append_cons hgap (begins_of_isDigit hb).1]
  simp only [hne 110 (by decide), hne 116 (by decide), hne 102 (by decide), hne 45 (by decide),
    hb, Bool.false_eq_true, if_false, if_true]
  rw [bind_eq hskip]

theorem skipStart_negative {text : Bytes} (h : IsUnsigned text) (hrest : Delimited rest) :
    skipStart outer (gap ++ (45 :: text ++ rest)) = afterValue outer rest := by
  rw [skipStart, List.cons_append, skipSpace_append_cons hgap (by decide)]
  exact bind_eq (skipNumber_append h hrest) _

theorem skipStart_string {body : Bytes} (h : IsBody body) :
    skipStart outer (gap ++ (34 :: (body ++ [34]) ++ rest)) = afterValue outer rest := by
  have hskip : skipString (body ++ 34 :: rest) = .ok rest :=
    skipString_eq_ok_iff.mpr ⟨body, h, rfl⟩
  simp only [List.cons_append, List.append_assoc, List.nil_append]
  rw [skipStart, skipSpace_append_cons hgap (by decide)]
  exact bind_eq hskip _

theorem skipStart_opener (bracket : Bracket) :
    skipStart outer (gap ++ bracket.opener :: rest) = afterOpening bracket outer rest := by
  rw [skipStart, skipSpace_append_cons hgap (by cases bracket <;> decide)]
  cases bracket <;> rfl

end Complete

/-- What follows a value inside a bracket is no part of this value. -/
theorem Derives.delimited {bracket : Bracket} {tail : Bytes} (h : Derives (.tail bracket) tail)
    (rest : Bytes) : Delimited (tail ++ bracket.closer :: rest) := by
  cases h with
  | last _ _ hgap => exact delimited_of_token hgap (by cases bracket <;> decide) rest
  | next _ gap lead text tail hgap =>
    rw [List.append_assoc]
    exact delimited_of_token hgap (by decide) _

/-- What the loop does with a part of a text, in `rounds` rounds. -/
def PassesOver (rounds : Nat) : Part → Bytes → Prop
  | .value, text => ∀ fuel outer gap rest, rounds ≤ fuel.length → IsBlank gap →
      Delimited rest → skipFrom fuel outer (gap ++ (text ++ rest))
        = proceed (fuel.drop rounds) (afterValue outer rest)
  | .tail bracket, tail => ∀ fuel outer rest, rounds ≤ fuel.length →
      proceed fuel (afterValue (bracket :: outer) (tail ++ bracket.closer :: rest))
        = proceed (fuel.drop rounds) (afterValue outer rest)

/-- A value that opens no bracket takes one round. -/
theorem passesOver_of_skipStart {text : Bytes}
    (h : ∀ gap rest outer, IsBlank gap → Delimited rest →
      skipStart outer (gap ++ (text ++ rest)) = afterValue outer rest) :
    PassesOver 1 .value text := by
  intro fuel outer gap rest hfuel hgap hrest
  obtain ⟨b, fuel, rfl⟩ := List.exists_cons_of_length_pos hfuel
  rw [skipFrom_cons, h gap rest outer hgap hrest]
  rfl

/-- **Passing over a value** leaves the brackets that were open before it. There are no more
    rounds than octets. -/
theorem Derives.passesOver {part : Part} {text : Bytes} (h : Derives part text) :
    ∃ rounds, rounds ≤ text.length ∧ PassesOver rounds part text := by
  -- a part takes the rounds of the values in it, one for each that begins
  induction h with
  | null =>
    exact ⟨1, by decide, passesOver_of_skipStart fun gap rest outer hgap _ =>
      skipStart_word hgap outer (by decide)⟩
  | true =>
    exact ⟨1, by decide, passesOver_of_skipStart fun gap rest outer hgap _ =>
      skipStart_word hgap outer (by decide)⟩
  | false =>
    exact ⟨1, by decide, passesOver_of_skipStart fun gap rest outer hgap _ =>
      skipStart_word hgap outer (by decide)⟩
  | positive text hnumber =>
    refine ⟨1, ?_, passesOver_of_skipStart fun gap rest outer hgap hrest =>
      skipStart_positive hgap outer hnumber hrest⟩
    obtain ⟨b, more, rfl, -⟩ := hnumber.exists_cons
    exact Nat.succ_le_succ (Nat.zero_le _)
  | negative text hnumber =>
    exact ⟨1, Nat.succ_le_succ (Nat.zero_le _),
      passesOver_of_skipStart fun gap rest outer hgap hrest =>
        skipStart_negative hgap outer hnumber hrest⟩
  | string body hbody =>
    exact ⟨1, Nat.succ_le_succ (Nat.zero_le _),
      passesOver_of_skipStart fun gap rest outer hgap _ => skipStart_string hgap outer hbody⟩
  | empty bracket gap hgap =>
    refine ⟨1, Nat.succ_le_succ (Nat.zero_le _),
      passesOver_of_skipStart fun front rest outer hfront _ => ?_⟩
    rw [List.cons_append, List.append_assoc, skipStart_opener hfront outer bracket]
    exact afterOpening_closer hgap outer rest
  | bracket bracket lead text tail hlead htext htail ihtext ihtail =>
    obtain ⟨k, hk, hpass⟩ := ihtext
    obtain ⟨l, hl, hrest⟩ := ihtail
    refine ⟨k + l + 1, by simp; omega, ?_⟩
    intro fuel outer front rest hfuel hfront _
    obtain ⟨b, fuel, rfl⟩ := List.exists_cons_of_length_pos (by omega : 0 < fuel.length)
    rw [List.length_cons] at hfuel
    obtain ⟨gap, hgap, hopen⟩ :=
      afterOpening_lead hlead htext outer (tail ++ bracket.closer :: rest)
    simp only [List.cons_append, List.append_assoc, List.nil_append]
    rw [skipFrom_cons, skipStart_opener hfront outer bracket, hopen]
    show skipFrom fuel (bracket :: outer) _ = _
    rw [hpass fuel _ gap _ (by omega) hgap (htail.delimited rest), hrest _ _ _ (by simp; omega),
      List.drop_drop, List.drop_succ_cons]
  | last bracket gap hgap =>
    refine ⟨0, Nat.zero_le _, ?_⟩
    intro fuel outer rest _
    rw [afterValue_closer hgap]
    rfl
  | next bracket gap lead text tail hgap hlead htext htail ihtext ihtail =>
    obtain ⟨k, hk, hpass⟩ := ihtext
    obtain ⟨l, hl, hrest⟩ := ihtail
    refine ⟨k + l, by simp; omega, ?_⟩
    intro fuel outer rest hfuel
    simp only [List.cons_append, List.append_assoc]
    obtain ⟨front, hfront, hname⟩ :=
      hlead.skipName (text ++ (tail ++ bracket.closer :: rest))
    rw [afterValue_comma hgap hname]
    show skipFrom fuel (bracket :: outer) _ = _
    rw [hpass fuel _ front _ (by omega) hfront (htail.delimited rest),
      hrest _ _ _ (by simp; omega), List.drop_drop]

/-- Whatever is JSON is passed over, up to where it ends. -/
theorem skipValue_append {gap text rest : Bytes} (hgap : IsBlank gap) (h : IsValue text)
    (hrest : Delimited rest) : skipValue (gap ++ (text ++ rest)) = .ok rest := by
  obtain ⟨rounds, hrounds, hpass⟩ := h.passesOver
  rw [skipValue, hpass _ _ gap rest (by simp; omega) hgap hrest]
  rfl

/-! ## Section 4: What is passed over is JSON -/

/-- **Closing**: octets that close open brackets one after another, with what follows the
    outermost one. -/
inductive Closes : List Bracket → Bytes → Bytes → Prop
  | nil (rest : Bytes) : Closes [] rest rest
  | cons (bracket : Bracket) (tail : Bytes) (outer : List Bracket) (octets rest : Bytes) :
      Derives (.tail bracket) tail → Closes outer octets rest →
      Closes (bracket :: outer) (tail ++ bracket.closer :: octets) rest

/-- A value inside open brackets, with what follows the outermost one. -/
def Continues (outer : List Bracket) (octets rest : Bytes) : Prop :=
  ∃ gap text more, IsBlank gap ∧ IsValue text ∧ Closes outer more rest ∧
    octets = gap ++ (text ++ more)

/-- The loop goes on only from what has been read. -/
theorem exists_of_proceed_bind {α : Type} {fuel rest : Bytes} {first : Except Fault α}
    {next : α → Except Fault (List Bracket × Bytes)}
    (h : proceed fuel (first >>= next) = .ok rest) :
    ∃ a, first = .ok a ∧ proceed fuel (next a) = .ok rest := by
  cases first with
  | error fault => cases h
  | ok a => exact ⟨a, rfl, h⟩

section Sound

/- The rounds that are left pass over values only. -/
variable {fuel rest : Bytes}
  (ih : ∀ outer octets, skipFrom fuel outer octets = .ok rest → Continues outer octets rest)
include ih

/-- What goes on after a value closes the brackets around it. -/
theorem closes_of_afterValue (outer : List Bracket) : ∀ octets,
    proceed fuel (afterValue outer octets) = .ok rest → Closes outer octets rest := by
  induction outer with
  | nil =>
    intro octets h
    rw [afterValue] at h
    exact Except.ok.inj h ▸ .nil octets
  | cons bracket outer ihouter =>
    intro octets h
    rw [afterValue] at h
    split at h
    · cases h
    · next b more hskip =>
      obtain ⟨gap, hgap, rfl⟩ := exists_gap_of_skipSpace hskip
      split_ifs at h with hcomma hcloser
      · obtain ⟨named, hname, h⟩ := exists_of_proceed_bind h
        obtain ⟨front, text, after, hfront, htext, hcloses, rfl⟩ := ih _ _ h
        obtain ⟨lead, hlead, rfl⟩ := exists_of_skipName hname hfront
        cases hcloses with
        | cons _ tail _ octets _ htail hcloses =>
          have htail := Derives.next bracket gap lead text tail hgap hlead htext htail
          have := Closes.cons bracket _ outer octets rest htail hcloses
          simpa [beq_iff_eq.mp hcomma] using this
      · rw [beq_iff_eq.mp hcloser]
        exact .cons bracket gap outer more rest (.last bracket gap hgap) (ihouter more h)
      · cases h

/-- What goes on after an opening bracket completes its value. -/
theorem continues_of_afterOpening {bracket : Bracket} {outer : List Bracket} {octets : Bytes}
    (h : proceed fuel (afterOpening bracket outer octets) = .ok rest) :
    ∃ inner more, IsValue (bracket.opener :: inner) ∧ Closes outer more rest ∧
      octets = inner ++ more := by
  rw [afterOpening] at h
  split at h
  · cases h
  · next b after hskip =>
    obtain ⟨gap, hgap, rfl⟩ := exists_gap_of_skipSpace hskip
    split_ifs at h with hcloser
    · refine ⟨gap ++ [bracket.closer], after, .empty bracket gap hgap,
        closes_of_afterValue ih outer after h, ?_⟩
      rw [beq_iff_eq.mp hcloser]
      simp
    · obtain ⟨named, hname, h⟩ := exists_of_proceed_bind h
      obtain ⟨front, text, more, hfront, htext, hcloses, rfl⟩ := ih _ _ h
      obtain ⟨lead, hlead, hlead'⟩ := exists_of_skipName hname hfront
      cases hcloses with
      | cons _ tail _ octets _ htail hcloses =>
        have hwhole : Lead bracket (gap ++ lead) := hlead.append hgap
        refine ⟨_, octets, .bracket bracket (gap ++ lead) text tail hwhole htext htail,
          hcloses, ?_⟩
        rw [hlead']
        simp

/-- A value that opens no bracket is passed over in its round. -/
theorem continues_of_token {α : Type} {outer : List Bracket} {gap octets : Bytes}
    {first : Except Fault α} {after : α → Bytes} (hgap : IsBlank gap)
    (h : proceed fuel (first >>= fun a => afterValue outer (after a)) = .ok rest)
    (hfirst : ∀ a, first = .ok a → ∃ text, IsValue text ∧ octets = text ++ after a) :
    Continues outer (gap ++ octets) rest := by
  obtain ⟨a, ha, hnext⟩ := exists_of_proceed_bind h
  obtain ⟨text, htext, rfl⟩ := hfirst a ha
  exact ⟨gap, text, after a, hgap, htext, closes_of_afterValue ih _ _ hnext, rfl⟩

/-- What a round passes over is a value, or the beginning of one. -/
theorem continues_of_skipStart {outer : List Bracket} {octets : Bytes}
    (h : proceed fuel (skipStart outer octets) = .ok rest) : Continues outer octets rest := by
  rw [skipStart] at h
  split at h
  · cases h
  · next b after hskip =>
    obtain ⟨gap, hgap, rfl⟩ := exists_gap_of_skipSpace hskip
    by_cases hnull : b == 110
    · rw [if_pos hnull] at h
      refine continues_of_token ih hgap h fun _ hword => ⟨_, .null, ?_⟩
      rw [beq_iff_eq.mp hnull, eq_of_ident hword]
      rfl
    rw [if_neg hnull] at h
    by_cases htrue : b == 116
    · rw [if_pos htrue] at h
      refine continues_of_token ih hgap h fun _ hword => ⟨_, .true, ?_⟩
      rw [beq_iff_eq.mp htrue, eq_of_ident hword]
      rfl
    rw [if_neg htrue] at h
    by_cases hfalse : b == 102
    · rw [if_pos hfalse] at h
      refine continues_of_token ih hgap h fun _ hword => ⟨_, .false, ?_⟩
      rw [beq_iff_eq.mp hfalse, eq_of_ident hword]
      rfl
    rw [if_neg hfalse] at h
    by_cases hminus : b == 45
    · rw [if_pos hminus] at h
      refine continues_of_token ih hgap h fun more hnumber => ?_
      obtain ⟨text, htext, rfl⟩ := exists_of_skipNumber hnumber
      exact ⟨_, .negative text htext, by rw [beq_iff_eq.mp hminus, List.cons_append]⟩
    rw [if_neg hminus] at h
    by_cases hdigit : Bytes.isDigit b
    · rw [if_pos hdigit] at h
      refine continues_of_token ih hgap h fun more hnumber => ?_
      obtain ⟨text, htext, hoctets⟩ := exists_of_skipNumber hnumber
      exact ⟨text, .positive text htext, hoctets⟩
    rw [if_neg hdigit] at h
    by_cases hquote : b == 34
    · rw [if_pos hquote] at h
      refine continues_of_token ih hgap h fun more hstring => ?_
      obtain ⟨body, hbody, rfl⟩ := skipString_eq_ok_iff.mp hstring
      exact ⟨_, .string body hbody, by rw [beq_iff_eq.mp hquote]; simp⟩
    rw [if_neg hquote] at h
    by_cases hlist : b == 91
    · rw [if_pos hlist] at h
      obtain ⟨inner, more, hvalue, hcloses, rfl⟩ := continues_of_afterOpening ih h
      refine ⟨gap, _, more, hgap, hvalue, hcloses, ?_⟩
      rw [beq_iff_eq.mp hlist]
      rfl
    rw [if_neg hlist] at h
    by_cases hobject : b == 123
    · rw [if_pos hobject] at h
      obtain ⟨inner, more, hvalue, hcloses, rfl⟩ := continues_of_afterOpening ih h
      refine ⟨gap, _, more, hgap, hvalue, hcloses, ?_⟩
      rw [beq_iff_eq.mp hobject]
      rfl
    rw [if_neg hobject] at h
    cases h

end Sound

theorem continues_of_skipFrom {rest : Bytes} (fuel : Bytes) : ∀ outer octets,
    skipFrom fuel outer octets = .ok rest → Continues outer octets rest := by
  induction fuel with
  | nil =>
    intro outer octets h
    cases h
  | cons b fuel ih =>
    intro outer octets h
    rw [skipFrom_cons] at h
    exact continues_of_skipStart ih h

/-- Nothing is passed over but JSON. -/
theorem exists_of_skipValue {octets rest : Bytes} (h : skipValue octets = .ok rest) :
    ∃ gap text, IsBlank gap ∧ IsValue text ∧ octets = gap ++ (text ++ rest) := by
  obtain ⟨gap, text, more, hgap, htext, hcloses, rfl⟩ := continues_of_skipFrom _ _ _ h
  cases hcloses with
  | nil => exact ⟨gap, text, hgap, htext, rfl⟩

end Json

end TelemetryRelay
