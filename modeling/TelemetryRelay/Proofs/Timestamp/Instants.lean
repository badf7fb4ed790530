import Mathlib.Data.Nat.Digits.Defs
import Mathlib.Data.Rat.Floor
import Mathlib.Tactic.Linarith
import Mathlib.Tactic.Positivity
import Mathlib.Tactic.Ring
import TelemetryRelay.Proofs.Json.Numbers
import TelemetryRelay.Proofs.Results
import TelemetryRelay.Proofs.Text.Encoding
import TelemetryRelay.Proofs.Timestamp.Calendar

/-! # Texts of instants

    A text in the form of RFC 3339 is put together from a date, a time of day with
    any number of digits after the second, and an offset from UTC. `Moment` has these
    parts, each within its bounds, with the two or three spellings there are for the
    separator, for the sign of an offset and for UTC itself. What it stands for is an
    exact number of milliseconds, a fraction. `parse` reads every such text, and makes
    of it the whole milliseconds up to there.
-/

namespace TelemetryRelay

namespace Timestamp

/-! ## Section 1: Moments -/

/-- What stands between the date and the time of day. -/
inductive Separator where
  | upper
  | lower
  | blank
deriving DecidableEq, Repr

def Separator.text : Separator → String
  | .upper => "T"
  | .lower => "t"
  | .blank => " "

/-- The sign of an offset. There are two kinds of minus. -/
inductive Sign where
  | plus
  | minus
  | longMinus
deriving DecidableEq, Repr

def Sign.text : Sign → String
  | .plus => "+"
  | .minus => "-"
  | .longMinus => "−"

/-- An offset from UTC, of less than a day. -/
inductive Zone where
  | upperUtc
  | lowerUtc
  | offset (sign : Sign) (hours : Fin 24) (minutes : Fin 60)
deriving DecidableEq, Repr

def Zone.text : Zone → String
  | .upperUtc => "Z"
  | .lowerUtc => "z"
  | .offset sign hours minutes => sign.text ++ padded 2 hours ++ ":" ++ padded 2 minutes

/-- Whether a sign stands for an offset behind UTC. -/
def Sign.isMinus : Sign → Bool
  | .plus => false
  | .minus | .longMinus => true

/-- How many minutes an offset is ahead of UTC. -/
def Zone.minutes : Zone → Int
  | .upperUtc | .lowerUtc => 0
  | .offset sign hours minutes =>
    if sign.isMinus then -(hours.val * 60 + minutes.val) else hours.val * 60 + minutes.val

/-- The digits after the second, with their point. -/
def fractionText : List (Fin 10) → String
  | [] => ""
  | digits => "." ++ String.ofList (digits.map fun digit => digit.val.digitChar)

/-- The part of a second that digits stand for. -/
def fractionValue : List (Fin 10) → ℚ
  | [] => 0
  | digit :: digits => (digit.val + fractionValue digits) / 10

/-- A date that exists, a time of day and an offset from UTC, as they are written. -/
structure Moment where
  date : Date
  separator : Separator
  hour : Fin 24
  minute : Fin 60
  second : Fin 60
  fraction : List (Fin 10)
  zone : Zone
  date_isValid : date.isValid = true
  year_lt : date.year < 10000

namespace Moment

/-- The text of a moment. -/
def text (m : Moment) : String :=
  padded 4 m.date.year ++ "-" ++ padded 2 m.date.month ++ "-" ++ padded 2 m.date.day
    ++ m.separator.text
    ++ padded 2 m.hour ++ ":" ++ padded 2 m.minute ++ ":" ++ padded 2 m.second
    ++ fractionText m.fraction ++ m.zone.text

/-- The milliseconds from the start of 1970 in UTC to a moment, exactly. -/
def exact (m : Moment) : ℚ :=
  86400000 * m.date.days
    + 1000 * (3600 * m.hour.val + 60 * m.minute.val + m.second.val + fractionValue m.fraction)
    - 60000 * m.zone.minutes

end Moment

/-! ## Section 2: Numbers of so many digits -/

open Json (digitOctet valueFrom)
open Results (bind_eq)

theorem length_ofText_toString (n : Nat) :
    (Bytes.ofText (toString n)).length = (toString n).length := by
  have hone : ∀ c ∈ (toString n).toList, (String.utf8EncodeChar c).length = 1 := by
    intro c hmem
    rw [Nat.toString_eq_ofList_toDigits, String.toList_ofList] at hmem
    have hdigit := Nat.isDigit_of_mem_toDigits (by decide) (by decide) hmem
    have hbound : c.toNat < 128 := by
      have hlast := (Char.isDigit_iff_toNat.mp hdigit).2
      exact Nat.lt_of_le_of_lt hlast (by decide)
    rw [Utf8.utf8EncodeChar_of_lt hbound, List.length_singleton]
  rw [Bytes.ofText_eq_flatMap, List.length_flatMap, List.map_congr_left hone,
    List.map_const', List.sum_replicate_nat, Nat.mul_one, String.length_toList]

theorem valueFrom_zeros (count : Nat) : valueFrom 0 (List.replicate count 48) = 0 := by
  induction count with
  | zero => rfl
  | succ count ih => exact ih

/-- A number that fits is written with exactly so many digits, which make it. -/
theorem ofText_padded_spec {width n : Nat} (hwidth : 0 < width) (h : n < 10 ^ width) :
    (Bytes.ofText (padded width n)).length = width ∧
      (∀ b ∈ Bytes.ofText (padded width n), Bytes.isDigit b = true) ∧
      valueFrom 0 (Bytes.ofText (padded width n)) = n := by
  obtain ⟨⟨-, hdigits⟩, hvalue, -⟩ := Json.ofText_toString_spec n
  have hlength : (toString n).length ≤ width := Nat.repr_length n width hwidth h
  have hzeros : ∀ count, Bytes.ofText (String.ofList (List.replicate count '0'))
      = List.replicate count 48 := by
    intro count
    rw [Bytes.ofText_eq_flatMap, String.toList_ofList, List.flatMap_replicate]
    have hzero : String.utf8EncodeChar '0' = [48] := by decide
    rw [hzero]
    simp
  have htext : Bytes.ofText (padded width n)
      = List.replicate (width - (toString n).length) 48 ++ Bytes.ofText (toString n) := by
    unfold padded
    rw [Bytes.ofText_append, hzeros]
  rw [htext]
  -- zeros in front change neither the value nor that all are digits
  refine ⟨?_, ?_, ?_⟩
  · rw [List.length_append, List.length_replicate, length_ofText_toString]
    omega
  · intro b hmem
    rcases List.mem_append.mp hmem with hmem | hmem
    · rw [List.eq_of_mem_replicate hmem]
      decide
    · exact hdigits b hmem
  · rw [Json.valueFrom_append, valueFrom_zeros, hvalue]

theorem digits_append {octets : Bytes} (h : ∀ b ∈ octets, Bytes.isDigit b = true)
    (rest : Bytes) : ∀ n, digits octets.length n (octets ++ rest)
      = .ok (valueFrom n octets, rest) := by
  induction octets with
  | nil => intro n; rfl
  | cons b octets ih =>
    intro n
    obtain ⟨hb, hmore⟩ := List.forall_mem_cons.mp h
    rw [List.length_cons, List.cons_append, digits, if_pos hb]
    exact ih hmore _

theorem digits_padded {width n : Nat} (hwidth : 0 < width) (h : n < 10 ^ width)
    (rest : Bytes) :
    digits width 0 (Bytes.ofText (padded width n) ++ rest) = .ok (n, rest) := by
  obtain ⟨hlength, hdigits, hvalue⟩ := ofText_padded_spec hwidth h
  have hread := digits_append hdigits rest 0
  rwa [hlength, hvalue] at hread

/-- Two digits are read one by one. -/
theorem pair_padded {n : Nat} (h : n < 100) (rest : Bytes) :
    pair (Bytes.ofText (padded 2 n) ++ rest) = .ok (n / 10, n % 10, rest) := by
  obtain ⟨hlength, hdigits, hvalue⟩ := ofText_padded_spec (by decide : 0 < 2) h
  obtain ⟨a, b, htwo⟩ := List.length_eq_two.mp hlength
  rw [htwo] at hdigits hvalue ⊢
  have ha : Bytes.isDigit a = true := hdigits a List.mem_cons_self
  have hb : Bytes.isDigit b = true := hdigits b (List.mem_cons_of_mem _ List.mem_cons_self)
  have hn : Bytes.digitValue a * 10 + Bytes.digitValue b = n := by
    rw [← hvalue]
    simp [valueFrom]
  have hless : Bytes.digitValue b < 10 := by
    unfold Bytes.isDigit at hb
    unfold Bytes.digitValue
    simp only [Bool.and_eq_true, decide_eq_true_eq] at hb
    have := UInt8.le_iff_toNat_le.mp hb.2
    have h57 : (57 : UInt8).toNat = 57 := rfl
    omega
  show pair (a :: b :: rest) = _
  have hfirst : Bytes.digitValue a = n / 10 := by omega
  have hsecond : Bytes.digitValue b = n % 10 := by omega
  rw [pair, if_pos (by rw [ha, hb]; rfl), hfirst, hsecond]

theorem oneOf_cons {choices : Bytes} {b : UInt8} (h : choices.contains b = true)
    (rest : Bytes) : oneOf choices (b :: rest) = .ok rest := by
  rw [oneOf, if_pos h]

/-! ## Section 3: Fractions -/

/-- The octets of digits. -/
def fractionOctets (fraction : List (Fin 10)) : Bytes :=
  fraction.map fun digit => digitOctet digit.val

theorem ofText_digits (fraction : List (Fin 10)) :
    Bytes.ofText (String.ofList (fraction.map fun digit => digit.val.digitChar))
      = fractionOctets fraction := by
  rw [Bytes.ofText_eq_flatMap, String.toList_ofList]
  induction fraction with
  | nil => rfl
  | cons digit fraction ih =>
    rw [List.map_cons, List.flatMap_cons, ih, (Json.digitOctet_spec digit.isLt).2.2.2]
    rfl

theorem fractionValue_bounds (fraction : List (Fin 10)) :
    0 ≤ fractionValue fraction ∧ fractionValue fraction < 1 := by
  induction fraction with
  | nil => exact ⟨le_refl _, one_pos⟩
  | cons digit fraction ih =>
    obtain ⟨hlow, hhigh⟩ := ih
    have hdigit : (digit.val : ℚ) ≤ 9 := by exact_mod_cast Nat.le_of_lt_succ digit.isLt
    have hpos : (0 : ℚ) ≤ digit.val := Nat.cast_nonneg _
    rw [fractionValue]
    constructor
    · positivity
    · rw [div_lt_one (by norm_num)]
      linarith

/-- **Cutting**: the digits that count are the whole part of the fraction moved by so
    many places, whether there are fewer digits or more. -/
theorem millisOf_append {rest : Bytes} (hrest : Json.digitAhead rest = false) :
    ∀ (count n : Nat) (fraction : List (Fin 10)),
      (millisOf count n (fractionOctets fraction ++ rest) : ℤ)
        = ⌊((n : ℚ) + fractionValue fraction) * 10 ^ count⌋ := by
  intro count
  induction count generalizing rest with
  | zero =>
    intro n fraction
    obtain ⟨hlow, hhigh⟩ := fractionValue_bounds fraction
    rw [millisOf, pow_zero, mul_one]
    symm
    rw [Int.floor_eq_iff]
    push_cast
    constructor <;> linarith
  | succ count ih =>
    intro n fraction
    cases fraction with
    | nil =>
      -- Where the digits are over, a zero takes the place.
      have hzero : millisOf (count + 1) n (fractionOctets [] ++ rest)
          = millisOf count (n * 10) [] := by
        cases rest with
        | nil => rfl
        | cons b rest =>
          show millisOf (count + 1) n (b :: rest) = _
          rw [millisOf, if_neg (by rw [show Bytes.isDigit b = false from hrest]; decide)]
      have hnext := @ih [] rfl (n * 10) []
      rw [show fractionOctets [] ++ [] = [] from rfl] at hnext
      rw [hzero, hnext]
      congr 1
      rw [fractionValue]
      push_cast
      ring
    | cons digit fraction =>
      obtain ⟨hdigit, hvalue, -, -⟩ := Json.digitOctet_spec digit.isLt
      have hnext : millisOf (count + 1) n (fractionOctets (digit :: fraction) ++ rest)
          = millisOf count (n * 10 + digit.val) (fractionOctets fraction ++ rest) := by
        show millisOf (count + 1) n (digitOctet digit.val :: (fractionOctets fraction ++ rest))
          = _
        rw [millisOf, if_pos hdigit, hvalue]
      rw [hnext, ih hrest]
      congr 1
      rw [fractionValue]
      push_cast
      ring

theorem dropDigits_append {rest : Bytes} (hrest : Json.digitAhead rest = false)
    (fraction : List (Fin 10)) : dropDigits (fractionOctets fraction ++ rest) = rest := by
  induction fraction with
  | nil =>
    cases rest with
    | nil => rfl
    | cons b rest =>
      show dropDigits (b :: rest) = _
      rw [dropDigits, if_neg (by rw [show Bytes.isDigit b = false from hrest]; decide)]
  | cons digit fraction ih =>
    show dropDigits (digitOctet digit.val :: (fractionOctets fraction ++ rest)) = _
    rw [dropDigits, if_pos (Json.digitOctet_spec digit.isLt).1, ih]

/-- A fraction is read down to milliseconds, with all of its digits. -/
theorem fraction_append {rest : Bytes} (hrest : Json.digitAhead rest = false)
    (hpoint : ∀ more, rest ≠ 46 :: more) (fraction : List (Fin 10)) :
    ∃ millis : Nat, Timestamp.fraction (Bytes.ofText (fractionText fraction) ++ rest)
        = .ok (millis, rest) ∧ (millis : ℤ) = ⌊1000 * fractionValue fraction⌋ := by
  cases fraction with
  | nil =>
    refine ⟨0, ?_, ?_⟩
    · show Timestamp.fraction rest = _
      rw [Timestamp.fraction]
      · intro heq
        exact hpoint [] heq
      · intro b more heq
        exact hpoint (b :: more) heq
    · rw [fractionValue, mul_zero]
      rfl
  | cons digit more =>
    have htext : Bytes.ofText (fractionText (digit :: more)) ++ rest
        = 46 :: digitOctet digit.val :: (fractionOctets more ++ rest) := by
      rw [fractionText, Bytes.ofText_append, ofText_digits,
        show Bytes.ofText "." = [46] from rfl]
      · rfl
      · intro h
        cases h
    refine ⟨millisOf 3 0 (fractionOctets (digit :: more) ++ rest), ?_, ?_⟩
    · have hdrop := dropDigits_append hrest (digit :: more)
      rw [htext, Timestamp.fraction, if_pos (Json.digitOctet_spec digit.isLt).1]
      exact congrArg (fun back => Except.ok (_, back)) hdrop
    · rw [millisOf_append hrest]
      congr 1
      norm_num
      ring

/-! ## Section 4: Texts of moments -/

theorem Zone.natAbs_minutes_lt (zone : Zone) : zone.minutes.natAbs < 24 * 60 := by
  cases zone with
  | upperUtc => decide
  | lowerUtc => decide
  | offset sign hours minutes =>
    rw [Zone.minutes]
    split <;> omega

/-- The octets of an offset that is written in hours and minutes. -/
theorem ofText_offset (sign : Sign) (hours : Fin 24) (minutes : Fin 60) :
    Bytes.ofText (Zone.offset sign hours minutes).text = Bytes.ofText sign.text
      ++ (Bytes.ofText (padded 2 hours) ++ 58 :: Bytes.ofText (padded 2 minutes)) := by
  have hcolon : Bytes.ofText ":" = [58] := rfl
  rw [Zone.text, Bytes.ofText_append, Bytes.ofText_append, Bytes.ofText_append, hcolon,
    List.append_assoc, List.append_assoc, List.singleton_append]

/-- An offset begins with nothing a fraction could go on with. -/
theorem Zone.ahead (zone : Zone) : Json.digitAhead (Bytes.ofText zone.text) = false ∧
    ∀ more, Bytes.ofText zone.text ≠ 46 :: more := by
  have hsign : ∀ (sign : Sign) (rest : Bytes),
      Json.digitAhead (Bytes.ofText sign.text ++ rest) = false ∧
        ∀ more, Bytes.ofText sign.text ++ rest ≠ 46 :: more := by
    intro sign rest
    cases sign <;> exact ⟨rfl, fun more h => absurd (List.cons.inj h).1 (by decide)⟩
  cases zone with
  | upperUtc => exact ⟨rfl, fun more h => absurd (List.cons.inj h).1 (by decide)⟩
  | lowerUtc => exact ⟨rfl, fun more h => absurd (List.cons.inj h).1 (by decide)⟩
  | offset sign hours minutes =>
    rw [ofText_offset]
    exact hsign sign _

theorem offset_sign (sign : Sign) (octets : Bytes) :
    offset (Bytes.ofText sign.text ++ octets) = (do
      let (h, k, rest) ← pair octets
      let rest ← oneOf [58] rest
      let (m, n, rest) ← pair rest
      if 6 ≤ m then .error .outOfRange
      else
        let minutes := Int.ofNat ((h * 10 + k) * 60 + m * 10 + n)
        .ok (if sign.isMinus then -minutes else minutes, rest)) := by
  cases sign <;> rfl

/-- Every offset is read, to its end. -/
theorem offset_text (zone : Zone) :
    offset (Bytes.ofText zone.text) = .ok (zone.minutes, []) := by
  cases zone with
  | upperUtc => rfl
  | lowerUtc => rfl
  | offset sign hours minutes =>
    have hminutes := pair_padded (n := minutes.val) (by omega) []
    -- the tens of minutes are looked at before the minutes are put together
    have htens : ¬ 6 ≤ minutes.val / 10 := by omega
    have hvalue : Int.ofNat ((hours.val / 10 * 10 + hours.val % 10) * 60
        + minutes.val / 10 * 10 + minutes.val % 10) = hours.val * 60 + minutes.val := by
      rw [Int.ofNat_eq_natCast]
      omega
    rw [List.append_nil] at hminutes
    have hhours : hours.val < 100 := by omega
    rw [ofText_offset, offset_sign, bind_eq (pair_padded hhours _)]
    dsimp only
    rw [bind_eq (oneOf_cons (by decide) _), bind_eq hminutes]
    dsimp only
    rw [if_neg htens, hvalue]
    rfl

/-- Every date of four-digit years is read. -/
theorem date_append {date : Date} (hvalid : date.isValid = true) (hyear : date.year < 10000)
    (rest : Bytes) : Timestamp.date (Bytes.ofText (padded 4 date.year)
        ++ 45 :: (Bytes.ofText (padded 2 date.month)
        ++ 45 :: (Bytes.ofText (padded 2 date.day) ++ rest))) = .ok (date, rest) := by
  obtain ⟨hmonth, hday⟩ := date.lt_of_isValid hvalid
  unfold Timestamp.date
  rw [bind_eq (digits_padded (by decide) hyear _)]
  dsimp only
  rw [bind_eq (oneOf_cons (by decide) _),
    bind_eq (digits_padded (by decide) hmonth _)]
  dsimp only
  rw [bind_eq (oneOf_cons (by decide) _),
    bind_eq (digits_padded (by decide) hday _)]
  exact if_pos hvalid

/-- Every time of day is read, with its fraction cut down to milliseconds. -/
theorem clock_append {rest : Bytes} (hrest : Json.digitAhead rest = false)
    (hpoint : ∀ more, rest ≠ 46 :: more) (hour : Fin 24) (minute second : Fin 60)
    (fraction : List (Fin 10)) :
    ∃ millis : Nat, clock (Bytes.ofText (padded 2 hour)
        ++ 58 :: (Bytes.ofText (padded 2 minute)
        ++ 58 :: (Bytes.ofText (padded 2 second)
        ++ (Bytes.ofText (fractionText fraction) ++ rest))))
        = .ok (⟨hour, minute, second, millis⟩, rest) ∧
      (millis : ℤ) = ⌊1000 * fractionValue fraction⌋ := by
  obtain ⟨millis, hread, hvalue⟩ := fraction_append hrest hpoint fraction
  refine ⟨millis, ?_, hvalue⟩
  have hvalid : (Clock.mk hour minute second millis).isValid = true := by
    simp [Clock.isValid]
    omega
  unfold clock
  rw [bind_eq (digits_padded (by decide) (show hour.val < 10 ^ 2 by omega) _)]
  dsimp only
  rw [bind_eq (oneOf_cons (by decide) _),
    bind_eq (digits_padded (by decide) (show minute.val < 10 ^ 2 by omega) _)]
  dsimp only
  rw [bind_eq (oneOf_cons (by decide) _),
    bind_eq (digits_padded (by decide) (show second.val < 10 ^ 2 by omega) _)]
  dsimp only
  rw [bind_eq hread]
  exact if_pos hvalid

namespace Moment

variable (m : Moment)

/-- The octets of a moment, token by token. -/
theorem exists_ofText_text : ∃ b, ([84, 116, 32] : Bytes).contains b = true ∧
    Bytes.ofText m.text = Bytes.ofText (padded 4 m.date.year)
      ++ 45 :: (Bytes.ofText (padded 2 m.date.month)
      ++ 45 :: (Bytes.ofText (padded 2 m.date.day)
      ++ b :: (Bytes.ofText (padded 2 m.hour)
      ++ 58 :: (Bytes.ofText (padded 2 m.minute)
      ++ 58 :: (Bytes.ofText (padded 2 m.second)
      ++ (Bytes.ofText (fractionText m.fraction) ++ Bytes.ofText m.zone.text)))))) := by
  have hdash : Bytes.ofText "-" = [45] := rfl
  have hcolon : Bytes.ofText ":" = [58] := rfl
  obtain ⟨b, hmem, hseparator⟩ : ∃ b, ([84, 116, 32] : Bytes).contains b = true ∧
      Bytes.ofText m.separator.text = [b] := by
    cases m.separator
    · exact ⟨84, by decide, rfl⟩
    · exact ⟨116, by decide, rfl⟩
    · exact ⟨32, by decide, rfl⟩
  refine ⟨b, hmem, ?_⟩
  unfold text
  simp only [Bytes.ofText_append, hdash, hcolon, hseparator, List.append_assoc,
    List.cons_append, List.nil_append]

theorem ofText_text_length : 19 ≤ (Bytes.ofText m.text).length := by
  obtain ⟨b, -, htext⟩ := m.exists_ofText_text
  have hyear : (Bytes.ofText (padded 4 m.date.year)).length = 4 :=
    (ofText_padded_spec (by decide) m.year_lt).1
  have htwo : ∀ n, n < 100 → (Bytes.ofText (padded 2 n)).length = 2 :=
    fun n h => (ofText_padded_spec (by decide) h).1
  obtain ⟨hmonth, hday⟩ := m.date.lt_of_isValid m.date_isValid
  rw [htext]
  simp only [List.length_append, List.length_cons]
  rw [hyear, htwo _ (by omega), htwo _ (by omega), htwo _ (by omega), htwo _ (by omega),
    htwo _ (by omega)]
  omega

/-- **Reading**: the text of a moment is read as its whole milliseconds. -/
theorem parse_text : parse m.text = .ok (m.date.days * 86400000
    + ((m.hour.val * 60 + m.minute.val) * 60 + m.second.val) * 1000
    + ⌊1000 * fractionValue m.fraction⌋ - m.zone.minutes * 60000) := by
  have hlength := m.ofText_text_length
  obtain ⟨b, hb, htext⟩ := m.exists_ofText_text
  obtain ⟨hdigit, hpoint⟩ := m.zone.ahead
  obtain ⟨millis, hclock, hmillis⟩ :=
    clock_append hdigit hpoint m.hour m.minute m.second m.fraction
  have hday : ¬ 24 * 60 ≤ m.zone.minutes.natAbs := by
    have := m.zone.natAbs_minutes_lt
    omega
  have hinstant : instantOf m.date ⟨m.hour, m.minute, m.second, millis⟩ m.zone.minutes
      = m.date.days * 86400000
        + ((m.hour.val * 60 + m.minute.val) * 60 + m.second.val) * 1000
        + ⌊1000 * fractionValue m.fraction⌋ - m.zone.minutes * 60000 := by
    rw [instantOf, Clock.sinceMidnight, ← hmillis, Int.ofNat_eq_natCast]
    push_cast
    ring
  unfold parse
  rw [if_neg (by rw [List.length_take]; omega), htext,
    bind_eq (date_append m.date_isValid m.year_lt _)]
  dsimp only
  rw [bind_eq (oneOf_cons hb _), bind_eq hclock]
  dsimp only
  rw [bind_eq (offset_text m.zone)]
  dsimp only
  rw [if_neg (by decide), if_neg hday, hinstant]

theorem floor_exact : ⌊m.exact⌋ = m.date.days * 86400000
    + ((m.hour.val * 60 + m.minute.val) * 60 + m.second.val) * 1000
    + ⌊1000 * fractionValue m.fraction⌋ - m.zone.minutes * 60000 := by
  have hsum : m.exact = ((m.date.days * 86400000
      + ((m.hour.val * 60 + m.minute.val) * 60 + m.second.val) * 1000
      - m.zone.minutes * 60000 : ℤ) : ℚ) + 1000 * fractionValue m.fraction := by
    unfold exact
    push_cast
    ring
  rw [hsum, Int.floor_intCast_add]
  ring

/-- **Instants**: every text of a moment is read, as the last whole millisecond that is not
    after the moment. -/
theorem parse_eq_floor : parse m.text = .ok ⌊m.exact⌋ := by
  rw [m.floor_exact, m.parse_text]

end Moment

end Timestamp

end TelemetryRelay
