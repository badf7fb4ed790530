import Mathlib.Logic.Function.Iterate
import Mathlib.Tactic.SplitIfs
import TelemetryRelay.Timestamp

/-! # The calendar, day by day

    The day number of a date is computed by a formula, from the years before its
    year and the months before its month. Here the calendar is told day by day
    instead: every date has a next one. The formula is the only one that is 0 on
    1970-01-01 and goes up by 1 from a date to the next, and every date can be
    reached from 1970-01-01, forwards or backwards.
-/

namespace TelemetryRelay

namespace Timestamp

/-! ## Section 1: From a day to the next -/

/-- The date of the next day: in the same month while the month has one more, or else the
    first of the next month. -/
def Date.next (date : Date) : Date :=
  if date.day < daysInMonth date.year date.month then
    ⟨date.year, date.month, date.day + 1⟩
  else if date.month < 12 then ⟨date.year, date.month + 1, 1⟩
  else ⟨date.year + 1, 1, 1⟩

/-- The first day of 1970. -/
def Date.epoch : Date := ⟨1970, 1, 1⟩

/-- How many days there are from one date to another, below 0 where the other is earlier. -/
inductive DaysFrom (start date : Date) : Int → Prop where
  | forwards (n : Nat) (h : Date.next^[n] start = date) : DaysFrom start date n
  | backwards (n : Nat) (h : Date.next^[n] date = start) : DaysFrom start date (-n)

theorem one_le_daysInMonth (year month : Nat) : 1 ≤ daysInMonth year month := by
  unfold daysInMonth
  split
  · split <;> decide
  all_goals decide

theorem daysInMonth_le (year month : Nat) : daysInMonth year month ≤ 31 := by
  unfold daysInMonth
  split
  · split <;> decide
  all_goals decide

theorem isValid_mk_iff {year month day : Nat} : (Date.mk year month day).isValid = true ↔
    1 ≤ month ∧ month ≤ 12 ∧ 1 ≤ day ∧ day ≤ daysInMonth year month := by
  simp [Date.isValid, and_assoc]

/-- Months and days have two digits. -/
theorem Date.lt_of_isValid (date : Date) (h : date.isValid = true) :
    date.month < 100 ∧ date.day < 100 := by
  obtain ⟨-, hmonth, -, hday⟩ := isValid_mk_iff.mp h
  have hdays := daysInMonth_le date.year date.month
  omega

section Next

variable {year month day : Nat}

theorem next_in_month (h : day < daysInMonth year month) :
    (Date.mk year month day).next = ⟨year, month, day + 1⟩ :=
  if_pos h

theorem next_after_month (hmonth : month < 12) :
    (Date.mk year month (daysInMonth year month)).next = ⟨year, month + 1, 1⟩ := by
  unfold Date.next
  rw [if_neg (Nat.lt_irrefl _), if_pos hmonth]

theorem next_after_year :
    (Date.mk year 12 (daysInMonth year 12)).next = ⟨year + 1, 1, 1⟩ := by
  unfold Date.next
  rw [if_neg (Nat.lt_irrefl _), if_neg (Nat.lt_irrefl 12)]

end Next

/-- A date is within its month, or the last of a month, or the last of its year. -/
theorem Date.cases_of_isValid {date : Date} (h : date.isValid = true) :
    (∃ year month day, day < daysInMonth year month ∧ date = ⟨year, month, day⟩) ∨
      (∃ year month, month < 12 ∧ date = ⟨year, month, daysInMonth year month⟩) ∨
      ∃ year, date = ⟨year, 12, daysInMonth year 12⟩ := by
  obtain ⟨year, month, day⟩ := date
  obtain ⟨-, hlast, -, hday⟩ := isValid_mk_iff.mp h
  by_cases hmore : day < daysInMonth year month
  · exact .inl ⟨year, month, day, hmore, rfl⟩
  · have hend : day = daysInMonth year month := by omega
    subst hend
    by_cases hless : month < 12
    · exact .inr (.inl ⟨year, month, hless, rfl⟩)
    · have hdecember : month = 12 := by omega
      subst hdecember
      exact .inr (.inr ⟨year, rfl⟩)

/-- The next day is a date again. -/
theorem Date.isValid_next {date : Date} (h : date.isValid = true) :
    date.next.isValid = true := by
  obtain ⟨year, month, day, hmore, rfl⟩ | ⟨year, month, hless, rfl⟩ | ⟨year, rfl⟩ :=
    cases_of_isValid h
  · obtain ⟨hmonth, hlast, hday, -⟩ := isValid_mk_iff.mp h
    rw [next_in_month hmore]
    exact isValid_mk_iff.mpr ⟨hmonth, hlast, Nat.le_add_left 1 day, hmore⟩
  · rw [next_after_month hless]
    exact isValid_mk_iff.mpr
      ⟨Nat.le_add_left 1 month, hless, Nat.le_refl 1, one_le_daysInMonth year (month + 1)⟩
  · rw [next_after_year]
    exact isValid_mk_iff.mpr
      ⟨Nat.le_refl 1, by decide, Nat.le_refl 1, one_le_daysInMonth (year + 1) 1⟩

/-! ## Section 2: The formula -/

/-- The number of days from the start of year 0. -/
def Date.ordinal (date : Date) : Nat :=
  daysBeforeYear date.year + daysBeforeMonth date.year (date.month - 1) + (date.day - 1)

theorem Date.days_eq_ordinal (date : Date) :
    date.days = (date.ordinal : Int) - (epochDay : Int) :=
  rfl

theorem isLeap_iff (year : Nat) :
    isLeap year = true ↔ year % 4 = 0 ∧ (year % 100 ≠ 0 ∨ year % 400 = 0) := by
  simp [isLeap]

theorem daysBeforeMonth_year (year : Nat) :
    daysBeforeMonth year 12 = 365 + if isLeap year then 1 else 0 := by
  simp only [daysBeforeMonth, daysInMonth]
  split <;> rfl

/-- How many of the years before one more are multiples of 4, of 100 and of 400. -/
theorem multiples_succ (year : Nat) :
    (year + 4) / 4 = (year + 3) / 4 + (if year % 4 = 0 then 1 else 0) ∧
      (year + 100) / 100 = (year + 99) / 100 + (if year % 100 = 0 then 1 else 0) ∧
      (year + 400) / 400 = (year + 399) / 400 + (if year % 400 = 0 then 1 else 0) := by
  refine ⟨?_, ?_, ?_⟩ <;> split <;> omega

/-- The months of a year are the year: the formula for years has a day more exactly
    after the leap years. -/
theorem daysBeforeYear_succ (year : Nat) :
    daysBeforeYear (year + 1) = daysBeforeYear year + daysBeforeMonth year 12 := by
  obtain ⟨hfour, hhundred, hfourHundred⟩ := multiples_succ year
  -- the subtraction in the formula is not cut off at 0
  have hless : (year + 99) / 100 ≤ 365 * year := by omega
  have hday : (if isLeap year then 1 else 0) + (if year % 100 = 0 then 1 else 0)
      = (if year % 4 = 0 then 1 else 0) + (if year % 400 = 0 then 1 else 0) := by
    simp only [isLeap_iff]
    split_ifs <;> omega
  rw [daysBeforeMonth_year]
  show 365 * (year + 1) + (year + 4) / 4 - (year + 100) / 100 + (year + 400) / 400
    = 365 * year + (year + 3) / 4 - (year + 99) / 100 + (year + 399) / 400 + (365 + _)
  omega

theorem ordinal_mk (year month day : Nat) : (Date.mk year month day).ordinal
    = daysBeforeYear year + daysBeforeMonth year (month - 1) + (day - 1) :=
  rfl

/-- The formula goes up by one from a day to the next. -/
theorem Date.ordinal_next {date : Date} (h : date.isValid = true) :
    date.next.ordinal = date.ordinal + 1 := by
  obtain ⟨year, month, day, hmore, rfl⟩ | ⟨year, month, hless, rfl⟩ | ⟨year, rfl⟩ :=
    cases_of_isValid h
  · obtain ⟨-, -, hday, -⟩ := isValid_mk_iff.mp h
    rw [next_in_month hmore, ordinal_mk, ordinal_mk]
    omega
  · obtain ⟨hmonth, -⟩ := isValid_mk_iff.mp h
    have hsome := one_le_daysInMonth year month
    obtain ⟨before, rfl⟩ : ∃ before, month = before + 1 := ⟨month - 1, by omega⟩
    have hmonths : daysBeforeMonth year (before + 1)
      = daysBeforeMonth year before + daysInMonth year (before + 1) := rfl
    rw [next_after_month hless, ordinal_mk, ordinal_mk, Nat.add_sub_cancel,
      Nat.add_sub_cancel, hmonths]
    omega
  · have hsome := one_le_daysInMonth year 12
    have hmonths : daysBeforeMonth year 12
      = daysBeforeMonth year (12 - 1) + daysInMonth year 12 := rfl
    have hnone : daysBeforeMonth (year + 1) 0 = 0 := rfl
    rw [next_after_year, ordinal_mk, ordinal_mk, daysBeforeYear_succ, hmonths, hnone]
    omega

/-- What holds of the next day holds of any day after. -/
theorem Date.iterate_next {date : Date} (h : date.isValid = true) (n : Nat) :
    (Date.next^[n] date).isValid = true ∧
      (Date.next^[n] date).ordinal = date.ordinal + n := by
  induction n with
  | zero => exact ⟨h, rfl⟩
  | succ n ih =>
    obtain ⟨hvalid, hordinal⟩ := ih
    rw [Function.iterate_succ_apply']
    refine ⟨isValid_next hvalid, ?_⟩
    rw [ordinal_next hvalid, hordinal, Nat.add_assoc]

/-! ## Section 3: Every date is reached -/

/-- The first day of year 0. -/
def Date.first : Date := ⟨0, 1, 1⟩

/-- Whether the steps the formula counts lead to a date. -/
def Date.Reached (date : Date) : Prop :=
  Date.next^[date.ordinal] Date.first = date

theorem Date.Reached.next {date : Date} (h : date.Reached) (hvalid : date.isValid = true) :
    date.next.Reached := by
  unfold Date.Reached at h ⊢
  rw [ordinal_next hvalid, Function.iterate_succ_apply', h]

section Reaching

variable {year month day : Nat}

theorem reached_day (hmonth : 1 ≤ month ∧ month ≤ 12)
    (hfirst : (Date.mk year month 1).Reached) :
    ∀ more, more + 1 ≤ daysInMonth year month → (Date.mk year month (more + 1)).Reached := by
  -- the induction is on the days after the first of the month
  intro more
  induction more with
  | zero => intro _; exact hfirst
  | succ more ih =>
    intro hfits
    have hvalid : (Date.mk year month (more + 1)).isValid = true :=
      isValid_mk_iff.mpr ⟨hmonth.1, hmonth.2, Nat.le_add_left 1 more, Nat.le_of_lt hfits⟩
    rw [← next_in_month hfits]
    exact (ih (Nat.le_of_lt hfits)).next hvalid

/-- The last of a month is reached where the first is, and so the day after is. -/
theorem reached_after (hmonth : 1 ≤ month ∧ month ≤ 12)
    (hfirst : (Date.mk year month 1).Reached) :
    (Date.mk year month (daysInMonth year month)).next.Reached := by
  have hsome := one_le_daysInMonth year month
  have hvalid : (Date.mk year month (daysInMonth year month)).isValid = true :=
    isValid_mk_iff.mpr ⟨hmonth.1, hmonth.2, hsome, Nat.le_refl _⟩
  have hlast := reached_day hmonth hfirst (daysInMonth year month - 1) (by omega)
  rw [Nat.sub_add_cancel hsome] at hlast
  exact hlast.next hvalid

theorem reached_month (hfirst : (Date.mk year 1 1).Reached) :
    ∀ more, more < 12 → (Date.mk year (more + 1) 1).Reached := by
  intro more
  induction more with
  | zero => intro _; exact hfirst
  | succ more ih =>
    intro hless
    have h := reached_after ⟨Nat.le_add_left 1 more, by omega⟩ (ih (by omega))
    rwa [next_after_month hless] at h

theorem reached_year : ∀ year, (Date.mk year 1 1).Reached := by
  intro year
  induction year with
  | zero => rfl
  | succ year ih =>
    -- the year begins on the day after the last of December
    have h := reached_after (by decide) (reached_month ih 11 (by decide))
    rwa [next_after_year] at h

/-- Every date is as many days after the first of year 0 as the formula says. -/
theorem Date.reached {date : Date} (h : date.isValid = true) : date.Reached := by
  obtain ⟨year, month, day⟩ := date
  obtain ⟨hmonth, hlast, hday, hdays⟩ := isValid_mk_iff.mp h
  obtain ⟨before, rfl⟩ : ∃ before, month = before + 1 := ⟨month - 1, by omega⟩
  obtain ⟨more, rfl⟩ : ∃ more, day = more + 1 := ⟨day - 1, by omega⟩
  exact reached_day ⟨hmonth, hlast⟩ (reached_month (reached_year year) before hlast) more hdays

end Reaching

/-- From a date to any that is not before it, there is a way of so many steps. -/
theorem Date.iterate_next_of_le {start date : Date} (hstart : start.isValid = true)
    (hdate : date.isValid = true) (h : start.ordinal ≤ date.ordinal) :
    Date.next^[date.ordinal - start.ordinal] start = date := by
  have hs : Date.next^[start.ordinal] Date.first = start := reached hstart
  have hd : Date.next^[date.ordinal] Date.first = date := reached hdate
  rw [← hs, ← Function.iterate_add_apply, hs, Nat.sub_add_cancel h, hd]

/-- The days from one date to another are what the formula gives, and nothing else. -/
theorem daysFrom_iff {start date : Date} (hstart : start.isValid = true)
    (hdate : date.isValid = true) {n : Int} :
    DaysFrom start date n ↔ n = (date.ordinal : Int) - (start.ordinal : Int) := by
  constructor
  · intro h
    cases h with
    | forwards n h =>
      have := (Date.iterate_next hstart n).2
      rw [h] at this
      omega
    | backwards n h =>
      have := (Date.iterate_next hdate n).2
      rw [h] at this
      omega
  · intro h
    by_cases hle : start.ordinal ≤ date.ordinal
    · have hn : n = ((date.ordinal - start.ordinal : Nat) : Int) := by omega
      rw [hn]
      exact .forwards _ (Date.iterate_next_of_le hstart hdate hle)
    · have hn : n = -((start.ordinal - date.ordinal : Nat) : Int) := by omega
      rw [hn]
      exact .backwards _ (Date.iterate_next_of_le hdate hstart (by omega))

/-- The day number of a date is how many days it is from 1970-01-01. -/
theorem daysFrom_epoch_iff {date : Date} (h : date.isValid = true) {n : Int} :
    DaysFrom Date.epoch date n ↔ n = date.days := by
  rw [daysFrom_iff (by decide) h, Date.days_eq_ordinal]
  have hepoch : Date.epoch.ordinal = epochDay := by decide
  rw [hepoch]

end Timestamp

end TelemetryRelay
