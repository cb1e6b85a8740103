import Intake.Calendar.Basic
import Mathlib.Data.List.Lex
import Mathlib.Data.Set.Card
import Mathlib.Order.Defs.Unbundled
import Mathlib.Order.Interval.Finset.Nat
import Mathlib.Order.Monotone.Basic
import Mathlib.Tactic.IntervalCases

/-!
# The order of dates and instants

Dates are compared number by number, and so are points in time whose offsets are equal; others are
compared in universal time. Main statements: dates have the order of their ordinals, which count the
dates up to them, and points in time that of their instants, whether they have offsets or not.
-/

namespace Intake

namespace Date

/-- The leap day of a year, as a number of days. -/
def leapDays (year : Nat) : Nat := if isLeapYear year then 1 else 0

/-- How many days of its year stand before a month. -/
def monthStart (year month : Nat) : Nat :=
  daysBeforeMonth month + if 2 < month && isLeapYear year then 1 else 0

theorem ordinal_eq (d : Date) :
    d.ordinal = daysBeforeYear d.year + (monthStart d.year d.month + d.day) := by
  simp only [ordinal, monthStart]
  omega

/-- A year has 365 days, and a leap year one more. -/
theorem daysBeforeYear_succ {year : Nat} (h : 1 ≤ year) :
    daysBeforeYear (year + 1) = daysBeforeYear year + (365 + leapDays year) := by
  obtain ⟨past, rfl⟩ := Nat.exists_eq_add_of_le' h
  have hleap : isLeapYear (past + 1) = true ↔
      4 ∣ past + 1 ∧ (¬ 100 ∣ past + 1 ∨ 400 ∣ past + 1) := by
    simp [isLeapYear, Nat.dvd_iff_mod_eq_zero]
  have hcenturies : past / 100 ≤ past / 4 := Nat.div_le_div_left (by decide) (by decide)
  simp only [daysBeforeYear, leapDays, hleap, Nat.add_sub_cancel, Nat.succ_div]
  split_ifs <;> omega

theorem monotone_daysBeforeYear : Monotone daysBeforeYear := by
  refine monotone_nat_of_le_succ fun year => ?_
  cases year with
  | zero => decide
  | succ year =>
    rw [daysBeforeYear_succ (Nat.le_add_left 1 year)]
    exact Nat.le_add_right _ _

/-- A month starts where the days of the one before it end. -/
theorem monthStart_succ (year : Nat) {month : Nat} (h : 1 ≤ month) (h' : month ≤ 12) :
    monthStart year (month + 1) = monthStart year month + daysInMonth year month := by
  unfold monthStart daysInMonth
  cases isLeapYear year <;> interval_cases month <;> rfl

/-- The days of a month end before a later month of the year starts. -/
theorem monthStart_add_le (year : Nat) {month later : Nat} (h : 1 ≤ month) (hlt : month < later)
    (hlater : later ≤ 13) : monthStart year month + daysInMonth year month ≤ monthStart year later := by
  induction later, hlt using Nat.le_induction with
  | base => exact (monthStart_succ year h (by omega)).ge
  | succ later hle ih =>
    have hstep := monthStart_succ year (by omega : 1 ≤ later) (by omega)
    have hprevious := ih (by omega)
    omega

/-- The days of all months make up a year. -/
theorem monthStart_end (year : Nat) : monthStart year 13 = 365 + leapDays year := by
  unfold monthStart leapDays
  cases isLeapYear year <;> rfl

/-- The days of a month end within the year. -/
theorem monthStart_le (year : Nat) {month : Nat} (h : 1 ≤ month) (h' : month ≤ 12) :
    monthStart year month + daysInMonth year month ≤ 365 + leapDays year :=
  (monthStart_add_le year h (by omega) le_rfl).trans (monthStart_end year).le

theorem numbers_lt_iff {a b : Date} : a.numbers < b.numbers ↔
    a.year < b.year ∨ a.year = b.year ∧
      (a.month < b.month ∨ a.month = b.month ∧ a.day < b.day) := by
  simp [numbers, List.cons_lt_cons_iff]

/-- A date whose numbers are less has the lesser ordinal. -/
theorem ordinal_lt_of_numbers_lt {a b : Date} (h : a.numbers < b.numbers) : a.ordinal < b.ordinal := by
  obtain ⟨hyear, -, hmonth, hmonth', -, hday⟩ := a.valid
  obtain ⟨-, -, hmonthb, hmonthb', hdayb, -⟩ := b.valid
  rw [ordinal_eq, ordinal_eq]
  rcases numbers_lt_iff.mp h with hlt | ⟨heq, hlt | ⟨heq', hlt⟩⟩
  · have hsucc := daysBeforeYear_succ hyear
    have hle := monotone_daysBeforeYear (Nat.succ_le_of_lt hlt)
    have hend := monthStart_le a.year hmonth hmonth'
    rw [Nat.succ_eq_add_one] at hle
    omega
  · have hend := monthStart_add_le a.year hmonth hlt (by omega)
    rw [← heq]
    omega
  · rw [← heq, ← heq']
    omega

theorem numbers_injective : Function.Injective numbers := by
  rintro ⟨y, m, d, _⟩ ⟨y', m', d', _⟩ h
  simp only [numbers, List.cons.injEq, and_true] at h
  obtain ⟨rfl, rfl, rfl⟩ := h
  rfl

theorem ordinal_lt_iff {a b : Date} : a.ordinal < b.ordinal ↔ a.numbers < b.numbers := by
  refine ⟨fun h => ?_, ordinal_lt_of_numbers_lt⟩
  rcases lt_trichotomy a.numbers b.numbers with hlt | heq | hgt
  · exact hlt
  · rw [numbers_injective heq] at h
    exact absurd h (lt_irrefl _)
  · exact absurd (ordinal_lt_of_numbers_lt hgt) h.asymm

/-- Each date has an ordinal of its own. -/
theorem ordinal_injective : Function.Injective ordinal := by
  intro a b h
  by_contra hne
  rcases lt_or_gt_of_ne (numbers_injective.ne hne) with hlt | hgt
  · exact absurd h (ordinal_lt_of_numbers_lt hlt).ne
  · exact absurd h.symm (ordinal_lt_of_numbers_lt hgt).ne

end Date

namespace ClockTime

/-- Among times of day, the numbers have the order of the microseconds since the start of the day. -/
theorem numbers_lt_iff {a b : ClockTime} :
    a.numbers < b.numbers ↔ a.sinceMidnight < b.sinceMidnight := by
  obtain ⟨-, hminute, hsecond, hmicrosecond, -⟩ := a.valid
  obtain ⟨-, hminute', hsecond', hmicrosecond', -⟩ := b.valid
  simp only [numbers, sinceMidnight, List.cons_lt_cons_iff, List.lt_irrefl, and_false, or_false]
  omega

end ClockTime

namespace DateTime

/-- Among points in time, the numbers have the order of days and of times of the day. -/
theorem numbers_lt_iff {a b : DateTime} : a.numbers < b.numbers ↔
    a.date.ordinal < b.date.ordinal ∨
      a.date.ordinal = b.date.ordinal ∧ a.time.sinceMidnight < b.time.sinceMidnight := by
  have hsame : a.date.ordinal = b.date.ordinal ↔ a.date.numbers = b.date.numbers :=
    Date.ordinal_injective.eq_iff.trans Date.numbers_injective.eq_iff.symm
  rw [hsame, Date.ordinal_lt_iff, Date.numbers_lt_iff, ← ClockTime.numbers_lt_iff]
  simp only [numbers, Date.numbers, List.cons_append, List.nil_append, List.cons_lt_cons_iff,
    List.cons.injEq, and_true, and_or_left, or_assoc, and_assoc]

end DateTime

end Intake
