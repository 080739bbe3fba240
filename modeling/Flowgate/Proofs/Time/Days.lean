import Flowgate.Time.Calendar
import Mathlib.Algebra.BigOperators.Intervals

/-! # Counting days

The number of a day is told by a closed form over its year. It is the count of the days that
have passed, those of the years before and those of the months before in its year.
-/

namespace Flowgate.Calendar

open Finset

variable {year month : Nat}

/-- The days of a year. -/
def daysInYear (year : Nat) : Nat := ∑ month ∈ Ico 1 13, daysInMonth year month

theorem daysInYear_eq (year : Nat) : daysInYear year = if isLeap year then 366 else 365 := by
  cases hleap : isLeap year <;> simp [daysInYear, sum_Ico_succ_top, daysInMonth, hleap]

theorem isLeap_iff : isLeap year = true ↔ 4 ∣ year ∧ (¬ 100 ∣ year ∨ 400 ∣ year) := by
  simp only [isLeap, Bool.and_eq_true, Bool.or_eq_true, beq_iff_eq, bne_iff_ne, ne_eq,
    Nat.dvd_iff_mod_eq_zero]

theorem daysBeforeYear_succ (h : 1 ≤ year) :
    daysBeforeYear (year + 1) = daysBeforeYear year + daysInYear year := by
  obtain ⟨y, rfl⟩ := Nat.exists_eq_add_of_le' h
  -- the hundreds are no more than the fourths, and leaving them out cuts nothing off
  have hhundreds : y / 100 ≤ y / 4 := Nat.div_le_div_left (by decide) (by decide)
  have hcentury : 100 ∣ y + 1 → 4 ∣ y + 1 := Nat.dvd_trans (by decide)
  have hcycle : 400 ∣ y + 1 → 100 ∣ y + 1 := Nat.dvd_trans (by decide)
  simp only [daysInYear_eq, isLeap_iff, daysBeforeYear, Nat.add_sub_cancel, Nat.succ_div]
  by_cases hfour : 4 ∣ y + 1 <;> by_cases hhundred : 100 ∣ y + 1 <;>
    by_cases hyears : 400 ∣ y + 1 <;> simp_all <;> omega

theorem daysBeforeYear_eq_sum (h : 1 ≤ year) :
    daysBeforeYear year = ∑ y ∈ Ico 1 year, daysInYear y := by
  induction year, h using Nat.le_induction with
  | base => rfl
  | succ year hyear ih => rw [daysBeforeYear_succ hyear, ih, sum_Ico_succ_top hyear]

theorem daysBeforeMonth_eq_sum (h : 1 ≤ month) :
    daysBeforeMonth year month = ∑ m ∈ Ico 1 month, daysInMonth year m := by
  induction month, h using Nat.le_induction with
  | base => rfl
  | succ month hmonth ih =>
      obtain ⟨before, rfl⟩ := Nat.exists_eq_add_of_le' hmonth
      rw [daysBeforeMonth, ih, sum_Ico_succ_top hmonth]

namespace Date

variable {d : Date}

/-- The days that have passed when a day begins, from the first day of year one on. -/
def elapsed (d : Date) : Nat :=
  ∑ year ∈ Ico 1 d.year, daysInYear year + ∑ month ∈ Ico 1 d.month, daysInMonth d.year month +
    (d.day - 1)

theorem isValid_iff : d.isValid = true ↔ (1 ≤ d.year ∧ d.year ≤ 9999) ∧
    (1 ≤ d.month ∧ d.month ≤ 12) ∧ 1 ≤ d.day ∧ d.day ≤ daysInMonth d.year d.month := by
  simp only [isValid, Bool.and_eq_true, decide_eq_true_eq, and_assoc]

/-- The first day has number one. -/
theorem ordinal_eq_elapsed (h : d.isValid = true) : d.ordinal = d.elapsed + 1 := by
  obtain ⟨⟨hyear, -⟩, ⟨hmonth, -⟩, hday, -⟩ := isValid_iff.mp h
  rw [ordinal, elapsed, daysBeforeYear_eq_sum hyear, daysBeforeMonth_eq_sum hmonth]
  omega

end Date

end Flowgate.Calendar
