import Flowgate.Number.Decimal
import Mathlib.Logic.Basic
import Mathlib.Tactic.ByContra

/-! # The sign of a floating point number

Rounding keeps the sign of what is rounded, and a number that is whole has the sign of its
integer.
-/

namespace Flowgate

namespace Binary64

theorem ofFields_negative (negative : Bool) (significand : Nat) (scale : Int) :
    (ofFields negative significand scale).negative = negative := by
  unfold ofFields
  split
  · rfl
  · split <;> rfl

theorem ofRatio_negative (negative : Bool) (num den : Nat) :
    (ofRatio negative num den).negative = negative := by
  unfold ofRatio
  split
  · rfl
  · dsimp only
    split <;> exact ofFields_negative _ _ _

theorem not_isPositive_of_negative {x : Binary64} (h : x.negative = true) :
    ¬ x.isPositive := by
  simp [isPositive, h]

theorem pos_of_isPositive_ofInt {i : Int} (h : (ofInt i).isPositive) : 0 < i := by
  by_contra hle
  rcases Int.lt_or_eq_of_le (Int.not_lt.mp hle) with hneg | rfl
  · have hsign : (ofInt i).negative = true := by simp [ofInt, ofRatio_negative, hneg]
    exact not_isPositive_of_negative hsign h
  · exact absurd h (by decide)

theorem significand_eq_zero_iff {x : Binary64} : x.significand = 0 ↔ x.isZero := by
  rw [significand, isZero, Bool.and_eq_true, beq_iff_eq, beq_iff_eq]
  split
  next hexponent =>
    rw [and_iff_right hexponent, Fin.ext_iff]
    rfl
  next hexponent => exact iff_of_false (by omega) fun h => hexponent h.1

theorem magnitude_eq_zero_iff {x : Binary64} : x.magnitude.1 = 0 ↔ x.isZero := by
  rw [← significand_eq_zero_iff]
  unfold magnitude scaleRatio
  split
  next up _ => exact Nat.mul_eq_zero.trans (or_iff_left (Nat.ne_of_gt (Nat.two_pow_pos up)))
  next => rfl

theorem truncate?_eq_some {x : Binary64} {i : Int} (h : x.truncate? = some i) :
    x.isFinite ∧ (if x.negative then -((x.magnitude.1 / x.magnitude.2 : Nat) : Int)
      else ((x.magnitude.1 / x.magnitude.2 : Nat) : Int)) = i := by
  rw [truncate?, Option.ite_none_right_eq_some] at h
  exact ⟨h.1, Option.some.inj h.2⟩

theorem toInt?_eq_some {x : Binary64} {i : Int} (h : x.toInt? = some i) :
    x.truncate? = some i ∧ x.magnitude.1 % x.magnitude.2 = 0 := by
  unfold toInt? at h
  split at h
  next j hj =>
    dsimp only at h
    split at h
    next hwhole =>
      cases h
      exact ⟨hj, hwhole⟩
    next => cases h
  next => cases h

/-- A whole number above zero has no sign and is not zero. -/
theorem isPositive_of_toInt? {x : Binary64} {i : Int} (h : x.toInt? = some i) (hi : 0 < i) :
    x.isPositive := by
  obtain ⟨hfinite, hvalue⟩ := truncate?_eq_some (toInt?_eq_some h).1
  have hnumber : x.isNaN = false := by
    simp only [isFinite, bne_iff_ne, ne_eq] at hfinite
    simp [isNaN, hfinite]
  have hnonzero : x.isZero = false := by
    by_contra hzero
    rw [Bool.not_eq_false] at hzero
    rw [magnitude_eq_zero_iff.mpr hzero, Nat.zero_div] at hvalue
    split at hvalue <;> omega
  have hsign : x.negative = false := by
    by_contra hnegative
    rw [Bool.not_eq_false] at hnegative
    rw [if_pos hnegative] at hvalue
    generalize x.magnitude.1 / x.magnitude.2 = n at hvalue
    omega
  simp [isPositive, hnumber, hnonzero, hsign]

theorem pos_of_isPositive_of_toInt? {x : Binary64} {i : Int} (h : x.toInt? = some i)
    (hx : x.isPositive) : 0 < i := by
  obtain ⟨htruncate, hwhole⟩ := toInt?_eq_some h
  obtain ⟨-, hvalue⟩ := truncate?_eq_some htruncate
  obtain ⟨⟨-, hnonzero⟩, hsign⟩ : (¬ x.isNaN ∧ ¬ x.isZero) ∧ ¬ x.negative := by
    simpa [isPositive] using hx
  rw [if_neg hsign] at hvalue
  have hquotient : x.magnitude.1 / x.magnitude.2 ≠ 0 := by
    intro hzero
    have hsplit := Nat.div_add_mod x.magnitude.1 x.magnitude.2
    rw [hzero, hwhole] at hsplit
    exact hnonzero (magnitude_eq_zero_iff.mp hsplit.symm)
  rw [← hvalue]
  exact Int.natCast_pos.mpr (Nat.pos_of_ne_zero hquotient)

end Binary64

namespace Decimal

theorem toBinary64_negative (negative : Bool) (d : Decimal) :
    (d.toBinary64 negative).negative = negative := by
  unfold toBinary64
  dsimp only
  split
  · rfl
  · split
    · rfl
    · exact Binary64.ofRatio_negative _ _ _

theorem digits_ne_zero_of_isPositive {d : Decimal} (h : (d.toBinary64 false).isPositive) :
    d.digits ≠ 0 := by
  intro hzero
  simp [toBinary64, hzero] at h
  exact absurd h (by decide)

end Decimal

end Flowgate
