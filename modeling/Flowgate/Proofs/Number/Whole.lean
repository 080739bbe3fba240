import Flowgate.Proofs.Number.Ratio

/-! # Floating point numbers as integers

A finite number is cut toward zero, and a number that is an integer is not changed.
-/

namespace Flowgate

/-- The integer that is left of a rational without its fraction. -/
def towardZero (q : ℚ) : Int := if q < 0 then ⌈q⌉ else ⌊q⌋

@[simp]
theorem towardZero_intCast (n : Int) : towardZero n = n := by
  unfold towardZero
  split
  · exact Int.ceil_intCast n
  · exact Int.floor_intCast n

namespace Binary64

variable {x : Binary64}

/-- The rational of a finite number. -/
def number (x : Binary64) : ℚ := x.signedSignificand * 2 ^ x.scale

theorem number_eq (x : Binary64) : x.number = if x.negative then -x.value else x.value := by
  unfold number signedSignificand value
  split <;> simp

theorem floor_value (x : Binary64) :
    ((x.magnitude.1 / x.magnitude.2 : Nat) : Int) = ⌊x.value⌋ := by
  have hvalue : x.value = x.magnitude.1 / x.magnitude.2 := by
    rw [magnitude, ← quotient, quotient_scaleRatio, Nat.cast_one, div_one, value]
    rfl
  rw [hvalue, Rat.floor_natCast_div_natCast, Int.natCast_ediv]

/-- What a finite number is cut to. -/
theorem truncate?_of_isFinite (h : x.isFinite = true) :
    x.truncate? = some (towardZero x.number) := by
  have hvalue : 0 ≤ x.value := mul_nonneg (Nat.cast_nonneg _) (zpow_pos two_pos _).le
  rw [truncate?, if_pos h]
  dsimp only
  rw [floor_value, number_eq, towardZero]
  congr 1
  split
  next =>
    split
    next => exact Int.ceil_neg.symm
    next hzero =>
      have hnone : x.value = 0 := le_antisymm (by linarith) hvalue
      simp [hnone]
  next => rw [if_neg (not_lt.mpr hvalue)]

theorem isFinite_of_isInfinite (h : x.isInfinite = true) : x.isFinite = false := by
  simp only [isInfinite, Bool.and_eq_true, beq_iff_eq] at h
  simp [isFinite, h.1]

end Binary64

end Flowgate
