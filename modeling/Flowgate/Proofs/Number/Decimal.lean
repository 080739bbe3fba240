import Flowgate.Number.Decimal
import Flowgate.Proofs.Number.Ratio

/-! # Decimals that read back

A decimal is read by the rational that it is. The exact expansion of a finite number is the
number again, and so is the shortest decimal that stands for it.
-/

namespace Flowgate.Decimal

variable {d e : Decimal} {x : Binary64} {negative : Bool}

/-- The rational of a decimal. -/
def value (d : Decimal) : ℚ := d.digits * 10 ^ d.exponent

theorem value_eq_zero_iff : d.value = 0 ↔ d.digits = 0 := by
  have hpower : (10 : ℚ) ^ d.exponent ≠ 0 := (zpow_pos (by norm_num) _).ne'
  simp [value, hpower]

theorem value_pos (h : d.digits ≠ 0) : 0 < d.value :=
  mul_pos (by exact_mod_cast Nat.pos_of_ne_zero h) (zpow_pos (by norm_num) _)

/-- The order of magnitude is told by the rational. -/
theorem log_value (h : d.digits ≠ 0) :
    Int.log 10 d.value = digitCount d.digits + d.exponent - 1 := by
  have hpos := value_pos h
  have hpower : (0 : ℚ) < 10 ^ d.exponent := zpow_pos (by norm_num) _
  obtain ⟨count, hcount⟩ : ∃ count, digitCount d.digits = count + 1 :=
    Nat.exists_eq_add_one.mpr Nat.length_toDigits_pos
  have hupper : d.digits < 10 ^ (count + 1) :=
    (Nat.length_toDigits_le_iff (by decide) (Nat.succ_pos count)).mp hcount.le
  have hlower : 10 ^ count ≤ d.digits := by
    rcases Nat.eq_zero_or_pos count with rfl | hcountPos
    · exact Nat.one_le_iff_ne_zero.mpr h
    · by_contra hlt
      have hshort := (Nat.length_toDigits_le_iff (by decide) hcountPos).mpr (Nat.lt_of_not_le hlt)
      rw [digitCount] at hcount
      omega
  apply le_antisymm
  · rw [← Int.lt_add_one_iff, sub_add_cancel, ← Int.lt_zpow_iff_log_lt (by decide) hpos, hcount,
      Nat.cast_ofNat, zpow_add₀ (by norm_num), zpow_natCast]
    exact mul_lt_mul_of_pos_right (by exact_mod_cast hupper) hpower
  · have hsplit : ((digitCount d.digits : Int) + d.exponent - 1) = count + d.exponent := by omega
    rw [← Int.zpow_le_iff_le_log (by decide) hpos, hsplit, Nat.cast_ofNat,
      zpow_add₀ (by norm_num), zpow_natCast]
    exact mul_le_mul_of_nonneg_right (by exact_mod_cast hlower) hpower.le

/-- Decimals that are one rational are read as one number. -/
theorem toBinary64_congr (h : d.value = e.value) :
    d.toBinary64 negative = e.toBinary64 negative := by
  have hzero : d.digits = 0 ↔ e.digits = 0 := by
    rw [← value_eq_zero_iff, ← value_eq_zero_iff, h]
  by_cases hd : d.digits = 0
  · simp [toBinary64, hd, hzero.mp hd]
  · have he : e.digits ≠ 0 := mt hzero.mpr hd
    have horder : (digitCount d.digits : Int) + d.exponent = digitCount e.digits + e.exponent := by
      have hlog := log_value he
      rw [← h, log_value hd] at hlog
      omega
    have hratio : Binary64.ofRatio negative (scaleRatio 10 d.exponent d.digits 1).1
          (scaleRatio 10 d.exponent d.digits 1).2 =
        Binary64.ofRatio negative (scaleRatio 10 e.exponent e.digits 1).1
          (scaleRatio 10 e.exponent e.digits 1).2 := by
      apply Binary64.ofRatio_congr (scaleRatio_snd_pos (by decide) Nat.one_pos)
        (scaleRatio_snd_pos (by decide) Nat.one_pos)
      change quotient _ = quotient _
      rw [quotient_scaleRatio, quotient_scaleRatio, Nat.cast_one, div_one, div_one]
      exact h
    simp only [toBinary64, hd, he, horder, hratio]

/-- Final zeros do not count. -/
theorem value_strip (fuel : Nat) (d : Decimal) : (strip fuel d).value = d.value := by
  induction fuel generalizing d with
  | zero => rfl
  | succ fuel ih =>
      rw [strip]
      split
      next h =>
        have htens : d.digits / 10 * 10 = d.digits :=
          Nat.div_mul_cancel (Nat.dvd_of_mod_eq_zero h.2)
        rw [ih]
        simp only [value]
        rw [zpow_add_one₀ (by norm_num), ← mul_assoc, mul_right_comm]
        norm_cast
        rw [htens]
      next => rfl

/-- The expansion is exact. -/
theorem value_expansion (x : Binary64) : (expansion x).value = x.value := by
  unfold expansion
  split
  next up hscale =>
    simp [value, Binary64.value, hscale]
  next down hscale =>
    have htwo : (2 : ℚ) = 10 / 5 := by norm_num
    simp only [value, Binary64.value, hscale, Nat.pow_eq, Nat.cast_mul, Nat.cast_pow,
      Nat.cast_ofNat, Nat.cast_add, Nat.cast_one]
    rw [← Nat.cast_add_one, zpow_neg, zpow_natCast, zpow_negSucc, htwo, div_pow, inv_div,
      div_eq_mul_inv, mul_assoc]

theorem two_zpow_le_ten_zpow (n : Nat) : (2 : ℚ) ^ (3 * n : Int) ≤ 10 ^ (n : Int) := by
  rw [zpow_mul, zpow_natCast, zpow_natCast]
  exact pow_le_pow_left₀ (by norm_num) (by norm_num) n

/-- A finite number is far from the orders of magnitude that are not computed. -/
theorem log_value_bounds (hfinite : x.isFinite = true) (hzero : 0 < x.value) :
    -400 ≤ Int.log 10 x.value ∧ Int.log 10 x.value < 400 := by
  have hsignificand : 1 ≤ x.significand := by
    by_contra hlt
    have hnone : x.significand = 0 := by omega
    simp [Binary64.value, hnone] at hzero
  obtain ⟨hleast, hmost⟩ : -1074 ≤ x.scale ∧ x.scale ≤ 971 := by
    rcases Binary64.scale_cases hfinite with ⟨-, -, hscale⟩ | ⟨-, -, -, hbounds⟩
    · omega
    · exact hbounds
  have hpower : (2 : ℚ) ^ (1200 : Int) ≤ 10 ^ (400 : Int) := two_zpow_le_ten_zpow 400
  constructor
  · rw [← Int.zpow_le_iff_le_log (by decide) hzero, Nat.cast_ofNat]
    calc
      (10 : ℚ) ^ (-400 : Int) ≤ 2 ^ (-1200 : Int) := by
        rw [zpow_neg, zpow_neg]
        exact inv_anti₀ (zpow_pos two_pos _) hpower
      _ ≤ 2 ^ x.scale := zpow_le_zpow_right₀ one_le_two (by omega)
      _ ≤ x.significand * 2 ^ x.scale :=
        le_mul_of_one_le_left (zpow_pos two_pos _).le (by exact_mod_cast hsignificand)
  · rw [← Int.lt_zpow_iff_log_lt (by decide) hzero, Nat.cast_ofNat]
    calc
      (x.significand * 2 ^ x.scale : ℚ) < 2 ^ (53 : Int) * 2 ^ x.scale := by
        refine mul_lt_mul_of_pos_right ?_ (zpow_pos two_pos _)
        exact_mod_cast x.significand_lt
      _ = 2 ^ (53 + x.scale) := (zpow_add₀ two_ne_zero _ _).symm
      _ ≤ 2 ^ (1200 : Int) := zpow_le_zpow_right₀ one_le_two (by omega)
      _ ≤ 10 ^ (400 : Int) := hpower

theorem toBinary64_expansion (hfinite : x.isFinite = true) :
    (expansion x).toBinary64 x.negative = x := by
  by_cases hdigits : (expansion x).digits = 0
  · have hzero : x.isZero = true := by
      rw [← Binary64.value_eq_zero_iff, ← value_expansion, value_eq_zero_iff]
      exact hdigits
    simp [toBinary64, hdigits, Binary64.zero_negative hzero]
  · have hlog := log_value hdigits
    have hpos := value_pos hdigits
    rw [value_expansion] at hlog hpos
    obtain ⟨hlower, hupper⟩ := log_value_bounds hfinite hpos
    have hratio : (((scaleRatio 10 (expansion x).exponent (expansion x).digits 1).1 : ℚ) /
        (scaleRatio 10 (expansion x).exponent (expansion x).digits 1).2) = x.value := by
      change quotient _ = _
      rw [quotient_scaleRatio, Nat.cast_one, div_one]
      exact value_expansion x
    have hlow : ¬ (digitCount (expansion x).digits : Int) + (expansion x).exponent < -400 := by
      omega
    have hhigh : ¬ (digitCount (expansion x).digits : Int) + (expansion x).exponent > 400 := by
      omega
    simp only [toBinary64, hdigits, hlow, hhigh, decide_false, Bool.false_or, Bool.false_eq_true,
      if_false]
    exact Binary64.ofRatio_of_value hfinite (scaleRatio_snd_pos (by decide) Nat.one_pos) hratio

/-- The shortest decimal is the number again. -/
theorem toBinary64_shortest (hfinite : x.isFinite = true) :
    (shortest x).toBinary64 x.negative = x := by
  unfold shortest
  dsimp only
  split
  next d hfound =>
    have hreads := List.find?_some hfound
    rw [toBinary64_congr (value_strip 20 d)]
    simpa using hreads
  next => exact toBinary64_expansion hfinite

end Flowgate.Decimal
