import Flowgate.Proofs.Number.Sign
import Mathlib.Data.Int.Log
import Mathlib.Data.Nat.Log
import Mathlib.Data.Rat.Floor
import Mathlib.Tactic.FieldSimp
import Mathlib.Tactic.Linarith
import Mathlib.Tactic.Positivity
import Mathlib.Tactic.Ring

/-! # Numbers of quotients

A quotient of naturals is rounded by the rational that it is, whichever numerator and
denominator stand for it.
-/

namespace Flowgate

/-! ## Scaled quotients -/

/-- The rational that two naturals stand for. -/
def quotient (ratio : Nat × Nat) : ℚ := ratio.1 / ratio.2

section Scaling

variable {base num den : Nat} {exponent : Int}

theorem quotient_scaleRatio :
    quotient (scaleRatio base exponent num den) = num / den * (base : ℚ) ^ exponent := by
  cases exponent with
  | ofNat up =>
      simp only [quotient, scaleRatio, Nat.pow_eq, Nat.cast_mul, Nat.cast_pow, Int.ofNat_eq_natCast,
        zpow_natCast]
      ring
  | negSucc down =>
      simp only [quotient, scaleRatio, Nat.pow_eq, Nat.cast_mul, Nat.cast_pow, zpow_negSucc]
      rw [← div_div]
      rfl

theorem scaleRatio_snd_pos (hbase : 0 < base) (hden : 0 < den) :
    0 < (scaleRatio base exponent num den).2 := by
  cases exponent with
  | ofNat up => exact hden
  | negSucc down => exact Nat.mul_pos hden (Nat.pow_pos hbase)

end Scaling

/-! ## Rounding -/

theorem compare_mul_left {factor : Nat} (hfactor : 0 < factor) (a b : Nat) :
    compare (factor * a) (factor * b) = compare a b := by
  rcases Nat.lt_trichotomy a b with h | rfl | h
  · rw [Nat.compare_eq_lt.mpr h, Nat.compare_eq_lt.mpr (Nat.mul_lt_mul_of_pos_left h hfactor)]
  · rw [Nat.compare_eq_eq.mpr rfl, Nat.compare_eq_eq.mpr rfl]
  · rw [Nat.compare_eq_gt.mpr h, Nat.compare_eq_gt.mpr (Nat.mul_lt_mul_of_pos_left h hfactor)]

theorem roundHalfEven_mul_left {factor num den : Nat} (hfactor : 0 < factor) :
    roundHalfEven (factor * num) (factor * den) = roundHalfEven num den := by
  simp only [roundHalfEven, Nat.mul_div_mul_left _ _ hfactor, Nat.mul_mod_mul_left,
    Nat.mul_left_comm 2 factor, compare_mul_left hfactor]

/-- Equal quotients are rounded alike. -/
theorem roundHalfEven_congr {num den num' den' : Nat} (hden : 0 < den) (hden' : 0 < den')
    (h : (num / den : ℚ) = num' / den') : roundHalfEven num den = roundHalfEven num' den' := by
  have hcross : num * den' = num' * den := by
    rw [div_eq_div_iff (by positivity) (by positivity)] at h
    exact_mod_cast h
  calc
    roundHalfEven num den = roundHalfEven (den' * num) (den' * den) :=
      (roundHalfEven_mul_left hden').symm
    _ = roundHalfEven (den * num') (den * den') := by
      rw [Nat.mul_comm den' num, hcross, Nat.mul_comm num' den, Nat.mul_comm den' den]
    _ = roundHalfEven num' den' := roundHalfEven_mul_left hden

/-- A natural is not rounded. -/
theorem roundHalfEven_of_eq {num den m : Nat} (hden : 0 < den) (h : (num / den : ℚ) = m) :
    roundHalfEven num den = m := by
  have hwhole : (num / den : ℚ) = (m : Nat) / (1 : Nat) := by simpa using h
  rw [roundHalfEven_congr hden Nat.one_pos hwhole]
  have hcompare : compare (2 * (m % 1)) 1 = .lt := Nat.compare_eq_lt.mpr (by omega)
  simp [roundHalfEven, hcompare]

namespace Binary64

/-- The lengths of two naturals leave two logarithms for their quotient. -/
theorem log_quotient {num den : Nat} (hnum : 0 < num) (hden : 0 < den) :
    (num.log2 - den.log2 - 1 : Int) ≤ Int.log 2 (num / den : ℚ) ∧
      Int.log 2 (num / den : ℚ) < (num.log2 - den.log2 + 1 : Int) := by
  have hq : (0 : ℚ) < num / den := by positivity
  have hnumLow : (2 : ℚ) ^ num.log2 ≤ num := by exact_mod_cast Nat.log2_self_le hnum.ne'
  have hnumHigh : (num : ℚ) < 2 ^ (num.log2 + 1) := by exact_mod_cast Nat.lt_log2_self
  have hdenLow : (2 : ℚ) ^ den.log2 ≤ den := by exact_mod_cast Nat.log2_self_le hden.ne'
  have hdenHigh : (den : ℚ) < 2 ^ (den.log2 + 1) := by exact_mod_cast Nat.lt_log2_self
  constructor
  · rw [← Int.zpow_le_iff_le_log (by decide) hq, Nat.cast_ofNat]
    calc
      (2 : ℚ) ^ (num.log2 - den.log2 - 1 : Int) = 2 ^ num.log2 / 2 ^ (den.log2 + 1) := by
        rw [← zpow_natCast, ← zpow_natCast, ← zpow_sub₀ (by norm_num)]
        congr 1
        push_cast
        omega
      _ ≤ num / den := by gcongr
  · rw [← Int.lt_zpow_iff_log_lt (by decide) hq, Nat.cast_ofNat]
    calc
      (num / den : ℚ) < 2 ^ (num.log2 + 1) / 2 ^ den.log2 := by gcongr
      _ = 2 ^ (num.log2 - den.log2 + 1 : Int) := by
        rw [← zpow_natCast, ← zpow_natCast, ← zpow_sub₀ (by norm_num)]
        congr 1
        push_cast
        omega

/-- A quotient is scaled to less than all bits of a significand just where its logarithm is
small. -/
theorem scaled_lt_iff {num den : Nat} (hnum : 0 < num) (hden : 0 < den) (low : Int) :
    (scaleRatio 2 (-low) num den).1 / (scaleRatio 2 (-low) num den).2 < 2 * leadingBit ↔
      Int.log 2 (num / den : ℚ) < low + 53 := by
  have hq : (0 : ℚ) < num / den := by positivity
  have hpos : 0 < (scaleRatio 2 (-low) num den).2 := scaleRatio_snd_pos (by decide) hden
  have hnat : (scaleRatio 2 (-low) num den).1 < 2 * leadingBit * (scaleRatio 2 (-low) num den).2 ↔
      quotient (scaleRatio 2 (-low) num den) < 2 ^ (53 : Int) := by
    rw [quotient, div_lt_iff₀ (by exact_mod_cast hpos)]
    norm_cast
  have hpower : (2 : ℚ) ^ (low + 53) = 2 ^ (53 : Int) * 2 ^ low := by
    rw [add_comm, zpow_add₀ (by norm_num)]
  rw [Nat.div_lt_iff_lt_mul hpos, hnat, quotient_scaleRatio, Nat.cast_ofNat, zpow_neg,
    ← div_eq_mul_inv, div_lt_iff₀ (zpow_pos two_pos low), ← hpower]
  exact Int.lt_zpow_iff_log_lt (by decide) hq

/-- The power of two of a positive quotient is told by its logarithm. -/
theorem scaleOf_eq {num den : Nat} (hnum : 0 < num) (hden : 0 < den) :
    scaleOf num den = max (Int.log 2 (num / den : ℚ) - 52) (-1074) := by
  obtain ⟨hlower, hupper⟩ := log_quotient hnum hden
  obtain ⟨low, hlow⟩ : ∃ low : Int, low = num.log2 - den.log2 - 53 := ⟨_, rfl⟩
  have hscaled := scaled_lt_iff hnum hden low
  have hunfold : scaleOf num den = max (if (scaleRatio 2 (-low) num den).1 /
      (scaleRatio 2 (-low) num den).2 < 2 * leadingBit then low else low + 1) (-1074) := by
    rw [hlow]
    rfl
  rw [hunfold]
  split
  next h =>
    rw [hscaled] at h
    congr 1
    omega
  next h =>
    rw [hscaled] at h
    congr 1
    omega

/-- Equal quotients stand for one number. -/
theorem ofRatio_congr {negative : Bool} {num den num' den' : Nat} (hden : 0 < den)
    (hden' : 0 < den') (h : (num / den : ℚ) = num' / den') :
    ofRatio negative num den = ofRatio negative num' den' := by
  have hzero : num = 0 ↔ num' = 0 := by
    have hden₀ : (den : ℚ) ≠ 0 := by exact_mod_cast hden.ne'
    have hden₁ : (den' : ℚ) ≠ 0 := by exact_mod_cast hden'.ne'
    have hiff := congrArg (· = 0) h
    simpa [hden₀, hden₁] using hiff
  by_cases hnum : num = 0
  · rw [hnum, hzero.mp hnum, ofRatio, ofRatio, if_pos rfl, if_pos rfl]
  · have hnum' : num' ≠ 0 := mt hzero.mpr hnum
    have hscale : scaleOf num den = scaleOf num' den' := by
      rw [scaleOf_eq (Nat.pos_of_ne_zero hnum) hden, scaleOf_eq (Nat.pos_of_ne_zero hnum') hden', h]
    have hrounded : roundHalfEven (scaleRatio 2 (-scaleOf num' den') num den).1
          (scaleRatio 2 (-scaleOf num' den') num den).2 =
        roundHalfEven (scaleRatio 2 (-scaleOf num' den') num' den').1
          (scaleRatio 2 (-scaleOf num' den') num' den').2 := by
      apply roundHalfEven_congr (scaleRatio_snd_pos (by decide) hden)
        (scaleRatio_snd_pos (by decide) hden')
      change quotient _ = quotient _
      rw [quotient_scaleRatio, quotient_scaleRatio, h]
    simp only [ofRatio, if_neg hnum, if_neg hnum', hscale, hrounded]

/-! ## Exact quotients -/

variable {x : Binary64}

/-- The rational of a finite number, without its sign. -/
def value (x : Binary64) : ℚ := x.significand * 2 ^ x.scale

theorem value_eq_zero_iff : x.value = 0 ↔ x.isZero = true := by
  have hpower : (2 : ℚ) ^ x.scale ≠ 0 := (zpow_pos two_pos _).ne'
  simp [value, hpower, significand_eq_zero_iff]

theorem significand_lt (x : Binary64) : x.significand < 2 * leadingBit := by
  have hfraction := x.fraction.isLt
  unfold significand
  split <;> omega

/-- A significand of a finite number has its leading bit, or the power of two is the least. -/
theorem scale_cases (hfinite : x.isFinite = true) :
    (x.exponent = 0 ∧ x.significand = x.fraction ∧ x.scale = -1074) ∨
      (x.exponent ≠ 0 ∧ x.significand = leadingBit + x.fraction ∧
        x.scale = x.exponent.val - 1075 ∧ -1074 ≤ x.scale ∧ x.scale ≤ 971) := by
  have hspecial : x.exponent.val ≠ 2047 := fun h => by
    have hexponent : x.exponent = 2047 := Fin.ext h
    simp [isFinite, hexponent] at hfinite
  have hbound := x.exponent.isLt
  by_cases hexponent : x.exponent = 0
  · exact .inl ⟨hexponent, if_pos hexponent, by simp [scale, hexponent]⟩
  · have hpos : x.exponent.val ≠ 0 := fun h => hexponent (Fin.ext h)
    refine .inr ⟨hexponent, if_neg hexponent, ?_, ?_, ?_⟩
    all_goals
      simp only [scale]
      omega

/-- The fields of a finite number are those of its significand and its power of two. -/
theorem ofFields_significand (hfinite : x.isFinite = true) :
    ofFields x.negative x.significand x.scale = x := by
  have hfraction : Fin.ofNat leadingBit x.fraction = x.fraction :=
    Fin.ext (Nat.mod_eq_of_lt x.fraction.isLt)
  rcases scale_cases hfinite with ⟨hexponent, hsignificand, -⟩ |
    ⟨hexponent, hsignificand, hscale, hleast, hmost⟩
  · rw [ofFields, hsignificand, if_pos x.fraction.isLt, hfraction, ← hexponent]
  · have hfield : Fin.ofNat 2048 (x.scale + 1075).toNat = x.exponent := by
      refine Fin.ext ?_
      rw [Fin.val_ofNat, hscale, sub_add_cancel, Int.toNat_natCast]
      exact Nat.mod_eq_of_lt x.exponent.isLt
    rw [ofFields, hsignificand, if_neg (by omega), if_neg (by omega), hfield,
      Nat.add_sub_cancel_left, hfraction]

theorem scaleOf_of_value {num den : Nat} (hfinite : x.isFinite = true) (hnum : 0 < num)
    (hden : 0 < den) (h : (num / den : ℚ) = x.value) : scaleOf num den = x.scale := by
  have hvalue : 0 < x.value := by
    rw [← h]
    positivity
  rw [scaleOf_eq hnum hden, h]
  have hbelow (bound : Nat) (power : Int) (hpower : (bound : ℚ) = 2 ^ power)
      (hlt : x.significand < bound) : Int.log 2 x.value < power + x.scale := by
    rw [← Int.lt_zpow_iff_log_lt (by decide) hvalue, Nat.cast_ofNat, zpow_add₀ (by norm_num),
      ← hpower, value]
    exact mul_lt_mul_of_pos_right (by exact_mod_cast hlt) (zpow_pos two_pos _)
  rcases scale_cases hfinite with ⟨-, hsignificand, hscale⟩ |
    ⟨-, hsignificand, -, hleast, -⟩
  · have hlog := hbelow leadingBit 52 (by norm_num)
      (by rw [hsignificand]; exact x.fraction.isLt)
    omega
  · have hlog := hbelow (2 * leadingBit) 53 (by norm_num) x.significand_lt
    have habove : 52 + x.scale ≤ Int.log 2 x.value := by
      rw [← Int.zpow_le_iff_le_log (by decide) hvalue, Nat.cast_ofNat, zpow_add₀ (by norm_num),
        value]
      refine mul_le_mul_of_nonneg_right ?_ (zpow_pos two_pos _).le
      rw [hsignificand]
      norm_num
    omega

theorem zero_negative (h : x.isZero = true) : zero x.negative = x := by
  rw [isZero, Bool.and_eq_true, beq_iff_eq, beq_iff_eq] at h
  rw [zero, ← h.1, ← h.2]

/-- The quotient of a number is not rounded. -/
theorem ofRatio_of_value {num den : Nat} (hfinite : x.isFinite = true) (hden : 0 < den)
    (h : (num / den : ℚ) = x.value) : ofRatio x.negative num den = x := by
  by_cases hnum : num = 0
  · have hzero : x.isZero = true := by
      rw [← value_eq_zero_iff, ← h, hnum]
      simp
    rw [hnum, ofRatio, if_pos rfl]
    exact zero_negative hzero
  · have hscale := scaleOf_of_value hfinite (Nat.pos_of_ne_zero hnum) hden h
    have hrounded : roundHalfEven (scaleRatio 2 (-x.scale) num den).1
        (scaleRatio 2 (-x.scale) num den).2 = x.significand := by
      refine roundHalfEven_of_eq (scaleRatio_snd_pos (by decide) hden) ?_
      change quotient _ = _
      rw [quotient_scaleRatio, h, value, Nat.cast_ofNat, mul_assoc, ← zpow_add₀ (by norm_num),
        add_neg_cancel, zpow_zero, mul_one]
    simp only [ofRatio, if_neg hnum, hscale, hrounded, if_pos x.significand_lt]
    exact ofFields_significand hfinite

end Binary64

end Flowgate
