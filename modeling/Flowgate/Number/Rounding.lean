/-! # Rounding quotients

A quotient of naturals is rounded to the nearest natural, and a quotient that
lies halfway between two naturals goes to the even one. Every rounded number of
the library, in base two or in base ten, is rounded here.
-/

namespace Flowgate

/-- The natural nearest to `num / den`, a half going to the even neighbour. -/
def roundHalfEven (num den : Nat) : Nat :=
  let low := num / den
  match compare (2 * (num % den)) den with
  | .lt => low
  | .gt => low + 1
  | .eq => if low % 2 = 0 then low else low + 1

/-- Rounding moves a quotient by half a unit at most. -/
theorem roundHalfEven_near (num den : Nat) (hden : 0 < den) :
    2 * (roundHalfEven num den * den) ≤ 2 * num + den ∧
      2 * num ≤ 2 * (roundHalfEven num den * den) + den := by
  have hsplit : den * (num / den) + num % den = num := Nat.div_add_mod num den
  have hsucc : (num / den + 1) * den = den * (num / den) + den := by
    rw [Nat.add_mul, Nat.mul_comm, Nat.one_mul]
  have hcomm : num / den * den = den * (num / den) := Nat.mul_comm ..
  have hlt : num % den < den := Nat.mod_lt _ hden
  simp only [roundHalfEven]
  split
  · rename_i h; rw [Nat.compare_eq_lt] at h; omega
  · rename_i h; rw [Nat.compare_eq_gt] at h; omega
  · rename_i h; rw [Nat.compare_eq_eq] at h; split <;> omega

/-- Shift a quotient by a power of a base, as two naturals. -/
def scaleRatio (base : Nat) (exponent : Int) (num den : Nat) : Nat × Nat :=
  match exponent with
  | .ofNat up => (num * base.pow up, den)
  | .negSucc down => (num, den * base.pow (down + 1))

end Flowgate
