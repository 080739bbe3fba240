import Flowgate.Number.Binary64

/-! # Decimals that stand for binary numbers

A decimal is a natural times a power of ten. Reading one gives the nearest
binary number. Writing a binary number takes the decimal with the fewest digits
that reads back to it, and of several the one nearest to the exact value.
-/

namespace Flowgate

/-- The number `digits * 10 ^ exponent`. -/
structure Decimal where
  digits : Nat
  exponent : Int
  deriving DecidableEq, Repr

namespace Decimal

/-- The decimal digits of a natural, most significant first. -/
def digitCount (n : Nat) : Nat := (Nat.toDigits 10 n).length

/-- Remove final zeros of the digits; the fuel bounds how many. -/
def strip : Nat → Decimal → Decimal
  | 0, d => d
  | fuel + 1, d =>
      if d.digits ≠ 0 ∧ d.digits % 10 = 0 then strip fuel ⟨d.digits / 10, d.exponent + 1⟩ else d

/-- The binary number nearest to a decimal. Numbers far outside the range are
settled by their order of magnitude, so that no huge power is computed. -/
def toBinary64 (negative : Bool) (d : Decimal) : Binary64 :=
  let order : Int := digitCount d.digits + d.exponent
  if d.digits = 0 || order < -400 then .zero negative
  else if order > 400 then .infinity negative
  else
    let (n, k) := scaleRatio 10 d.exponent d.digits 1
    .ofRatio negative n k

/-- The exact value of a finite binary number. -/
def expansion (x : Binary64) : Decimal :=
  match x.scale with
  | .ofNat up => ⟨x.significand * Nat.pow 2 up, 0⟩
  | .negSucc down => ⟨x.significand * Nat.pow 5 (down + 1), -(down + 1 : Nat)⟩

/-- The decimals of `count` digits just below and just above `d`, the nearer
first and of two equally near the even one first. -/
def neighbours (count : Nat) (d : Decimal) : List Decimal :=
  let drop := digitCount d.digits - count
  let unit := Nat.pow 10 drop
  let low : Decimal := ⟨d.digits / unit, d.exponent + drop⟩
  let high : Decimal := ⟨d.digits / unit + 1, d.exponent + drop⟩
  if roundHalfEven d.digits unit = low.digits then [low, high] else [high, low]

/-- The fewest digits that read back to a finite number. Seventeen suffice; the
exact expansion stands behind them so that the answer always reads back. -/
def shortest (x : Binary64) : Decimal :=
  let whole := expansion x
  let candidates := (List.range 17).flatMap fun i => neighbours (i + 1) whole
  match candidates.find? fun d => d.toBinary64 x.negative = x with
  | some d => strip 20 d
  | none => whole

end Decimal

end Flowgate
