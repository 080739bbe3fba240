import Flowgate.Number.Text

/-! # Numbers with a given count of digits

The exact value of a number is rounded once, halves to even, to a count of places
behind the point or to a count of significant digits. A negative number keeps its
sign even when nothing else is left of it.
-/

namespace Flowgate

namespace Binary64

/-- The three ways to write a rounded number. -/
inductive Style where
  /-- Digits around a point. -/
  | fixed
  /-- One digit, the others behind a point, and an exponent. -/
  | exponent
  /-- Whichever of the two suits the size, without final zeros. -/
  | general
  deriving DecidableEq, Repr

/-- Digits with the last `places` of them behind a point. The point is left out where
nothing stands behind it, unless it is to be kept. -/
def pointed (keepPoint : Bool) (places : Nat) (digits : List Char) : List Char :=
  let whole := digits.take (digits.length - places)
  if places = 0 then if keepPoint then whole ++ ['.'] else whole
  else whole ++ '.' :: digits.drop (digits.length - places)

/-- The magnitude of a finite number with so many places behind the point. -/
def fixedDigits (keepPoint : Bool) (places : Nat) (x : Binary64) : List Char :=
  let (n, d) := x.magnitude
  let rounded := toString (roundHalfEven (n * Nat.pow 10 places) d)
  pointed keepPoint places (NumberFormat.padZeros (places + 1) rounded).toList

/-- The first `count` digits of a finite magnitude, rounded, and the exponent of the
first of them. -/
def leadingDigits (count : Nat) (x : Binary64) : List Char × Int :=
  let whole := Decimal.expansion x
  if whole.digits = 0 then (List.replicate count '0', 0)
  else
    let length := Decimal.digitCount whole.digits
    let leading : Int := length + whole.exponent - 1
    if length ≤ count then
      (Nat.toDigits 10 whole.digits ++ List.replicate (count - length) '0', leading)
    else
      let digits := Nat.toDigits 10 (roundHalfEven whole.digits (Nat.pow 10 (length - count)))
      if digits.length ≤ count then (digits, leading) else (digits.take count, leading + 1)

/-- A signed exponent of two digits at least. -/
def exponentText (exponent : Int) : List Char :=
  'e' :: (if exponent < 0 then '-' else '+') ::
    (NumberFormat.padZeros 2 (toString exponent.natAbs)).toList

/-- Drop final zeros behind the point, and the point if nothing stands behind it. -/
def dropFinalZeros (digits : List Char) : List Char :=
  if '.' ∈ digits then
    match digits.reverse.dropWhile (· == '0') with
    | '.' :: whole => whole.reverse
    | rest => rest.reverse
  else digits

/-- The magnitude of a finite number in a style. -/
def magnitudeText (form : Style) (keepPoint : Bool) (precision : Nat) (x : Binary64) :
    List Char :=
  match form with
  | .fixed => x.fixedDigits keepPoint precision
  | .exponent =>
      let (digits, exponent) := x.leadingDigits (precision + 1)
      pointed keepPoint precision digits ++ exponentText exponent
  | .general =>
      let count := max precision 1
      let (digits, exponent) := x.leadingDigits count
      let trim := if keepPoint then id else dropFinalZeros
      if -4 ≤ exponent ∧ exponent < count then
        trim (x.fixedDigits keepPoint (count - 1 - exponent).toNat)
      else trim (pointed keepPoint (count - 1) digits) ++ exponentText exponent

/-- A number in a style. A not-a-number has no sign. -/
def toStyle (form : Style) (keepPoint : Bool) (precision : Nat) (x : Binary64) : String :=
  if x.isNaN then "nan"
  else (if x.negative then "-" else "") ++
    if x.isInfinite then "inf" else String.ofList (x.magnitudeText form keepPoint precision)

/-- Two places behind the point. -/
def toCents (x : Binary64) : String := x.toStyle .fixed false 2

end Binary64

end Flowgate
