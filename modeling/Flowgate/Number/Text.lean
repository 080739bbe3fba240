import Flowgate.Number.Decimal

/-! # Numbers as text

A floating point number is written with the digits of its shortest decimal:
positionally while the exponent of the leading digit lies in a given range, and
otherwise with a signed exponent. One record holds the choices of the format.
-/

namespace Flowgate

/-- How the digits of a number are laid out. -/
structure NumberFormat where
  /-- Least exponent of the leading digit that is still written positionally. -/
  plainFrom : Int
  /-- First exponent of the leading digit that is no longer written positionally. -/
  plainBelow : Int
  /-- Least number of digits of a written exponent. -/
  exponentWidth : Nat
  nan : String
  infinity : String

namespace NumberFormat

/-- Pad digits on the left with zeros. -/
def padZeros (width : Nat) (digits : String) : String :=
  String.ofList (List.replicate (width - digits.length) '0') ++ digits

/-- Digits with a point after the first `point` of them, filled up by zeros on
either side; a whole number keeps one digit behind the point. -/
def positional (digits : List Char) (point : Int) : String :=
  match point with
  | .ofNat (before + 1) =>
      let whole := digits.take (before + 1)
      let rest := digits.drop (before + 1)
      String.ofList (whole ++ List.replicate (before + 1 - whole.length) '0') ++ "." ++
        (if rest.isEmpty then "0" else String.ofList rest)
  | .ofNat 0 => "0." ++ String.ofList digits
  | .negSucc lead => "0." ++ String.ofList (List.replicate (lead + 1) '0' ++ digits)

/-- One digit, the other digits behind a point, and a signed exponent. -/
def scientific (f : NumberFormat) (digits : List Char) (exponent : Int) : String :=
  let rest := digits.drop 1
  String.ofList (digits.take 1) ++
    (if rest.isEmpty then "" else "." ++ String.ofList rest) ++ "e" ++
    (if exponent < 0 then "-" else "+") ++ padZeros f.exponentWidth (toString exponent.natAbs)

/-- The text of a decimal without its sign. -/
def layout (f : NumberFormat) (d : Decimal) : String :=
  let digits := Nat.toDigits 10 d.digits
  let leading : Int := digits.length + d.exponent - 1
  if d.digits = 0 then "0.0"
  else if f.plainFrom ≤ leading ∧ leading < f.plainBelow then positional digits (leading + 1)
  else f.scientific digits leading

/-- The text of a number. Negative zero keeps its sign; not-a-number has none. -/
def render (f : NumberFormat) (x : Binary64) : String :=
  if x.isNaN then f.nan
  else (if x.negative then "-" else "") ++
    if x.isInfinite then f.infinity else f.layout (Decimal.shortest x)

end NumberFormat

namespace Binary64

/-- Numbers inside messages and query strings. -/
def plainFormat : NumberFormat := ⟨-4, 16, 2, "nan", "inf"⟩

/-- The text of a number inside messages and query strings. -/
def toText (x : Binary64) : String := plainFormat.render x

end Binary64

end Flowgate
