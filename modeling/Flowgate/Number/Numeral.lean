import Flowgate.Number.Decimal
import Flowgate.Text.Blank
import Flowgate.Text.DecimalDigit
import Flowgate.Text.Part

/-! # Numerals

Texts that are read as numbers. Digits may be parted by single underscores, a
sign may stand in front and white space around the numeral. The readers differ
in the digits they know, in the white space they drop and in what may follow the
digits.
-/

namespace Flowgate.Numeral

/-- Digits, of which any two neighbours may be parted by one underscore. -/
def groupedDigits (digit : Char → Option Nat) : List Char → Option (List Nat)
  | [] => none
  | [c] => do return [← digit c]
  | c :: '_' :: rest => do return (← digit c) :: (← groupedDigits digit rest)
  | c :: d :: rest => do return (← digit c) :: (← groupedDigits digit (d :: rest))

/-- The natural with these decimal digits, most significant first. -/
def ofDigits (digits : List Nat) : Nat := digits.foldl (fun n d => n * 10 + d) 0

/-- Split off a sign; the flag says that it is negative. -/
def sign : List Char → Bool × List Char
  | '+' :: rest => (false, rest)
  | '-' :: rest => (true, rest)
  | cs => (false, cs)

/-- The integer of a magnitude and a sign. -/
def applySign (negative : Bool) (n : Nat) : Int := if negative then -n else n

/-- At most this many digits are read as an integer. -/
def digitLimit : Nat := 4300

/-- An integer in the decimal digits of any script. -/
def integer? (s : String) : Option Int := do
  let (negative, cs) := sign (Text.trim Text.isBlank s.toList)
  let digits ← groupedDigits Text.digitValue? cs
  if digits.length ≤ digitLimit then some (applySign negative (ofDigits digits)) else none

/-- Why a text is no whole numeral. -/
inductive Flaw where
  | unreadable
  | tooLong
  deriving DecidableEq, Repr

/-- Drop underscores behind a character that is or is not one; a second underscore in
a row and one at the end are refused. -/
def ungroupBehind (mark : Bool) : List Char → Option (List Char)
  | [] => if mark then none else some []
  | '_' :: rest => if mark then none else ungroupBehind true rest
  | c :: rest => (ungroupBehind false rest).map (c :: ·)

/-- Drop the underscores of a text. None may stand at an end or beside another. -/
def ungroup? (cs : List Char) : Option (List Char) := ungroupBehind true cs

/-- Digits other than zero. -/
def isLeading (c : Char) : Bool := '1' ≤ c && c ≤ '9'

/-- Drop zeros, and underscores among them, up to a leading digit or a minus sign. The
last of them stays in front of a point or at the end; `last` is the one passed. -/
def dropZeros (last : Char) : List Char → Option (List Char)
  | [] => some [last]
  | c :: rest =>
      if c = '0' ∨ c = '_' then dropZeros c rest
      else if isLeading c ∨ c = '-' then some (c :: rest)
      else if c = '.' then some (last :: c :: rest)
      else none

/-- A numeral without the zeros in front of it. -/
def dropLeadingZeros : List Char → Option (List Char)
  | '0' :: rest => dropZeros '0' rest
  | c :: rest => if isLeading c ∨ c = '-' then some (c :: rest) else none
  | [] => none

/-- A numeral without a final fraction of zeros. -/
def dropZeroFraction (cs : List Char) : List Char :=
  match cs.reverse.span (· == '0') with
  | (_ :: _, '.' :: whole) => whole.reverse
  | _ => cs

/-- A natural without leading zeros. -/
def natural : List Char → Except Flaw Nat
  | ['0'] => .ok 0
  | '0' :: _ => .error .unreadable
  | cs =>
      if (cs.takeWhile Char.isDigit).length > digitLimit then .error .tooLong
      else
        match cs.mapM Text.asciiDigit? with
        | some (d :: ds) => .ok (ofDigits (d :: ds))
        | _ => .error .unreadable

/-- An integer without leading zeros. Its sign counts as a digit for the limit. -/
def minusNatural : List Char → Except Flaw Int
  | '-' :: cs =>
      if (cs.takeWhile Char.isDigit).length = digitLimit then .error .tooLong
      else (natural cs).map fun n => -n
  | cs => (natural cs).map fun n => n

/-- An integer in ASCII digits; a fraction of zeros may follow. One plus sign and zeros
in front are dropped, and a minus sign may stand behind those zeros. -/
def whole (s : String) : Except Flaw Int :=
  let cs := Text.trim Text.isBlank s.toList
  let unsigned := match cs with
    | '+' :: '-' :: _ => none
    | '+' :: rest => some rest
    | cs => some cs
  match unsigned.bind fun cs => (dropLeadingZeros cs).bind (ungroup? ∘ dropZeroFraction) with
  | some digits => minusNatural digits
  | none => .error .unreadable

/-- A positional decimal with an optional exponent: digits on one side of the
point at least. -/
def decimal? (cs : List Char) : Option Decimal := do
  let (mantissa, power) := Text.cutAt (fun c => c == 'e' || c == 'E') cs
  let (whole, fraction) := Text.cutAt (· == '.') mantissa
  let whole ← whole.mapM Text.asciiDigit?
  let fraction ← (fraction.getD []).mapM Text.asciiDigit?
  if whole.isEmpty && fraction.isEmpty then none
  let exponent ← match power with
    | none => some 0
    | some cs =>
        let (negative, cs) := sign cs
        if cs.isEmpty then none
        else (cs.mapM Text.asciiDigit?).map fun digits => applySign negative (ofDigits digits)
  return ⟨ofDigits (whole ++ fraction), exponent - fraction.length⟩

/-- A signed decimal, an infinity or a not-a-number, the words in any case. -/
def signedReal? (cs : List Char) : Option Binary64 :=
  let (negative, cs) := sign cs
  let word := String.ofList (cs.map Char.toLower)
  if word = "inf" ∨ word = "infinity" then some (.infinity negative)
  else if word = "nan" then some .nan
  else (decimal? cs).map (·.toBinary64 negative)

/-- A number. White space around it is dropped; underscores are dropped only where no
white space stands around the numeral. -/
def real? (s : String) : Option Binary64 :=
  signedReal? (Text.trim Text.isBlank s.toList) <|> (ungroup? s.toList).bind signedReal?

end Flowgate.Numeral
