import Flowgate.Text.Hex

/-! # Texts in ASCII

Some places hold nothing but ASCII. A text that does not fit is refused with the place
of its first characters that are no part of it.
-/

namespace Flowgate.Text

/-- Whether a character is no part of ASCII. -/
def isForeign (c : Char) : Bool := c.toNat ≥ 0x80

/-- Whether a text holds nothing but ASCII. -/
def isAscii (s : String) : Bool := !s.toList.any isForeign

/-- Where the first characters stand that are no part of ASCII, and which they are. -/
def firstForeign (s : String) : Nat × List Char :=
  let cs := s.toList
  ((cs.takeWhile (!isForeign ·)).length, (cs.dropWhile (!isForeign ·)).takeWhile isForeign)

/-- What is said about a text that is not in ASCII. -/
def asciiRefusal (s : String) : String :=
  let (position, foreign) := firstForeign s
  let place := match foreign with
    | [c] => s!"character '{String.ofList (escaped c)}' in position {position}"
    | _ => s!"characters in position {position}-{position + foreign.length - 1}"
  s!"'ascii' codec can't encode {place}: ordinal not in range(128)"

end Flowgate.Text
