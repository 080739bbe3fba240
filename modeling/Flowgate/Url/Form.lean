import Flowgate.Url.Percent

/-! # Form encoding

The parameters of a query are pairs of a name and a value. A space is written as
a plus sign and every other character that has a meaning of its own is percent
encoded, so no name or value can be taken for a part of the form.
-/

namespace Flowgate.Url

/-- One character of a name or a value. -/
def formChar (c : Char) : List Char :=
  if c = ' ' then ['+'] else if isUnreserved c then [c] else percentChar c

/-- A name or a value, encoded. -/
def formText (s : String) : List Char := s.toList.flatMap formChar

/-- A name and its value. -/
def formPair (pair : String × String) : List Char := formText pair.1 ++ '=' :: formText pair.2

/-- Pairs in order, parted by ampersands. -/
def formEncode : List (String × String) → List Char
  | [] => []
  | [pair] => formPair pair
  | pair :: rest => formPair pair ++ '&' :: formEncode rest

end Flowgate.Url
