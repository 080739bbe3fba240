/-! # Parts of a text

A text is cut in two at a mark or split at every one, and what stands at its ends is
dropped. The characters that matter are given as an argument.
-/

namespace Flowgate.Text

/-- The characters before the first one of a set, and those behind it, if there is
such a character. -/
def cutAt (p : Char → Bool) (cs : List Char) : List Char × Option (List Char) :=
  match cs.dropWhile (!p ·) with
  | [] => (cs, none)
  | _ :: rest => (cs.takeWhile (!p ·), some rest)

/-- The parts of a text between the characters of a set, one more than there are of
them. -/
def splitAt (p : Char → Bool) : List Char → List (List Char)
  | [] => [[]]
  | c :: rest =>
      if p c then [] :: splitAt p rest
      else
        match splitAt p rest with
        | part :: parts => (c :: part) :: parts
        | [] => [[c]]

/-- Drop the characters of a set from the end of a list. -/
def dropLastWhile (p : Char → Bool) (cs : List Char) : List Char :=
  (cs.reverse.dropWhile p).reverse

/-- Drop the characters of a set from both ends of a list. -/
def trim (p : Char → Bool) (cs : List Char) : List Char := dropLastWhile p (cs.dropWhile p)

/-- Drop every final slash. -/
def dropSlashes (s : String) : String := String.ofList (dropLastWhile (· == '/') s.toList)

end Flowgate.Text
