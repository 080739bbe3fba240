import Flowgate.Text.Part
import Flowgate.Text.Ranges

/-! # White space

Two sets of white space are in use. `isBlank` is the Unicode property; `isSpace`
adds the four information separators. Each reader names the one that it drops.
-/

namespace Flowgate.Text

/-- The characters with the white space property. -/
def blankRanges : List (Nat × Nat) := [
  (0x9, 0xd), (0x20, 0x20), (0x85, 0x85), (0xa0, 0xa0), (0x1680, 0x1680), (0x2000, 0x200a),
  (0x2028, 0x2029), (0x202f, 0x202f), (0x205f, 0x205f), (0x3000, 0x3000)]

/-- White space. -/
def isBlank (c : Char) : Bool := inRanges blankRanges c

/-- White space, or one of the separators of files, groups, records and units. -/
def isSpace (c : Char) : Bool := isBlank c || inRanges [(0x1c, 0x1f)] c

/-- Drop white space and separators from both ends. -/
def strip (s : String) : String := String.ofList (trim isSpace s.toList)

end Flowgate.Text
