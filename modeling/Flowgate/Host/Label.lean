import Flowgate.Host.Joining
import Flowgate.Host.Letter
import Flowgate.Host.Punycode
import Flowgate.Text.Composition
import Flowgate.Text.Part

/-! # Labels

The parts of a host name. A label holds letters, digits and hyphens in their one
spelling, some other characters only between certain neighbours. In a request it is
written in ASCII.
-/

namespace Flowgate.Host

open Text (inRanges)

/-- The letters of the Greek script. -/
def greekRanges : List (Nat × Nat) := [
  (0x371, 0x3e1), (0x3f3, 0x3fc), (0x1d26, 0x1d2a), (0x1f00, 0x1ff6), (0xab65, 0xab65)]

/-- The letters of the Hebrew script. -/
def hebrewRanges : List (Nat × Nat) := [(0x591, 0x5f4), (0xfb1e, 0xfb1e)]

/-- The characters of the scripts that Japanese is written in. -/
def japaneseRanges : List (Nat × Nat) := [
  (0x3005, 0x3005), (0x3007, 0x3007), (0x3041, 0x3096), (0x309d, 0x309e), (0x30a1, 0x30fa),
  (0x30fd, 0x30fe), (0x31f0, 0x31ff), (0x3400, 0x9fff), (0xfa0e, 0xfa29), (0x16fe3, 0x16fe3),
  (0x16ff0, 0x16ff1), (0x1aff0, 0x1b122), (0x1b150, 0x1b167), (0x20000, 0x3134a)]

/-- The class of the accents that take the vowel from a letter. -/
def vowelKiller : Nat := 9

/-- Whether a character may stand between its neighbours in a label. `before` holds the
characters before it, nearest first. -/
def suits (before : List Char) (c : Char) (after : List Char) : Bool :=
  if isLetter c then true
  else
    match c.toNat with
    | 0x200c => before.head?.any (Text.combiningClass · == vowelKiller) || wouldJoin before after
    | 0x200d => before.head?.any (Text.combiningClass · == vowelKiller)
    | 0xb7 => before.head? == some 'l' && after.head? == some 'l'
    | 0x375 => after.head?.any (inRanges greekRanges)
    | 0x5f3 | 0x5f4 => before.head?.any (inRanges hebrewRanges)
    | 0x30fb => (before ++ after).any (inRanges japaneseRanges)
    | n =>
        if 0x660 ≤ n ∧ n ≤ 0x669 then !(before ++ after).any (inRanges [(0x6f0, 0x6f9)])
        else if 0x6f0 ≤ n ∧ n ≤ 0x6f9 then !(before ++ after).any (inRanges [(0x660, 0x669)])
        else false

/-- Whether every character suits its neighbours; `before` holds those passed. -/
def allSuit (before : List Char) : List Char → Bool
  | [] => true
  | c :: rest => suits before c rest && allSuit (c :: before) rest

/-- Hyphens stand at neither end, nor both in the third and the fourth place, which
marks labels written in ASCII. -/
def hyphensFit (label : List Char) : Bool :=
  label.head? != some '-' && label.getLast? != some '-' && (label.drop 2).take 2 != ['-', '-']

/-- Whether a text is a label. -/
def isLabel (label : List Char) : Bool :=
  !label.isEmpty && Text.canonical label == label && hyphensFit label &&
    !label.head?.any isMark && allSuit [] label && keepsDirection label

/-- The mark of labels that are written in ASCII. -/
def asciiMark : List Char := ['x', 'n', '-', '-']

/-- The longest label in ASCII. -/
def labelLimit : Nat := 63

/-- A label in ASCII, if it is one. A label that is written in ASCII already must stand
for a label. -/
def labelToAscii? (label : List Char) : Option (List Char) :=
  let ascii :=
    if label.any (·.toNat ≥ 0x80) then
      if isLabel label then some (asciiMark ++ Punycode.encode label) else none
    else if asciiMark.isPrefixOf label then
      let written := label.drop 4
      if written.isEmpty || written.getLast? == some '-' then none
      else (Punycode.decode? written).bind fun l => if isLabel l then some label else none
    else if isLabel label then some label else none
  ascii.filter (·.length ≤ labelLimit)

/-- The characters that part labels. -/
def isDot (c : Char) : Bool := [0x2e, 0x3002, 0xff0e, 0xff61].contains c.toNat

/-- The longest name in ASCII, apart from a final dot. -/
def nameLimit : Nat := 253

/-- A host name in ASCII, if it is one. One final dot is kept. -/
def nameToAscii? (name : List Char) : Option (List Char) := do
  if name.length > nameLimit + 1 then none
  let labels := Text.splitAt isDot name
  let final := labels.length > 1 && labels.getLast? == some []
  let labels ← (if final then labels.dropLast else labels).mapM labelToAscii?
  let ascii := ['.'].intercalate labels
  if ascii.length ≤ nameLimit then some (if final then ascii ++ ['.'] else ascii) else none

end Flowgate.Host
