import Flowgate.Text.DecimalDigit

/-! # Labels in ASCII

A text of any characters is written in letters, digits and hyphens: its ASCII
characters first, and behind a hyphen the others as a list of distances. A distance
tells how many places and code points lie between one insertion and the next. It is
written in digits to the base 36, the least first, and the weight of every digit adapts
to the distances before.
-/

namespace Flowgate.Host.Punycode

/-- The digit of a value below 36: a letter or, from 26 on, a decimal digit. -/
def digitChar (value : Nat) : Char :=
  if value < 26 then Char.ofNat (0x61 + value) else Char.ofNat (0x30 + (value - 26))

/-- The value of a digit. -/
def digitValue? (c : Char) : Option Nat :=
  if c.isLower then some (c.toNat - 0x61)
  else if c.isUpper then some (c.toNat - 0x41)
  else (Text.asciiDigit? c).map (· + 26)

/-- The least value of the digit at a place that is not the last; places count from
zero. -/
def threshold (bias place : Nat) : Nat := max 1 (min 26 (36 * (place + 1) - bias))

theorem threshold_pos (bias place : Nat) : 0 < threshold bias place := by
  unfold threshold; omega

/-- Bring a distance into the range where one digit more does not help, counting the
digits that this takes. -/
def damp (distance steps : Nat) : Nat × Nat :=
  if 455 < distance then damp (distance / 35) (steps + 36) else (distance, steps)
termination_by distance
decreasing_by exact Nat.div_lt_self (by omega) (by omega)

/-- The bias after a distance; `count` characters stand there now. The first distance is
the longest and weighs least. -/
def adapt (distance count : Nat) (isFirst : Bool) : Nat :=
  let distance := if isFirst then distance / 700 else distance / 2
  let (distance, steps) := damp (distance + distance / count) 0
  steps + 36 * distance / (distance + 38)

/-- The digits of a distance from a place on. -/
def digits (bias place distance : Nat) : List Char :=
  let least := threshold bias place
  if distance < least then [digitChar distance]
  else
    digitChar (least + (distance - least) % (36 - least)) ::
      digits bias (place + 1) ((distance - least) / (36 - least))
termination_by distance
decreasing_by
  have := threshold_pos bias place
  exact Nat.lt_of_le_of_lt (Nat.div_le_self _ _) (by omega)

/-- What was written so far: the distances, the places passed since the last one, the
bias, and how many characters stand there. -/
structure Writer where
  written : List Char
  distance : Nat
  bias : Nat
  count : Nat

/-- Pass one character while those of a code point are inserted. -/
def Writer.pass (basic code : Nat) (w : Writer) (c : Char) : Writer :=
  if c.toNat < code then { w with distance := w.distance + 1 }
  else if c.toNat = code then
    { written := w.written ++ digits w.bias 0 w.distance
      distance := 0
      bias := adapt w.distance (w.count + 1) (w.count == basic)
      count := w.count + 1 }
  else w

/-- Insert the characters of ascending code points; those below `reached` are there. -/
def insertCodes (cs : List Char) (basic reached : Nat) (w : Writer) : List Nat → Writer
  | [] => w
  | code :: codes =>
      let w := { w with distance := w.distance + (code - reached) * (w.count + 1) }
      let w := cs.foldl (Writer.pass basic code) w
      insertCodes cs basic (code + 1) { w with distance := w.distance + 1 } codes

/-- A text in ASCII. -/
def encode (cs : List Char) : List Char :=
  let basic := cs.filter (·.toNat < 0x80)
  let codes := ((cs.map Char.toNat).filter (0x80 ≤ ·)).eraseDups.mergeSort
  let w := insertCodes cs basic.length 0x80 ⟨[], 0, 72, basic.length⟩ codes
  basic ++ (if basic.isEmpty then [] else ['-']) ++ w.written

/-- Read a distance from a place on: the digits so far are worth `value`, and the next
one weighs `weight`. -/
def readDistance (bias place weight value : Nat) : List Char → Option (Nat × List Char)
  | [] => none
  | c :: rest =>
      match digitValue? c with
      | none => none
      | some d =>
          let least := threshold bias place
          let value := value + d * weight
          if d < least then some (value, rest)
          else readDistance bias (place + 1) (weight * (36 - least)) value rest

/-- Insert characters at the distances of a text. `code` is the code point reached and
`place` the place behind the last insertion; the bound counts distances. -/
def insertDistances (bias code place : Nat) (isFirst : Bool) (cs : List Char) :
    Nat → List Char → Option (List Char)
  | 0, _ => none
  | _ + 1, [] => some cs
  | fuel + 1, text =>
      match readDistance bias 0 1 0 text with
      | none => none
      | some (distance, rest) =>
          let passed := place + distance
          let code := code + passed / (cs.length + 1)
          let place := passed % (cs.length + 1)
          if code > 0x10ffff then none
          else
            insertDistances (adapt distance (cs.length + 1) isFirst) code (place + 1) false
              (cs.take place ++ Char.ofNat code :: cs.drop place) fuel rest

/-- The text that was written in ASCII. The last hyphen stands behind the characters
that were ASCII before. -/
def decode? (cs : List Char) : Option (List Char) :=
  let (distances, basic) := cs.reverse.span (· != '-')
  insertDistances 72 0x80 0 true (basic.drop 1).reverse (cs.length + 1) distances.reverse

end Flowgate.Host.Punycode
