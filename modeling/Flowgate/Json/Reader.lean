import Flowgate.Json.Basic
import Flowgate.Number.Numeral
import Flowgate.Text.Hex

/-! # Reading Json

A reader takes a value from the front of a text and returns what follows it. Its
language is Json with the words `NaN`, `Infinity` and `-Infinity`. A number with
a point or an exponent is a floating point number. Of two fields with one key
the later value stays, at the place of the earlier.

The readers of nested values count down a bound. Each of their steps is paid for
by a character, twice at most, so twice the length of the text is enough.
-/

namespace Flowgate.Json

/-- Blanks between tokens. -/
def isGap (c : Char) : Bool := c == ' ' || c == '\t' || c == '\n' || c == '\r'

/-- The text behind leading blanks. -/
def skipGap (cs : List Char) : List Char := cs.dropWhile isGap

/-- The value of four hexadecimal digits. -/
def hexUnit? (a b c d : Char) : Option Nat := do
  let digits ← [a, b, c, d].mapM Text.hexValue?
  return digits.foldl (fun n digit => n * 16 + digit) 0

/-- The first unit of a pair. -/
def isHighSurrogate (unit : Nat) : Bool := 0xD800 ≤ unit && unit < 0xDC00

/-- The second unit of a pair. -/
def isLowSurrogate (unit : Nat) : Bool := 0xDC00 ≤ unit && unit < 0xE000

/-- The character of a pair of surrogates. -/
def pairChar (high low : Nat) : Char :=
  Char.ofNat (0x10000 + (high - 0xD800) * 0x400 + (low - 0xDC00))

/-- The character of a short escape. -/
def ofShortEscape? (c : Char) : Option Char :=
  if c = '"' then some '"'
  else if c = '\\' then some '\\'
  else if c = '/' then some '/'
  else if c = 'n' then some '\n'
  else if c = 'r' then some '\r'
  else if c = 't' then some '\t'
  else if c = 'b' then some '\x08'
  else if c = 'f' then some '\x0c'
  else none

/-- Read a text behind its opening quote. The characters read are gathered last first. A
surrogate without its partner is no character, and a text that spells one is not read. -/
def readText (gathered : List Char) : List Char → Option (String × List Char)
  | [] => none
  | '"' :: rest => some (String.ofList gathered.reverse, rest)
  | '\\' :: 'u' :: a :: b :: c :: d :: rest =>
      match hexUnit? a b c d with
      | none => none
      | some unit =>
          if isHighSurrogate unit then
            match rest with
            | '\\' :: 'u' :: a :: b :: c :: d :: rest =>
                match hexUnit? a b c d with
                | some low =>
                    if isLowSurrogate low then readText (pairChar unit low :: gathered) rest
                    else none
                | none => none
            | _ => none
          else if isLowSurrogate unit then none
          else readText (Char.ofNat unit :: gathered) rest
  | '\\' :: e :: rest =>
      match ofShortEscape? e with
      | some c => readText (c :: gathered) rest
      | none => none
  | c :: rest => if c.toNat < 0x20 ∨ c = '\\' then none else readText (c :: gathered) rest

/-- Digits from the front of a text. -/
def spanDigits (cs : List Char) : List Char × List Char := cs.span Char.isDigit

/-- The digits before a point: a zero stands alone. -/
def readWhole : List Char → Option (List Char × List Char)
  | '0' :: rest => some (['0'], rest)
  | cs =>
      match spanDigits cs with
      | ([], _) => none
      | (digits, rest) => some (digits, rest)

/-- A point and digits, if both are there. -/
def readFraction : List Char → List Char × List Char
  | '.' :: cs =>
      match spanDigits cs with
      | ([], _) => ([], '.' :: cs)
      | (digits, rest) => (digits, rest)
  | cs => ([], cs)

/-- An exponent mark, an optional sign and digits, if all are there. -/
def readExponent (cs : List Char) : Option (Bool × List Char) × List Char :=
  match cs with
  | mark :: tail =>
      if mark = 'e' ∨ mark = 'E' then
        let (negative, afterSign) := Numeral.sign tail
        match spanDigits afterSign with
        | ([], _) => (none, cs)
        | (digits, rest) => (some (negative, digits), rest)
      else (none, cs)
  | [] => (none, cs)

/-- The natural of ASCII digits. -/
def digitsValue (digits : List Char) : Nat :=
  digits.foldl (fun n c => n * 10 + (c.toNat - '0'.toNat)) 0

/-- The number of its parts. Integers have a limited count of digits. -/
def numberOf (negative : Bool) (whole fraction : List Char)
    (exponent : Option (Bool × List Char)) : Option Json :=
  if fraction.isEmpty ∧ exponent.isNone then
    if whole.length ≤ Numeral.digitLimit then
      some (int (Numeral.applySign negative (digitsValue whole)))
    else none
  else
    let power : Int := match exponent with
      | some (down, digits) => Numeral.applySign down (digitsValue digits)
      | none => 0
    let decimal : Decimal := ⟨digitsValue (whole ++ fraction), power - fraction.length⟩
    some (float (decimal.toBinary64 negative))

/-- Read a number. -/
def readNumber (cs : List Char) : Option (Json × List Char) := do
  let (negative, cs) := match cs with
    | '-' :: rest => (true, rest)
    | _ => (false, cs)
  let (whole, cs) ← readWhole cs
  let (fraction, cs) := readFraction cs
  let (exponent, cs) := readExponent cs
  return (← numberOf negative whole fraction exponent, cs)

/-- The rest of a text behind a word. -/
def dropWord? (word : List Char) (cs : List Char) : Option (List Char) :=
  if word.isPrefixOf cs then some (cs.drop word.length) else none

/-- The words that stand for values. -/
def words : List (List Char × Json) := [
  (['n', 'u', 'l', 'l'], null), (['t', 'r', 'u', 'e'], bool true),
  (['f', 'a', 'l', 's', 'e'], bool false), (['N', 'a', 'N'], float .nan),
  ("Infinity".toList, float (.infinity false)), ("-Infinity".toList, float (.infinity true))]

/-- Read a word or a number. -/
def readScalar (cs : List Char) : Option (Json × List Char) :=
  match words.findSome? fun (word, v) => (dropWord? word cs).map (v, ·) with
  | some read => some read
  | none => readNumber cs

mutual

/-- Read a value that begins at once. -/
def readValue : Nat → List Char → Option (Json × List Char)
  | 0, _ => none
  | fuel + 1, cs =>
      match cs with
      | '"' :: rest => (readText [] rest).map fun (s, rest) => (str s, rest)
      | '[' :: rest =>
          match skipGap rest with
          | ']' :: rest => some (arr [], rest)
          | rest => (readItems fuel rest).map fun (items, rest) => (arr items, rest)
      | '{' :: rest =>
          match skipGap rest with
          | '}' :: rest => some (obj [], rest)
          | rest => (readFields fuel [] rest).map fun (fields, rest) => (obj fields, rest)
      | cs => readScalar cs

/-- Read the items of a list, up to its closing bracket. -/
def readItems : Nat → List Char → Option (List Json × List Char)
  | 0, _ => none
  | fuel + 1, cs => do
      let (v, rest) ← readValue fuel cs
      match skipGap rest with
      | ']' :: rest => some ([v], rest)
      | ',' :: rest =>
          let (items, rest) ← readItems fuel (skipGap rest)
          some (v :: items, rest)
      | _ => none

/-- Read the fields of an object, up to its closing brace, behind the fields that
were read before them. -/
def readFields : Nat → List (String × Json) → List Char → Option (List (String × Json) × List Char)
  | 0, _, _ => none
  | fuel + 1, fields, cs =>
      match cs with
      | '"' :: rest => do
          let (key, rest) ← readText [] rest
          match skipGap rest with
          | ':' :: rest =>
              let (v, rest) ← readValue fuel (skipGap rest)
              let fields := setField key v fields
              match skipGap rest with
              | '}' :: rest => some (fields, rest)
              | ',' :: rest => readFields fuel fields (skipGap rest)
              | _ => none
          | _ => none
      | _ => none

end

/-- The value that a whole text denotes. -/
def parse? (cs : List Char) : Option Json :=
  match readValue (2 * cs.length + 2) (skipGap cs) with
  | some (v, rest) => if (skipGap rest).isEmpty then some v else none
  | none => none

end Flowgate.Json
