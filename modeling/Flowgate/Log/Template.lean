import Flowgate.Json.Literal
import Flowgate.Number.Places
import Flowgate.Text.DecimalDigit

/-! # Templates

The name of an event may be a template: a text with places that begin with a percent
sign. One value is given to the whole template. It fills the only place, or it is an
object whose fields fill places that name them; a list or an object may also be left
unused.
-/

namespace Flowgate

namespace Log

/-- Why a template could not be filled. -/
inductive TemplateError where
  /-- A place without a value, a value without a place, or a value that does not suit
  its place. -/
  | unsuited
  | missingField (name : String)
  | badLetter (letter : Char) (position : Nat)
  | incomplete
  | incompleteName
  | tooBig (part : String)
  | notANumber
  /-- An infinity where an integer is needed, or a number that is no character. -/
  | outOfRange
  deriving DecidableEq, Repr

/-- What is said about a template that cannot be read or a value that is no number. -/
def TemplateError.message : TemplateError → String
  | unsuited => "value does not suit the template"
  | missingField name => Text.quoted name
  | badLetter letter position =>
      let shown := if '\x1f' ≤ letter ∧ letter < '\x7f' then letter else '?'
      s!"unsupported format character '{shown}' (0x" ++
        String.ofList (Nat.toDigits 16 letter.toNat) ++ s!") at index {position}"
  | incomplete => "incomplete format"
  | incompleteName => "incomplete format key"
  | tooBig part => s!"{part} too big"
  | notANumber => "cannot convert float NaN to integer"
  | outOfRange => "out of range"

namespace Template

/-- How the text of a value is laid out in its place. -/
structure Layout where
  /-- Fill up on the right. -/
  left : Bool := false
  /-- Write the sign of numbers that are not negative: plus or a blank. -/
  plus : Bool := false
  blank : Bool := false
  /-- Mark the base of an integer and keep the point of a number. -/
  marked : Bool := false
  /-- Fill numbers up with zeros. -/
  zeros : Bool := false
  width : Option Nat := none
  precision : Option Nat := none

/-- What a reader of templates knows: the values that are left, and where it is. -/
structure State where
  /-- The value that was given, where places may name its fields. -/
  source : Option Json
  /-- The value for the next place. -/
  pending : Option Json
  /-- How many characters were read. -/
  position : Nat
  rest : List Char

/-- The state before the first character. Texts, numbers and flags have no fields. -/
def State.start (template : List Char) (value : Json) : State :=
  let source := match value with
    | .arr _ | .obj _ => some value
    | _ => none
  ⟨source, some value, 0, template⟩

/-- Read a character. -/
def State.next (s : State) : Except TemplateError (Char × State) :=
  match s.rest with
  | c :: rest => .ok (c, { s with rest, position := s.position + 1 })
  | [] => .error .incomplete

/-- Take the value for a place. -/
def State.take (s : State) : Except TemplateError (Json × State) :=
  match s.pending with
  | some v => .ok (v, { s with pending := none })
  | none => .error .unsuited

/-- The name in parentheses, which may hold pairs of parentheses, its length with the
closing one, and what follows. -/
def spanName (depth : Nat) : List Char → Option (List Char × List Char)
  | [] => none
  | c :: rest =>
      let depth := if c = '(' then depth + 1 else if c = ')' then depth - 1 else depth
      if depth = 0 then some ([], rest)
      else (spanName depth rest).map fun (name, tail) => (c :: name, tail)

/-- A place that names a field takes its value from there. -/
def readField (s : State) : Except TemplateError State :=
  match s.rest with
  | '(' :: rest =>
      match s.source with
      | none => .error .unsuited
      | some source =>
          match spanName 1 rest with
          | none => .error .incompleteName
          | some (name, tail) =>
              let name := String.ofList name
              match source with
              | .obj fields =>
                  match fields.lookup name with
                  | some v =>
                      let position := s.position + (s.rest.length - tail.length)
                      .ok { s with rest := tail, pending := some v, position }
                  | none => .error (.missingField name)
              | _ => .error .unsuited
  | _ => .ok s

/-- Read flags; the bound counts them. The character behind them is read, too. -/
def readFlags : Nat → Layout → State → Except TemplateError (Layout × Char × State)
  | 0, _, _ => .error .incomplete
  | fuel + 1, l, s => do
      let (c, s) ← s.next
      match c with
      | '-' => readFlags fuel { l with left := true } s
      | '+' => readFlags fuel { l with plus := true } s
      | ' ' => readFlags fuel { l with blank := true } s
      | '#' => readFlags fuel { l with marked := true } s
      | '0' => readFlags fuel { l with zeros := true } s
      | c => return (l, c, s)

/-- The digits of a count and the character behind them; `c` is the first one. -/
def readDigits (part : String) (limit : Nat) : Nat → Nat → Char → State →
    Except TemplateError (Nat × Char × State)
  | 0, n, c, s => .ok (n, c, s)
  | fuel + 1, n, c, s => do
      match Text.asciiDigit? c with
      | none => return (n, c, s)
      | some d =>
          if n * 10 + d > limit then .error (.tooBig part)
          let (c, s) ← s.next
          readDigits part limit fuel (n * 10 + d) c s

/-- The greatest width. -/
def widthLimit : Nat := 0x7fffffffffffffff

/-- The greatest precision. -/
def precisionLimit : Nat := 0x7fffffff

/-- A count that the value gives instead of the template. -/
def starCount (limit : Nat) (s : State) : Except TemplateError (Int × State) := do
  match ← s.take with
  | (.int i, s) => if i.natAbs ≤ limit then .ok (i, s) else .error .outOfRange
  | (.bool b, s) => return (if b then 1 else 0, s)
  | _ => .error .unsuited

/-- Read a width, where there is one; `c` is the next character. -/
def readWidth (l : Layout) (c : Char) (s : State) :
    Except TemplateError (Layout × Char × State) := do
  if c = '*' then
    let (i, s) ← starCount widthLimit s
    let (c, s) ← s.next
    return ({ l with left := l.left || i < 0, width := some i.natAbs }, c, s)
  else if c.isDigit then
    let (n, c, s) ← readDigits "width" widthLimit (s.rest.length + 1) 0 c s
    return ({ l with width := some n }, c, s)
  else return (l, c, s)

/-- Read a precision, where there is one; `c` is the next character. -/
def readPrecision (l : Layout) (c : Char) (s : State) :
    Except TemplateError (Layout × Char × State) := do
  if c ≠ '.' then return (l, c, s)
  let (c, s) ← s.next
  if c = '*' then
    let (i, s) ← starCount precisionLimit s
    let (c, s) ← s.next
    return ({ l with precision := some i.toNat }, c, s)
  else
    let (n, c, s) ← readDigits "precision" precisionLimit (s.rest.length + 1) 0 c s
    return ({ l with precision := some n }, c, s)

/-- Letters that say how long a number is, and nothing else. -/
def isLength (c : Char) : Bool := c == 'h' || c == 'l' || c == 'L'

/-- Escape what is not ASCII in the text of a value. -/
def asciiOnly (s : String) : String :=
  String.ofList (s.toList.flatMap fun c => if c.toNat < 0x80 then [c] else Text.escaped c)

/-- The integer of a value: a flag or an integer, and, where fractions are cut, a
number. -/
def integerOf (cut : Bool) : Json → Except TemplateError Int
  | .int i => .ok i
  | .bool b => .ok (if b then 1 else 0)
  | .float x =>
      if !cut then .error .unsuited
      else if x.isNaN then .error .notANumber
      else (x.truncate?).elim (.error .outOfRange) .ok
  | _ => .error .unsuited

/-- The number of a value. -/
def realOf : Json → Except TemplateError Binary64
  | .float x => .ok x
  | .int i => if (Binary64.ofInt i).isFinite then .ok (.ofInt i) else .error .outOfRange
  | .bool b => .ok (.ofInt (if b then 1 else 0))
  | _ => .error .unsuited

/-- The character of a value. -/
def characterOf : Json → Except TemplateError Char
  | .str s =>
      match s.toList with
      | [c] => .ok c
      | _ => .error .unsuited
  | .float _ => .error .unsuited
  | v => do
      let i ← integerOf false v
      if 0 ≤ i ∧ i < 0x110000 then .ok (Char.ofNat i.toNat) else .error .outOfRange

/-- A text before it is laid out: a sign, the mark of a base, and the rest. -/
structure Pieces where
  sign : List Char := []
  mark : List Char := []
  body : List Char

/-- The pieces of an integer in a base, filled up with zeros to the precision. -/
def integerPieces (l : Layout) (letter : Char) (i : Int) : Pieces :=
  let base := if letter = 'o' then 8 else if letter = 'x' ∨ letter = 'X' then 16 else 10
  let digits := Nat.toDigits base i.natAbs
  let digits := List.replicate (l.precision.getD 0 - digits.length) '0' ++ digits
  { sign := if i < 0 then ['-'] else []
    mark := if l.marked && base != 10 then ['0', letter] else []
    body := if letter = 'X' then digits.map Char.toUpper else digits }

/-- The pieces of a number. -/
def realPieces (l : Layout) (letter : Char) (x : Binary64) : Pieces :=
  let style : Binary64.Style :=
    if letter.toLower = 'e' then .exponent else if letter.toLower = 'f' then .fixed else .general
  let text := (x.toStyle style l.marked (l.precision.getD 6)).toList
  let text := if letter.isUpper then text.map Char.toUpper else text
  match text with
  | '-' :: body => { sign := ['-'], body }
  | body => { body }

/-- The pieces of a text, cut to the precision. -/
def textPieces (l : Layout) (s : String) : Pieces :=
  { body := match l.precision with
      | some n => s.toList.take n
      | none => s.toList }

/-- Lay out the pieces of a value. Zeros go between the mark and the digits, blanks in
front of the sign. -/
def layOut (l : Layout) (numeric : Bool) (p : Pieces) : List Char :=
  let sign :=
    if !numeric || !p.sign.isEmpty then p.sign
    else if l.plus then ['+'] else if l.blank then [' '] else []
  let missing := l.width.getD 0 - (sign.length + p.mark.length + p.body.length)
  if l.zeros && numeric && !l.left then
    sign ++ p.mark ++ List.replicate missing '0' ++ p.body
  else if l.left then sign ++ p.mark ++ p.body ++ List.replicate missing ' '
  else List.replicate missing ' ' ++ sign ++ p.mark ++ p.body

/-- The text of a place with its letter, and the state behind it. -/
def fillLetter (l : Layout) (letter : Char) (s : State) :
    Except TemplateError (List Char × State) := do
  let (v, after) ← s.take
  let pieces ← match letter with
    | 's' => .ok (textPieces l v.plain)
    | 'r' => .ok (textPieces l v.literal)
    | 'a' => .ok (textPieces l (asciiOnly v.literal))
    | 'd' | 'i' | 'u' => (integerOf true v).map (integerPieces l letter)
    | 'o' | 'x' | 'X' => (integerOf false v).map (integerPieces l letter)
    | 'e' | 'E' | 'f' | 'F' | 'g' | 'G' => (realOf v).map (realPieces l letter)
    | 'c' => (characterOf v).map fun c => { body := [c] }
    | c => .error (.badLetter c (s.position - 1))
  return (layOut l (letter ∉ ['s', 'r', 'a', 'c']) pieces, after)

/-- Fill the place behind a percent sign; a second percent sign stands for one. -/
def fillPlace (s : State) : Except TemplateError (List Char × State) := do
  if s.rest.head? = some '%' then
    return (['%'], { s with rest := s.rest.drop 1, position := s.position + 1 })
  let s ← readField s
  let (l, c, s) ← readFlags (s.rest.length + 1) {} s
  let (l, c, s) ← readWidth l c s
  let (l, c, s) ← readPrecision l c s
  let (c, s) ← if isLength c then s.next else .ok (c, s)
  fillLetter l c s

/-- Fill a template from a state on; the bound counts its characters. -/
def fillFrom : Nat → State → Except TemplateError (List Char)
  | 0, _ => .ok []
  | fuel + 1, s =>
      match s.rest with
      | [] => if s.source.isNone && s.pending.isSome then .error .unsuited else .ok []
      | '%' :: rest => do
          let (text, s) ← fillPlace { s with rest, position := s.position + 1 }
          return text ++ (← fillFrom fuel s)
      | c :: rest => do
          return c :: (← fillFrom fuel { s with rest, position := s.position + 1 })

/-- Fill a template with a value. -/
def fill (template : String) (value : Json) : Except TemplateError String :=
  (fillFrom (template.length + 1) (.start template.toList value)).map String.ofList

end Template

end Log

end Flowgate
