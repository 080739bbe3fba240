import Flowgate.Number.Text
import Flowgate.Text.DecimalDigit
import Flowgate.Text.Utf8
import Flowgate.Time.Calendar

/-! # Timestamps

A timestamp is a date and a time of day, with or without an offset from universal
time. It is read from the basic and the extended form of the calendar's notation.
Timestamps with an offset denote instants; those without are only ordered among
themselves.

A text is read octet by octet, each octet as the character of its code, so a sign
outside ASCII is as long as its encoding. A time of day may end at a NUL.
-/

namespace Flowgate

open Calendar (Date)

/-- Microseconds. -/
abbrev Micros := Int

/-- A time of day. -/
structure Clock where
  hour : Nat
  minute : Nat
  second : Nat
  micro : Nat
  deriving DecidableEq, Repr

namespace Clock

/-- The time of a date without one. -/
def midnight : Clock := ⟨0, 0, 0, 0⟩

/-- A time that a clock can show. -/
def isValid (c : Clock) : Bool := c.hour ≤ 23 && c.minute ≤ 59 && c.second ≤ 59

/-- The microseconds since midnight. -/
def micros (c : Clock) : Micros :=
  ((c.hour * 60 + c.minute) * 60 + c.second) * 1000000 + c.micro

end Clock

/-- A date, a time of day and perhaps an offset from universal time. -/
structure Timestamp where
  date : Date
  clock : Clock
  offset : Option Micros
  deriving DecidableEq, Repr

namespace Timestamp

/-- A number of exactly `count` digits, and what follows it. -/
def takeNumber (count : Nat) (cs : List Char) : Option (Nat × List Char) := do
  let digits ← (cs.take count).mapM Text.asciiDigit?
  if digits.length = count then
    some (digits.foldl (fun n d => n * 10 + d) 0, cs.drop count)
  else none

/-- Hours, minutes and seconds as far as they go, the text behind them, and
whether a fraction of a second begins there. The first sign behind the hours says
whether colons part the numbers. A single sign at the end is left over. -/
def takeUnits : Nat → Option Bool → List Char → Option (List Nat × List Char × Bool)
  | 0, _, cs => some ([], cs, true)
  | count + 1, separated, cs =>
      match takeNumber 2 cs with
      | none => none
      | some (n, []) => some ([n], [], false)
      | some (n, [c]) => some ([n], [c], false)
      | some (n, c :: rest) =>
          let separated := separated.getD (c == ':')
          if separated && c == ':' then
            (takeUnits count (some true) rest).map fun (ns, tail) => (n :: ns, tail)
          else if c == '.' || c == ',' then some ([n], rest, true)
          else if separated then none
          else (takeUnits count (some false) (c :: rest)).map fun (ns, tail) => (n :: ns, tail)

/-- Microseconds from the digits of a fraction; digits beyond the sixth are cut. -/
def takeFraction (cs : List Char) : Option (Nat × List Char) := do
  let count := min 6 cs.length
  let (n, rest) ← takeNumber count cs
  return (n * Nat.pow 10 (6 - count), rest.dropWhile Char.isDigit)

/-- A time of day and what is left over behind it. -/
def takeClock (cs : List Char) : Option (Clock × List Char) := do
  let (units, rest, fraction) ← takeUnits 3 none cs
  let (micro, rest) ← if fraction then takeFraction rest else some (0, rest)
  return (⟨units.getD 0 0, units.getD 1 0, units.getD 2 0, micro⟩, rest)

/-- A whole text as a time of day, without regard to its range. What is left over is
nothing or begins with a NUL. -/
def readClock? (cs : List Char) : Option Clock := do
  let (c, rest) ← takeClock cs
  if rest.headD '\x00' = '\x00' then some c else none

/-- The signs that begin an offset. -/
def isOffsetMark (c : Char) : Bool := c == '+' || c == '-'

/-- An offset of less than a day to either side. Below one second it is none. -/
def readOffset? (negative : Bool) (cs : List Char) : Option Micros := do
  let c ← readClock? cs
  if c.micros < 1000000 then some 0
  else if c.micros < 86400000000 then some (if negative then -c.micros else c.micros)
  else none

/-- A time of day and perhaps an offset. Before an offset, a sign left over behind
the time of day does no harm. -/
def readTime? (cs : List Char) : Option (Clock × Option Micros) :=
  match cs.dropWhile (!isOffsetMark ·) with
  | [] => (readClock? cs).map (·, none)
  | mark :: offset => do
      let (c, _) ← takeClock (cs.takeWhile (!isOffsetMark ·))
      return (c, some (← readOffset? (mark == '-') offset))

/-- How many signs of a text are its date. -/
def dateLength (cs : List Char) : Nat :=
  let isDigitAt (i : Nat) : Bool := (cs[i]?).any Char.isDigit
  if cs.length = 7 then 7
  else if cs[4]? = some '-' then
    if cs[5]? = some 'W' then
      if cs[8]? = some '-' ∧ !isDigitAt 10 then 10 else 8
    else 10
  else if cs[4]? = some 'W' then
    let digits := ((cs.drop 7).takeWhile Char.isDigit).length
    if digits < 2 then 7 + digits else if digits % 2 = 1 then 7 else 8
  else 8

/-- A whole text as a date, by month and day or by week. -/
def readDate? (cs : List Char) : Option Date := do
  let (year, rest) ← takeNumber 4 cs
  let (separated, rest) := match rest with
    | '-' :: rest => (true, rest)
    | _ => (false, rest)
  match rest with
  | 'W' :: rest =>
      let (week, rest) ← takeNumber 2 rest
      match rest, separated with
      | [], _ => Date.ofWeek? year week 1
      | '-' :: rest, true | rest, false =>
          match ← takeNumber 1 rest with
          | (day, []) => Date.ofWeek? year week day
          | _ => none
      | _, _ => none
  | _ =>
      let (month, rest) ← takeNumber 2 rest
      let rest ← match rest, separated with
        | '-' :: rest, true => some rest
        | _, true => none
        | _, false => some rest
      match ← takeNumber 2 rest with
      | (day, []) => some ⟨year, month, day⟩
      | _ => none

/-- The octets of a text, each as the character of its code. -/
def octets (s : String) : List Char := (Utf8.encode s).map fun b => Char.ofNat b.toNat

/-- Octets that continue a character. -/
def isContinuation (c : Char) : Bool := 0x80 ≤ c.toNat && c.toNat < 0xc0

/-- Read a timestamp: a date, or a date and a time with one sign of any kind
between them. -/
def ofText? (s : String) : Option Timestamp := do
  if s.length < 7 then none
  let cs := octets s
  let length := dateLength cs
  let date ← readDate? (cs.take length)
  let (clock, offset) ← match cs.drop length with
    | [] => some (Clock.midnight, none)
    | _ :: time => readTime? (time.dropWhile isContinuation)
  if date.isValid && clock.isValid then some ⟨date, clock, offset⟩ else none

/-- The microseconds since the day zero, in the timestamp's own place. -/
def localMicros (t : Timestamp) : Micros := t.date.ordinal * 86400000000 + t.clock.micros

/-- The microseconds between two timestamps. One with an offset and one without
cannot be compared. -/
def since? (stopped started : Timestamp) : Option Micros :=
  match stopped.offset, started.offset with
  | none, none => some (stopped.localMicros - started.localMicros)
  | some o, some p => some ((stopped.localMicros - o) - (started.localMicros - p))
  | _, _ => none

/-- A number with leading zeros. -/
def padded (width n : Nat) : String := NumberFormat.padZeros width (toString n)

/-- A fraction of a second, where there is one. -/
def fractionText (micro : Nat) : String := if micro = 0 then "" else "." ++ padded 6 micro

/-- An offset; seconds and their fraction are written where they are not zero. -/
def offsetText (offset : Micros) : String :=
  let micros := offset.natAbs
  let seconds := micros / 1000000
  let minutes := seconds / 60
  (if offset < 0 then "-" else "+") ++ padded 2 (minutes / 60) ++ ":" ++ padded 2 (minutes % 60) ++
    (if micros % 60000000 = 0 then "" else ":" ++ padded 2 (seconds % 60)) ++
    fractionText (micros % 1000000)

/-- The extended form, with a `T` before the time. -/
def toText (t : Timestamp) : String :=
  padded 4 t.date.year ++ "-" ++ padded 2 t.date.month ++ "-" ++ padded 2 t.date.day ++ "T" ++
    padded 2 t.clock.hour ++ ":" ++ padded 2 t.clock.minute ++ ":" ++ padded 2 t.clock.second ++
    fractionText t.clock.micro ++ (t.offset.map offsetText).getD ""

end Timestamp

end Flowgate
