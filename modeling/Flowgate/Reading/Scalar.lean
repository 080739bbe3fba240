import Flowgate.Number.Numeral
import Flowgate.Reading.Basic

/-! # Reading single values

What a value denotes as a text, an integer, a number or a flag. Texts are only
taken from texts; numbers and flags are also taken from each other and from texts
that write them.
-/

namespace Flowgate

namespace Json

open Reading

/-- Any text; nothing else is turned into one. -/
def readString : Json → Reading String
  | .str s => .ok s
  | _ => refuse .notText

/-- A text with a character at least. -/
def readName : Json → Reading String
  | .str s => if s = "" then refuse .emptyText else .ok s
  | _ => refuse .notText

/-- An object, whatever its fields. -/
def readMap : Json → Reading (List (String × Json))
  | .obj fields => .ok fields
  | _ => refuse .notMap

/-- Where whole floating point numbers stop being read as integers: two to the power
of 63. -/
def floatLimit : Nat := 0x8000000000000000

/-- The integer that a value denotes. Flags are one and zero, a floating point
number must be whole and below the limit, a text must be an integer numeral. -/
def toInteger : Json → Except Offence Int
  | .int i => .ok i
  | .bool b => .ok (if b then 1 else 0)
  | .float x =>
      if x.isFinite then
        match x.toInt? with
        | some i => if i.natAbs < floatLimit then .ok i else .error .tooLarge
        | none => .error .fractional
      else .error .notFinite
  | .str s =>
      match Numeral.whole s with
      | .ok i => .ok i
      | .error .tooLong => .error .tooLarge
      | .error .unreadable => .error .unreadableInteger
  | _ => .error .notInteger

/-- The floating point number that a value denotes. Flags are one and zero, and an
integer beyond every finite number is none. -/
def toReal : Json → Except Offence Binary64
  | .float x => .ok x
  | .bool b => .ok (.ofInt (if b then 1 else 0))
  | .int i => if (Binary64.ofInt i).isFinite then .ok (.ofInt i) else .error .notNumber
  | .str s => (Numeral.real? s).elim (.error .unreadableNumber) .ok
  | _ => .error .notNumber

/-- The flag of a word, in any case. -/
def flagOfWord? (text : String) : Option Bool :=
  let word := String.ofList (text.toList.map Char.toLower)
  if ["1", "on", "t", "true", "y", "yes"].contains word then some true
  else if ["0", "off", "f", "false", "n", "no"].contains word then some false
  else none

/-- The flag of a number: zero or one. -/
def flagOfInteger? (i : Int) : Option Bool :=
  if i = 0 then some false else if i = 1 then some true else none

/-- The flag that a value denotes. Numbers that are whole and of 64 bits at most are
looked at, though only two of them are flags; other numbers are of another kind. -/
def toFlag : Json → Except Offence Bool
  | .bool b => .ok b
  | .str s => (flagOfWord? s).elim (.error .unreadableFlag) .ok
  | .int i =>
      if -(floatLimit : Int) ≤ i ∧ i < floatLimit then
        (flagOfInteger? i).elim (.error .unreadableFlag) .ok
      else .error .notFlag
  | .float x =>
      match x.toInt? with
      | some i =>
          if i.natAbs < floatLimit then (flagOfInteger? i).elim (.error .unreadableFlag) .ok
          else .error .notFlag
      | none => .error .notFlag
  | _ => .error .notFlag

/-- The offence of a value, at the value itself. -/
def atRoot {α : Type} (read : Except Offence α) : Reading α :=
  read.mapError fun offence => [⟨[], offence⟩]

/-- An integer, or the offence at the value itself. -/
def readInteger (v : Json) : Reading Int := atRoot v.toInteger

/-- A number, or the offence at the value itself. -/
def readReal (v : Json) : Reading Binary64 := atRoot v.toReal

/-- A flag, or the offence at the value itself. -/
def readFlag (v : Json) : Reading Bool := atRoot v.toFlag

end Json

end Flowgate
