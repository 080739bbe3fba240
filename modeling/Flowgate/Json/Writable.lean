import Flowgate.Json.Basic
import Flowgate.Number.Numeral

/-! # Numbers that cannot be written

Values are put into texts, and not every number can be: an integer is written out in as
many digits as are read at most, and Json text has no infinity and no not-a-number. What is
told of a value is the first of its numbers that stands in the way.
-/

namespace Flowgate.Json

/-- Why a number cannot be written. -/
inductive Unwritable where
  /-- It is an infinity or a not-a-number. -/
  | special
  /-- It is an integer with too many digits. -/
  | tooLong
  deriving DecidableEq, Repr

/-- The text of a refusal to write. -/
def Unwritable.message : Unwritable → String
  | special => "Out of range float values are not JSON compliant"
  | tooLong =>
      s!"Exceeds the limit ({Numeral.digitLimit} digits) for integer string conversion; " ++
        "use sys.set_int_max_str_digits() to increase the limit"

/-- The digits of an integer are few enough to be written out. -/
def isShort (i : Int) : Bool := (Nat.toDigits 10 i.natAbs).length ≤ Numeral.digitLimit

/-- What stands in the way of an integer. -/
def integerFlaw? (i : Int) : Option Unwritable := if isShort i then none else some .tooLong

mutual

/-- The first flaw of a value, in the order in which it is written; `flaw?` tells those of
numbers. -/
def firstFlaw? (flaw? : Json → Option Unwritable) : Json → Option Unwritable
  | arr items => firstItemFlaw? flaw? items
  | obj fields => firstFieldFlaw? flaw? fields
  | v => flaw? v

/-- The first flaw of the items of a list. -/
def firstItemFlaw? (flaw? : Json → Option Unwritable) : List Json → Option Unwritable
  | [] => none
  | v :: rest => (firstFlaw? flaw? v).or (firstItemFlaw? flaw? rest)

/-- The first flaw of the fields of an object. -/
def firstFieldFlaw? (flaw? : Json → Option Unwritable) :
    List (String × Json) → Option Unwritable
  | [] => none
  | (_, v) :: rest => (firstFlaw? flaw? v).or (firstFieldFlaw? flaw? rest)

end

/-- Why a value cannot be pasted into a text, if it cannot: only integers stand in the way. -/
def textFlaw? : Json → Option Unwritable :=
  firstFlaw? fun
    | int i => integerFlaw? i
    | _ => none

/-- Why a value cannot be written as Json, if it cannot. -/
def bodyFlaw? : Json → Option Unwritable :=
  firstFlaw? fun
    | int i => integerFlaw? i
    | float x => if x.isFinite then none else some .special
    | _ => none

/-- All numbers of a value can be written as Json. -/
def isWritable (v : Json) : Bool := v.bodyFlaw?.isNone

end Flowgate.Json
