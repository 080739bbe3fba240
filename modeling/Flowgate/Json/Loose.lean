import Flowgate.Json.Basic

/-! # Loose equality

Two values are loosely equal when they denote the same data: true is one, an
integer equals the floating point number of the same value, and the order of an
object's fields does not count.
-/

namespace Flowgate.Json

/-- A value with a numeric value. -/
inductive Number where
  | int (value : Int)
  | float (value : Binary64)

/-- The numeric value of a flag or a number. -/
def number? : Json → Option Number
  | bool b => some (.int (if b then 1 else 0))
  | int i => some (.int i)
  | float x => some (.float x)
  | _ => none

/-- An integer and a floating point number are equal if their exact values are. -/
def Number.same : Number → Number → Bool
  | .int i, .int j => i == j
  | .float x, .float y => x.same y
  | .int i, .float x => x.toInt? == some i
  | .float x, .int i => x.toInt? == some i

/-- Both values have numeric values, and these are equal. -/
def sameNumber (v w : Json) : Bool :=
  match v.number?, w.number? with
  | some m, some n => m.same n
  | _, _ => false

mutual

/-- Loose equality of two values. -/
def same : Json → Json → Bool
  | null, null => true
  | str s, str t => s == t
  | arr vs, arr ws => sameItems vs ws
  | obj fs, obj gs => fs.length == gs.length && sameFields fs gs
  | v, w => sameNumber v w

/-- Loose equality of two lists, item by item. -/
def sameItems : List Json → List Json → Bool
  | [], [] => true
  | v :: vs, w :: ws => same v w && sameItems vs ws
  | _, _ => false

/-- Every field has a loosely equal one of its key among the others. -/
def sameFields : List (String × Json) → List (String × Json) → Bool
  | [], _ => true
  | (k, v) :: fs, gs =>
      (match gs.lookup k with
      | some w => same v w
      | none => false) && sameFields fs gs

end

end Flowgate.Json
