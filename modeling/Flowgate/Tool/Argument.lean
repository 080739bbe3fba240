import Flowgate.Failure
import Flowgate.Number.Numeral

/-! # Arguments of tools

Identifiers and counts are taken from the arguments of a call. A number may be
given as a number or as a numeral; an argument that cannot be used is refused.
-/

namespace Flowgate

namespace Argument

/-- Null and the empty text count as not given. -/
def isGiven : Json → Bool
  | .null => false
  | .str s => s != ""
  | _ => true

/-- The integer that a value stands for, floating point numbers cut toward zero.
`none` stands for a value that is no number. -/
def toInt? : Json → Except Fault (Option Int)
  | .int i => .ok (some i)
  | .bool b => .ok (some (if b then 1 else 0))
  | .float x => if x.isInfinite then .error .infinite else .ok x.truncate?
  | .str s => .ok (Numeral.integer? s)
  | _ => .ok none

/-- An identifier, which must be given. -/
def requireId (what : String) (arguments : Json) : Except Failure Json := do
  let id ← (arguments.get "id").mapError .fault
  if isGiven id then return id
  else .error (.refusal (.invalid s!"{what} ID is required"))

/-- The identifier of an execution. -/
def executionId (arguments : Json) : Except Failure Int := do
  let id ← requireId "Execution" arguments
  match ← (toInt? id).mapError .fault with
  | some i => return i
  | none => .error (.refusal (.invalid "Execution ID must be a number"))

/-- A count, with a value for when it is not given. Flags are refused. -/
def integer (key : String) (default : Json) (arguments : Json) : Except Failure Json := do
  let v ← (arguments.get key).mapError .fault
  if !isGiven v then return default
  let number ← match v with
    | .bool _ => pure none
    | v => (toInt? v).mapError .fault
  match number with
  | some i => return .int i
  | none => .error (.refusal (.invalid s!"{key} must be a number"))

end Argument

end Flowgate
