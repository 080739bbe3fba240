import Flowgate.Json.Literal

/-! # Faults of shape

A value that came from outside may have another shape than a step needs. Such a
step fails with a fault that says what was asked of which kind of value.
-/

namespace Flowgate

/-- Why a value could not be used. -/
inductive Fault where
  /-- A member was asked of a kind that does not have it. -/
  | noMember (kind : Json.Kind) (member : String)
  /-- The items of a value without items. -/
  | notIterable (kind : Json.Kind)
  /-- A place inside a value without places. -/
  | notIndexable (kind : Json.Kind)
  /-- A place of a list or a text by a name. -/
  | namedPlace (kind : Json.Kind)
  /-- A field that is not there. -/
  | missingKey (key : Json)
  /-- A list or an object where a key is needed. -/
  | notKey (kind : Json.Kind)
  /-- Something other than a text among texts to be joined. -/
  | notJoinable (position : Nat) (kind : Json.Kind)
  /-- Values that cannot be compared, added or subtracted. -/
  | unlike
  /-- An option that is not known. -/
  | unknownOption (name : String)
  /-- An infinity where an integer is needed. -/
  | infinite
  deriving Inhabited

namespace Fault

/-- What is said about a fault where its text leaves the program. -/
def message : Fault → String
  | noMember kind member => s!"'{kind.name}' object has no attribute '{member}'"
  | notIterable kind => s!"'{kind.name}' object is not iterable"
  | notIndexable kind => s!"'{kind.name}' object is not subscriptable"
  | namedPlace .str => "string indices must be integers, not 'str'"
  | namedPlace _ => "list indices must be integers or slices, not str"
  | missingKey key => key.literal
  | notKey kind => s!"unhashable type: '{kind.name}'"
  | notJoinable position kind =>
      s!"sequence item {position}: expected str instance, {kind.name} found"
  | unlike => "values of unlike kinds"
  | unknownOption name => s!"unexpected keyword argument '{name}'"
  | infinite => "cannot convert float infinity to integer"

end Fault

namespace Json

/-- The field of an object, null where it has none. Nothing else can be asked. -/
def get (key : String) : Json → Except Fault Json
  | obj fields => .ok (getField key fields)
  | v => .error (.noMember v.kind "get")

/-- The field of an object, or a value of one's own where it has none. -/
def getOr (v : Json) (key : String) (default : Json) : Except Fault Json :=
  match v with
  | obj fields => .ok ((fields.lookup key).getD default)
  | v => .error (.noMember v.kind "get")

/-- The items of a list, the characters of a text or the keys of an object. -/
def items : Json → Except Fault (List Json)
  | arr vs => .ok vs
  | str s => .ok (s.toList.map fun c => str (String.singleton c))
  | obj fields => .ok (fields.map fun (k, _) => str k)
  | v => .error (.notIterable v.kind)

/-- Lists and objects cannot be keys or members of a set. -/
def asKey : Json → Except Fault Json
  | arr _ => .error (.notKey .arr)
  | obj _ => .error (.notKey .obj)
  | v => .ok v

/-- The first item of a value that has one. -/
def first : Json → Except Fault Json
  | arr (v :: _) => .ok v
  | str s =>
      match s.toList with
      | c :: _ => .ok (str (String.singleton c))
      | [] => .error (.notIndexable .str)
  | obj _ => .error (.missingKey (int 0))
  | v => .error (.notIndexable v.kind)

/-- The field of an object that must be there. -/
def require (key : String) : Json → Except Fault Json
  | obj fields =>
      match fields.lookup key with
      | some v => .ok v
      | none => .error (.missingKey (str key))
  | arr _ => .error (.namedPlace .arr)
  | str _ => .error (.namedPlace .str)
  | v => .error (.notIndexable v.kind)

end Json

end Flowgate
