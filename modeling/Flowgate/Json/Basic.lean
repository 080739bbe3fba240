import Flowgate.Number.Text

/-! # Json values

Values as they are exchanged with the engine and with agents. Integers have any
size and are apart from floating point numbers. A text is made of characters, so no
surrogate stands in it. An object is the list of its fields in order; every reader
of the library leaves each key once.
-/

namespace Flowgate

/-- A Json value. -/
inductive Json where
  | null
  | bool (value : Bool)
  | int (value : Int)
  | float (value : Binary64)
  | str (value : String)
  | arr (items : List Json)
  | obj (fields : List (String × Json))

namespace Json

instance : Inhabited Json := ⟨null⟩

instance : Coe String Json := ⟨str⟩

/-- The kinds of values, under the names that messages give them. -/
inductive Kind where
  | null | bool | int | float | str | arr | obj
  deriving DecidableEq, Repr

/-- The name of a kind in messages. -/
def Kind.name : Kind → String
  | .null => "NoneType"
  | .bool => "bool"
  | .int => "int"
  | .float => "float"
  | .str => "str"
  | .arr => "list"
  | .obj => "dict"

/-- The kind of a value. -/
def kind : Json → Kind
  | null => .null
  | bool _ => .bool
  | int _ => .int
  | float _ => .float
  | str _ => .str
  | arr _ => .arr
  | obj _ => .obj

/-- A natural as a value. -/
def nat (n : Nat) : Json := int n

/-- An optional value; absence is null. -/
def ofOption (f : α → Json) (x : Option α) : Json := (x.map f).getD null

def isNull : Json → Bool
  | null => true
  | _ => false

/-- Null, false, zeros and empty texts, lists and objects count as unset. -/
def truthy : Json → Bool
  | null => false
  | bool b => b
  | int i => i != 0
  | float x => !x.isZero
  | str s => s != ""
  | arr items => !items.isEmpty
  | obj fields => !fields.isEmpty

/-- A field of an object; anything else has no fields. -/
def field? (key : String) : Json → Option Json
  | obj fields => fields.lookup key
  | _ => none

/-- The field of a key, null where there is none. -/
def getField (key : String) (fields : List (String × Json)) : Json :=
  (fields.lookup key).getD null

/-- Give a key a value: in place if the key is there, else at the end. -/
def setField (key : String) (value : Json) : List (String × Json) → List (String × Json)
  | [] => [(key, value)]
  | (k, v) :: rest => if k = key then (k, value) :: rest else (k, v) :: setField key value rest

/-- Each key occurs once, in every object of the value. -/
inductive UniqueKeys : Json → Prop where
  | null : UniqueKeys null
  | bool (b) : UniqueKeys (bool b)
  | int (i) : UniqueKeys (int i)
  | float (x) : UniqueKeys (float x)
  | str (s) : UniqueKeys (str s)
  | arr {items} : (∀ v ∈ items, UniqueKeys v) → UniqueKeys (arr items)
  | obj {fields} : (fields.map Prod.fst).Nodup → (∀ kv ∈ fields, UniqueKeys kv.2) →
      UniqueKeys (obj fields)

end Json

end Flowgate
