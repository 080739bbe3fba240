import Flowgate.Json.Basic
import Flowgate.Reading.Issue

/-! # Readings

A reading gives a value or all issues in the order of the fields, never an empty
list of them. Objects are read field by field in a fixed order, whatever the order
of their keys.
-/

namespace Flowgate

/-- A value, or what is wrong with the one it was to be read from. -/
abbrev Reading (α : Type) := Except (List Issue) α

namespace Reading

variable {α β : Type}

/-- Refuse a value for one offence, at the place of the value itself. -/
def refuse (offence : Offence) : Reading α := .error [⟨[], offence⟩]

/-- Put the issues of a part at their place in the whole. -/
def within (step : Step) : Reading α → Reading α
  | .ok x => .ok x
  | .error issues => .error (issues.map fun i => { i with location := step :: i.location })

/-- Apply what was read so far to what is read next, keeping the issues of both. -/
def ap (f : Reading (α → β)) (x : Reading α) : Reading β :=
  match f, x with
  | .ok f, .ok x => .ok (f x)
  | .ok _, .error later => .error later
  | .error earlier, .ok _ => .error earlier
  | .error earlier, .error later => .error (earlier ++ later)

/-- Read every item of a list, from a position on. -/
def itemsFrom (read : Json → Reading α) (position : Nat) : List Json → Reading (List α)
  | [] => .ok []
  | v :: rest =>
      (Reading.ap ((within (.index position) (read v)).map List.cons)
        (itemsFrom read (position + 1) rest))

/-- A field under the first of its names that is there. -/
def fieldUnder (names : List String) (fields : List (String × Json)) : Option (String × Json) :=
  names.findSome? fun name => (fields.lookup name).map (name, ·)

/-- A field that must be there. -/
def required (name : String) (read : Json → Reading α) (fields : List (String × Json)) :
    Reading α :=
  within (.key name) <|
    match fields.lookup name with
    | some v => read v
    | none => refuse .missing

/-- A field that may be missing, under one of several names. -/
def optional (names : List String) (absent : α) (read : Json → Reading α)
    (fields : List (String × Json)) : Reading α :=
  match fieldUnder names fields with
  | some (name, v) => within (.key name) (read v)
  | none => .ok absent

/-- A value, or null for its absence. -/
def orNull (read : Json → Reading α) : Json → Reading (Option α)
  | .null => .ok none
  | v => (read v).map some

end Reading

end Flowgate
