import Flowgate.Fault

/-! # Shapes of values

What a value is, told without what it is for: a text, an object or a list whose parts are as
they should be.
-/

namespace Flowgate

/-- The fields of an object. -/
abbrev Fields := List (String × Json)

namespace Json

/-- An object whose fields are as they should be. -/
def ObjectOf (p : Fields → Prop) (v : Json) : Prop := ∃ fields, v = .obj fields ∧ p fields

/-- A list whose items are as they should be. -/
def ListOf (p : Json → Prop) (v : Json) : Prop := ∃ items, v = .arr items ∧ ∀ item ∈ items, p item

/-- Null, or as it should be. -/
def NullOr (p : Json → Prop) (v : Json) : Prop := v = .null ∨ p v

/-- A text. -/
def IsText (v : Json) : Prop := ∃ s, v = .str s

instance : DecidablePred IsText
  | .str s => .isTrue ⟨s, rfl⟩
  | .null | .bool _ | .int _ | .float _ | .arr _ | .obj _ => .isFalse nofun

/-- An object, whatever its fields. -/
def IsObject (v : Json) : Prop := v.ObjectOf fun _ => True

variable {v : Json}

end Json

end Flowgate
