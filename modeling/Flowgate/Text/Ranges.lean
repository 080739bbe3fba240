/-! # Ranges of characters

Properties of characters are held as ascending ranges of code points, both ends
included.
-/

namespace Flowgate.Text

/-- Membership of a character in a list of ranges. -/
def inRanges (ranges : List (Nat × Nat)) (c : Char) : Bool :=
  ranges.any fun (first, last) => first ≤ c.toNat && c.toNat ≤ last

/-- The value of the range that a character is in. -/
def valueIn? {α : Type} (ranges : List (Nat × Nat × α)) (c : Char) : Option α :=
  (ranges.find? fun (first, last, _) => first ≤ c.toNat && c.toNat ≤ last).map (·.2.2)

/-- Every `stride`-th code point from `first` to `last`. -/
structure Run where
  first : Nat
  last : Nat
  stride : Nat

/-- Membership of a character in a list of runs. -/
def inRuns (runs : List Run) (c : Char) : Bool :=
  runs.any fun r =>
    r.first ≤ c.toNat && c.toNat ≤ r.last && (c.toNat - r.first) % r.stride == 0

end Flowgate.Text
