import Flowgate.Workflow.Spec

/-! # Layout

Nodes without a position of their own stand in one row, from left to right.
-/

namespace Flowgate

namespace Layout

/-- The place of the first node. -/
def origin : Int × Int := (250, 300)

/-- The distance between two neighbours of the row. -/
def stride : Int := 200

/-- The place in the row at a position. -/
def place (index : Int) : Int × Int := (origin.1 + stride * index, origin.2)

/-- The place of a node: its own, or that of its position. -/
def placeOf (index : Nat) (n : NodeSpec) : Int × Int := n.position.getD (place index)

end Layout

end Flowgate
