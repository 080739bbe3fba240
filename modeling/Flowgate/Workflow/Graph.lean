import Flowgate.Workflow.Spec

/-! # Compiled workflows

A compiled workflow is a graph: its nodes have identifiers and places, and its
edges run between identifiers, by ports. Nodes and edges keep the order of the
definition.
-/

namespace Flowgate

namespace Graph

/-- A node with its identifier and its place. -/
structure Node where
  id : String
  index : Nat
  name : String
  type : String
  typeVersion : TypeVersion
  parameters : List (String × Json)
  position : Int × Int
  credentials : Option (List (String × Json))

/-- A connection between identifiers. -/
structure Edge where
  index : Nat
  sourceId : String
  sourceName : String
  targetId : String
  targetName : String
  sourceOutput : Nat
  targetInput : Nat
  deriving DecidableEq

/-- Whether an edge ends where it starts. -/
def Edge.isSelfLoop (e : Edge) : Bool := e.sourceId == e.targetId

end Graph

/-- A compiled workflow. -/
structure Graph where
  name : String
  nodes : List Graph.Node
  edges : List Graph.Edge

/-- The first node with an identifier. -/
def Graph.node? (g : Graph) (id : String) : Option Graph.Node := g.nodes.find? (·.id == id)

end Flowgate
