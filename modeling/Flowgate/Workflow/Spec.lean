import Flowgate.Json.Basic

/-! # Workflow definitions

A workflow as people and agents write it: named nodes, and connections between
names. Identifiers and the layout are not part of it.
-/

namespace Flowgate

/-- The version of a node's type. Whole and real versions are told apart. -/
inductive TypeVersion where
  | whole (value : Int)
  | real (value : Binary64)

/-- A version is written as it was given, whole or real. -/
def TypeVersion.toJson : TypeVersion → Json
  | whole i => .int i
  | real x => .float x

/-- Strictly above zero; a not-a-number is not. -/
def TypeVersion.isPositive : TypeVersion → Bool
  | whole i => 0 < i
  | real x => x.isPositive

/-- A node as it is declared. -/
structure NodeSpec where
  name : String
  type : String
  parameters : List (String × Json)
  typeVersion : TypeVersion
  position : Option (Int × Int)
  credentials : Option (List (String × Json))

/-- A connection between two names. The ports are kept as they were given. -/
structure ConnectionSpec where
  source : String
  target : String
  sourceOutput : Json
  targetInput : Json

/-- A workflow as it is declared. -/
structure WorkflowSpec where
  name : Option String
  nodes : List NodeSpec
  connections : List ConnectionSpec

/-- The names of the nodes, in order and with repetitions. -/
def WorkflowSpec.nodeNames (spec : WorkflowSpec) : List String := spec.nodes.map (·.name)

end Flowgate
