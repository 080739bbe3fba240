import Flowgate.Workflow.Graph

/-! # The engine's form of a workflow

The engine takes the connections of a workflow by the name of their source. Each
source has a list of outputs, and each output lists its targets. Sources stand in
the order of their first use, and targets in the order of the connections.
-/

namespace Flowgate

/-- Where an output leads. -/
structure Target where
  node : String
  index : Nat
  deriving DecidableEq

/-- The outputs of every source. -/
abbrev Wiring := List (String × List (List Target))

/-- What the engine is sent for a workflow. The name may be one that the engine
gave before, whatever it is. -/
structure Payload where
  name : Json
  nodes : List Graph.Node
  connections : Wiring

namespace Wiring

/-- Add a target at an output; outputs that are missing before it are empty. -/
def place (output : Nat) (target : Target) (outputs : List (List Target)) : List (List Target) :=
  (outputs ++ List.replicate (output + 1 - outputs.length) []).modify output (· ++ [target])

/-- Add a target at an output of a source; a new source goes to the end. -/
def add (source : String) (output : Nat) (target : Target) : Wiring → Wiring
  | [] => [(source, place output target [])]
  | (s, outputs) :: rest =>
      if s = source then (s, place output target outputs) :: rest
      else (s, outputs) :: add source output target rest

/-- Group edges by source and output. -/
def ofEdges (edges : List Graph.Edge) : Wiring :=
  edges.foldl (fun w e => w.add e.sourceName e.sourceOutput ⟨e.targetName, e.targetInput⟩) []

end Wiring

/-- The one kind of connection that definitions have. -/
def mainConnection : String := "main"

/-- Settings that go with every workflow; the engine takes none without. -/
def workflowSettings : List (String × Json) := [
  ("executionOrder", "v1"), ("saveManualExecutions", .bool true),
  ("callerPolicy", "workflowsFromSameOwner")]

/-- A node in the engine's form. Empty credentials are left out. -/
def Graph.Node.toJson (n : Graph.Node) : Json :=
  let credentials := match n.credentials with
    | some (c :: rest) => [("credentials", Json.obj (c :: rest))]
    | _ => []
  .obj ([("id", .str n.id), ("name", .str n.name), ("type", .str n.type),
    ("typeVersion", n.typeVersion.toJson),
    ("position", .arr [.int n.position.1, .int n.position.2]),
    ("parameters", .obj n.parameters)] ++ credentials)

/-- A target in the engine's form. -/
def Target.toJson (t : Target) : Json :=
  .obj [("node", .str t.node), ("type", .str mainConnection), ("index", .nat t.index)]

/-- The outputs of every source, under the name of the source. -/
def Wiring.toJson (w : Wiring) : Json :=
  .obj (w.map fun (source, outputs) =>
    (source, .obj [(mainConnection, .arr (outputs.map fun ts => .arr (ts.map Target.toJson)))]))

/-- What is sent: name, nodes, connections and settings, in this order. -/
def Payload.toJson (p : Payload) : Json :=
  .obj [("name", p.name), ("nodes", .arr (p.nodes.map Graph.Node.toJson)),
    ("connections", p.connections.toJson), ("settings", .obj workflowSettings)]

/-- The engine's form of a graph. -/
def Graph.payload (g : Graph) : Payload := ⟨.str g.name, g.nodes, .ofEdges g.edges⟩

end Flowgate
