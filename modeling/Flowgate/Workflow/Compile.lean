import Flowgate.Workflow.Graph
import Flowgate.Workflow.Identity
import Flowgate.Workflow.Layout
import Flowgate.Workflow.Port
import Flowgate.Workflow.Reading

/-! # Compiling a definition

A definition becomes a graph in four stages: there is a node, names are resolved,
ports are settled, ends are bound. The first stage that fails decides the error.
-/

namespace Flowgate

/-- The name of workflows that are given none. -/
def defaultWorkflowName : String := "New Workflow"

namespace NamedLink

/-- The ends of a connection that are not in a table of names, the source first. -/
def danglingEnds (index : Nat) (source target : String) (ids : NameTable) : List CompileError :=
  [(Side.source, source), (.target, target)].filterMap fun (side, name) =>
    if (ids.lookup name).isNone then some (.unknownReference index side name) else none

/-- Bind both ends of a connection, the source first. -/
def bind (ids : NameTable) (l : NamedLink) : Except CompileError Graph.Edge :=
  match ids.lookup l.source, ids.lookup l.target with
  | some sourceId, some targetId =>
      .ok ⟨l.index, sourceId, l.source, targetId, l.target, l.sourceOutput, l.targetInput⟩
  | none, _ => .error (.unknownReference l.index .source l.source)
  | _, none => .error (.unknownReference l.index .target l.target)

end NamedLink

namespace NodeSpec

/-- A node with its identifier and its place. -/
def resolve (index : Nat) (id : String) (n : NodeSpec) : Graph.Node :=
  ⟨id, index, n.name, n.type, n.typeVersion, n.parameters, Layout.placeOf index n, n.credentials⟩

/-- The nodes of a graph. A node has the identifier that its name stands for in the
table, and a name that is not in the table makes no node. -/
def resolveAll (nodes : List NodeSpec) (ids : NameTable) : List Graph.Node :=
  nodes.zipIdx.filterMap fun (n, index) => (ids.lookup n.name).map (n.resolve index ·)

/-- There must be a node. -/
def requireSome (nodes : List NodeSpec) : Except CompileError Unit :=
  if nodes.isEmpty then .error .emptyWorkflow else .ok ()

end NodeSpec

namespace WorkflowSpec

/-- The name of the definition; one that is missing or empty is replaced. -/
def title (defaultName : α) (named : String → α) (spec : WorkflowSpec) : α :=
  match spec.name with
  | some name => if name = "" then defaultName else named name
  | none => defaultName

/-- The nodes and edges of a definition. -/
def wire (spec : WorkflowSpec) : Except CompileError (List Graph.Node × List Graph.Edge) := do
  NodeSpec.requireSome spec.nodes
  let ids ← NodeSpec.identify spec.nodes
  let links ← ConnectionSpec.linkAll spec.connections
  let edges ← links.mapM (NamedLink.bind ids)
  return (NodeSpec.resolveAll spec.nodes ids, edges)

/-- Compile a definition, with a name for workflows that have none. -/
def compile (defaultName : String) (spec : WorkflowSpec) : Except CompileError Graph := do
  let (nodes, edges) ← spec.wire
  return ⟨spec.title defaultName id, nodes, edges⟩

/-- The definition that a value is, or its first issue. -/
def ofJson (v : Json) : Except CompileError WorkflowSpec :=
  match v.readWorkflow with
  | .ok spec => .ok spec
  | .error (issue :: _) => .error (.invalidSpec issue)
  | .error [] => .error (.invalidSpec ⟨[], .notPart .workflow⟩)

end WorkflowSpec

/-- Read a value as a definition and compile it. -/
def Json.compile (defaultName : String) (v : Json) : Except CompileError Graph := do
  (← WorkflowSpec.ofJson v).compile defaultName

end Flowgate
