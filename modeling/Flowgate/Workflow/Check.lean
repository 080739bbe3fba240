import Flowgate.Workflow.Compile

/-! # Checking a definition

Checking lists everything that keeps a definition from being compiled, in the
order in which compiling would meet it.
-/

namespace Flowgate.WorkflowSpec

/-- All structural errors: repeated names, then ports, then ends without a node,
each in the order of the definition. A definition without nodes has one error. -/
def check (spec : WorkflowSpec) : List CompileError :=
  if spec.nodes.isEmpty then [.emptyWorkflow]
  else
    let ids := NodeSpec.firstIds spec.nodes
    (NodeSpec.repeatedNames spec.nodes).map .duplicateName ++
      spec.connections.zipIdx.flatMap (fun (c, index) => c.portErrors index) ++
      spec.connections.zipIdx.flatMap fun (c, index) =>
        NamedLink.danglingEnds index c.source c.target ids

end Flowgate.WorkflowSpec
