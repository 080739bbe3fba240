import Flowgate.Engine.Link
import Flowgate.Workflow.Compile

/-! # Compiling on the record

The compiler's work is logged: its start with the size of the definition, and its
end as a graph or as a refusal.
-/

namespace Flowgate.Exchange

/-- The size of a definition, as it is logged. -/
def sizeFields (name : Json) (nodes connections : Nat) : List (String × Json) :=
  [("workflow_name", name), ("node_count", .nat nodes), ("connection_count", .nat connections)]

/-- Compile a definition. Without a default, a definition must have a name, which
is only found out once it has been compiled. -/
def compile (defaultName : Option String) (spec : WorkflowSpec) : Exchange Graph := do
  let title? := spec.title defaultName some
  let name := Json.ofOption Json.str title?
  log .info "compile_start" (sizeFields name spec.nodes.length spec.connections.length)
  match spec.compile (defaultName.getD "") with
  | .error cause =>
      let report := cause.report
      log .warning "compile_failed" (("workflow_name", name) :: ("kind", .str report.kind.name) ::
        ("message", .str report.message) :: report.details)
      fail (.definition cause)
  | .ok graph =>
      if title?.isNone then fail (.issues [⟨[.key "name"], .notText⟩])
      log .info "compile_complete" (sizeFields name graph.nodes.length graph.edges.length)
      return graph

/-- Read a value as a definition. -/
def readSpec (v : Json) : Exchange WorkflowSpec :=
  match WorkflowSpec.ofJson v with
  | .ok spec => return spec
  | .error cause => fail (.definition cause)

/-- Read a value as a definition and compile it. -/
def compileJson (defaultName : Option String) (v : Json) : Exchange Graph := do
  compile defaultName (← readSpec v)

end Flowgate.Exchange
