import Flowgate.Engine.Client
import Flowgate.Tool.Argument
import Flowgate.Tool.Basic
import Flowgate.Tool.Compilation
import Flowgate.Workflow.Check
import Flowgate.Workflow.Payload

/-! # Calling tools

Each tool makes at most one change to the engine, and makes it last. Definitions
are compiled before anything is sent, so that nothing malformed reaches the
engine.
-/

namespace Flowgate

namespace Tool

variable (c : Client)

/-- A part of the arguments. -/
def part (key : String) (arguments : Json) : Exchange Json :=
  Exchange.shaped (arguments.get key)

/-- The identifier of a workflow, as a text. -/
def workflowId (arguments : Json) : Exchange Json := do
  let id ← MonadExcept.ofExcept (Argument.requireId "Workflow" arguments)
  return .str (← MonadExcept.ofExcept (Client.pasted id))

/-- The identifier of an execution, as an integer. -/
def executionId (arguments : Json) : Exchange Json := do
  return .int (← MonadExcept.ofExcept (Argument.executionId arguments))

/-- A definition in the arguments, compiled. -/
def compileArguments (arguments : Json) : Exchange Graph :=
  Exchange.compileJson (some defaultWorkflowName) arguments

/-- Fetch all workflows and select a page of them. -/
def runListWorkflows (arguments : Json) : Exchange Json := do
  let workflows ← c.listAllWorkflows (.int 100)
  let criteria : Listing.Criteria := {
    search := ← part "search" arguments
    active := ← part "active" arguments
    tags := ← part "tags" arguments }
  let offset ← MonadExcept.ofExcept (Argument.integer "offset" (.int 0) arguments)
  let limit ← MonadExcept.ofExcept
    (Argument.integer "limit" (.int Listing.defaultLimit) arguments)
  let page ← Exchange.shaped (Listing.Query.run ⟨criteria, ⟨offset, limit⟩⟩ workflows)
  return page.toJson

/-- The verdict on a definition that has errors. -/
def invalidVerdict (errors : List CompileError) : Json :=
  .obj [("valid", .bool false), ("errors", .arr (errors.map (·.report.toJson)))]

/-- The verdict on a definition that compiles. -/
def validVerdict (g : Graph) : Json :=
  .obj [("valid", .bool true), ("errors", .arr []), ("workflow", g.payload.toJson)]

/-- Judge a definition without sending anything. -/
def runValidate (arguments : Json) : Exchange Json :=
  match WorkflowSpec.ofJson arguments with
  | .error cause => return invalidVerdict [cause]
  | .ok spec =>
      match spec.check with
      | [] => return validVerdict (← Exchange.compile (some defaultWorkflowName) spec)
      | errors => return invalidVerdict errors

/-- Replace a workflow. A definition without a name keeps the name that the
workflow has. -/
def runUpdate (arguments : Json) : Exchange Json := do
  let id ← workflowId arguments
  let payload := (← compileArguments arguments).payload
  if (← part "name" arguments).truthy then
    c.updateWorkflow id payload.toJson
  else
    let existing ← c.getWorkflow id
    let name ← Exchange.shaped (existing.get "name")
    c.updateWorkflow id
      (if name.truthy then { payload with name } else payload).toJson

/-- The filter that the arguments ask for. -/
def executionFilter (arguments : Json) : Exchange Client.ExecutionFilter := do
  return {
    includeData := ← part "includeData" arguments
    status := ← part "status" arguments
    workflowId := ← part "workflowId" arguments
    projectId := ← part "projectId" arguments
    limit := ← part "limit" arguments
    cursor := ← part "cursor" arguments }

/-- Do what a tool does. -/
def run (tool : Tool) (arguments : Json) : Exchange Json := do
  match tool with
  | listWorkflows => runListWorkflows c arguments
  | executeWorkflow =>
      let id ← workflowId arguments
      c.executeWorkflow id (← part "inputData" arguments)
  | retryExecution => c.retryExecution (← executionId arguments)
  | createWorkflow => c.createWorkflow (← compileArguments arguments).payload.toJson
  | validateWorkflow => runValidate arguments
  | getWorkflow => c.getWorkflow (← workflowId arguments)
  | updateWorkflow => runUpdate c arguments
  | deleteWorkflow => c.deleteWorkflow (← workflowId arguments)
  | activateWorkflow => c.activateWorkflow (← workflowId arguments)
  | deactivateWorkflow => c.deactivateWorkflow (← workflowId arguments)
  | listExecutions => c.listExecutions (← executionFilter arguments)
  | getExecution =>
      let id ← executionId arguments
      let includeData ← part "includeData" arguments
      c.getExecution id (.bool includeData.truthy)
  | deleteExecution => c.deleteExecution (← executionId arguments)

/-- What an agent is told about a definition that was refused. -/
def refusalOf (cause : CompileError) : Refusal :=
  let report := cause.report
  ⟨.invalidParams, s!"{report.kind.name}: {report.message}", some report.toJson⟩

/-- Tell an agent about a failure: a refused definition is a bad argument. -/
def forAgent : Failure → Failure
  | .definition cause => .refusal (refusalOf cause)
  | f => f

/-- Call a tool by its name. Unset arguments are no arguments. -/
def call (name : String) (arguments : Json) : Exchange Json := do
  match ofName? name with
  | none => Exchange.fail (.refusal ⟨.methodNotFound, s!"Unknown tool: {name}", none⟩)
  | some tool =>
      Exchange.log .info "tool_call" [("tool", .str name)]
      ExceptT.adapt forAgent (run c tool (if arguments.truthy then arguments else .obj []))

end Tool

end Flowgate
