import Flowgate.Engine.Client
import Flowgate.Execution.Summary
import Flowgate.Resource.Basic

/-! # Reading resources

Reading only fetches. A detail that the engine does not give is refused as not
found, and statistics that cannot be had are zeros with a reason.
-/

namespace Flowgate

namespace Resource

variable (c : Client)

/-- Why statistics are missing. -/
def statsReason : String := "Failed to retrieve execution statistics"

/-- Statistics of the latest executions, at most `limit` of them. -/
def readStats (limit : Json) : Exchange Json :=
  Exchange.recover
    (do
      let page ← c.listExecutions { limit }
      let data ← Exchange.shaped (page.getOr "data" (.arr []))
      return (← Exchange.shaped (Execution.summarizeItems data)).toJson)
    fun error => do
      Exchange.log .error "execution_stats_error" [("error", .str error.message)]
      return (Execution.Summary.unavailable statsReason).toJson

/-- A refusal in place of a failure of the engine. -/
def orRefuse (message : String) (x : Exchange Json) : Exchange Json :=
  Exchange.recover x fun _ => Exchange.fail (.refusal (.invalid message))

/-- Read a resource. -/
def fetch (statsLimit : Json) : Resource → Exchange Json
  | workflows => return .arr (← c.listAllWorkflows (.int 100))
  | executionStats => readStats c statsLimit
  | workflow id => orRefuse s!"Workflow with ID {id} not found" (c.getWorkflow (.str id))
  | execution id =>
      match Numeral.integer? id with
      | some n =>
          orRefuse s!"Execution with ID {n} not found" (c.getExecution (.int n) (.bool true))
      | none => Exchange.fail (.refusal (.invalid "Execution ID must be a number"))

/-- Read what a locator asks for. -/
def read (statsLimit : Json) (locator : String) : Exchange Json := do
  let uri := Text.dropSlashes locator
  Exchange.log .info "read_resource" [("uri", .str uri)]
  match ofUri? uri with
  | some resource => fetch c statsLimit resource
  | none => Exchange.fail (.refusal (.invalid s!"Resource not found: {uri}"))

end Resource

end Flowgate
