import Flowgate.Proofs.Engine.Course
import Flowgate.Proofs.Listing.Selection

/-! # Operations on an engine as it is documented

Where the engine answers as it is documented, an operation fails for one of three reasons:
the engine did not serve a request, a call could not be made into a request, or a request
went to a locator without a host.
-/

namespace Flowgate

namespace Client

open Engine Exchange

/-- Why an operation fails that makes certain calls. There may be failures of its own. -/
inductive Fails (c : Client) (asked : Call → Prop) (own : Failure → Prop) : Failure → Prop
  | engine (error : EngineError) : Fails c asked own (.engine error)
  | unsent {call : Call} {failure : Failure} : asked call → c.prepare call = .error failure →
      Fails c asked own failure
  | placeless {call : Call} {url : Url} {r : Request} : asked call →
      c.prepare call = .ok (url, r) → url.isAbsolute = false →
      Fails c asked own (.placeless url.toText)
  | own {failure : Failure} : own failure → Fails c asked own failure

variable {c : Client} {form : Method → Json → Prop} {asked : Call → Prop}
  {own : Failure → Prop} {given : Prop}

section Sequence

variable {α β : Type} {x : Exchange α} {next : α → Exchange β} {good : α → Prop}
  {better : β → Prop}

end Sequence

/-! ## Calls -/

/-- The call that fetches a workflow. -/
def fetchCall (id : Json) : Call where
  method := .get
  endpoint := workflowPath id
  identifier := id

/-- The call that fetches a page of all workflows. -/
def pageCall (pageSize cursor : Json) : Call where
  method := .get
  endpoint := "/workflows"
  parameters := some [("limit", pageSize), ("cursor", cursor), ("active", .null), ("tags", .null)]

/-- The call that fetches an execution. -/
def executionCall (id includeData : Json) : Call where
  method := .get
  endpoint := executionPath id
  identifier := id
  parameters := if includeData.truthy then some [("includeData", .bool true)] else none

/-- The call that runs a workflow. -/
def runCall (payload : Json) : Call := { method := .post, endpoint := runPath, body := payload }

end Client

end Flowgate
