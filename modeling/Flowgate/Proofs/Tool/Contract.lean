import Flowgate.Proofs.Engine.Documented
import Flowgate.Proofs.Number.Sign
import Flowgate.Proofs.Tool.Schema
import Flowgate.Proofs.Tool.Validation

/-! # What calls of tools end with

Arguments that meet the schema of a tool, and an engine that answers as it is documented,
leave a call with few ways to end: with a result, with a refusal, with a failure of the
engine, with a call that could not be made into a request, or with an infinity where an
integer is needed.
-/

namespace Flowgate

namespace Tool

open Client Exchange

/-- The form of what the engine answers to the requests of a tool, as far as the tool looks
at it. -/
def form : Tool → Method → Json → Prop
  | listWorkflows, .get => Engine.IsPage
  | executeWorkflow, .get => fun v => Engine.IsWorkflow v ∧ v.isWritable = true
  | retryExecution, .get => fun v => v.IsObject ∧ v.isWritable = true
  | updateWorkflow, .get => Engine.IsWorkflow
  | getExecution, .get => Json.IsObject
  | createWorkflow, .post => Json.IsObject
  | _, _ => fun _ => True

/-- The tools that are given the identifier of an execution. -/
def executionTools : List Tool := [retryExecution, getExecution, deleteExecution]

/-- The arguments that a tool takes for integers. -/
def integers (tool : Tool) : List String :=
  if tool ∈ executionTools then ["id"]
  else if tool = listWorkflows then ["offset", "limit"] else []

/-- No number that a tool takes for an integer is an infinity or a not-a-number. -/
def Counts (tool : Tool) (arguments : Json) : Prop :=
  ∀ key ∈ tool.integers, ∀ x, arguments.field? key = some (.float x) → x.isFinite = true

/-- The text that identifies a workflow in arguments. -/
def Identifies (arguments : Json) (s : String) : Prop := arguments.field? "id" = some (.str s)

/-- The integer that identifies an execution in arguments. -/
def Numbers (arguments : Json) (i : Int) : Prop :=
  ∃ v, arguments.field? "id" = some v ∧ Argument.toInt? v = .ok (some i)

/-- The fields by which executions are filtered, in the order of the query. -/
def filterKeys : List String :=
  ["includeData", "status", "workflowId", "projectId", "limit", "cursor"]

/-- The calls that a tool may make. -/
inductive Asks (arguments : Json) : Tool → Call → Prop
  | page (cursor : Json) : Asks arguments listWorkflows (pageCall (.int 100) cursor)
  | fetch {tool : Tool} {s : String} : tool ∈ [executeWorkflow, getWorkflow, updateWorkflow] →
      Identifies arguments s → Asks arguments tool (fetchCall (.str s))
  | create {g : Graph} {l : Link} : (compileArguments arguments).answer l = .ok g →
      Asks arguments createWorkflow
        { method := .post, endpoint := "/workflows", body := g.payload.toJson }
  | update {s : String} {g : Graph} {l : Link} (name : String) : Identifies arguments s →
      (compileArguments arguments).answer l = .ok g →
      Asks arguments updateWorkflow
        { method := .put, endpoint := workflowPath (.str s), identifier := .str s
          body := { g.payload with name := .str name }.toJson }
  | delete {s : String} : Identifies arguments s →
      Asks arguments deleteWorkflow
        { method := .delete, endpoint := workflowPath (.str s), identifier := .str s }
  | activate {s : String} : Identifies arguments s →
      Asks arguments activateWorkflow
        { method := .post, endpoint := workflowPath (.str s) ++ "/activate", identifier := .str s }
  | deactivate {s : String} : Identifies arguments s →
      Asks arguments deactivateWorkflow
        { method := .post
          endpoint := workflowPath (.str s) ++ "/deactivate"
          identifier := .str s }
  | run {payload : Json} :
      (∀ input, arguments.get "inputData" = .ok input → input.isWritable = true →
        payload.isWritable = true) →
      Asks arguments executeWorkflow (runCall payload)
  | rerun {payload : Json} : payload.isWritable = true →
      Asks arguments retryExecution (runCall payload)
  | retried {i : Int} : Numbers arguments i →
      Asks arguments retryExecution (executionCall (.int i) (.bool true))
  | owner (workflowId : String) : Asks arguments retryExecution (fetchCall (.str workflowId))
  | executions {fields : List (String × Json)} : arguments = .obj fields →
      Asks arguments listExecutions
        { method := .get, endpoint := "/executions"
          parameters := some (filterKeys.map fun key => (key, Json.getField key fields)) }
  | execution {i : Int} (includeData : Bool) : Numbers arguments i →
      Asks arguments getExecution (executionCall (.int i) (.bool includeData))
  | deleteExecution {i : Int} : Numbers arguments i →
      Asks arguments deleteExecution
        { method := .delete, endpoint := executionPath (.int i), identifier := .int i }

variable {c : Client} {tool : Tool} {fields : List (String × Json)}

/-! ## Arguments -/

theorem isFinite_of_toInt? {x : Binary64} {i : Int}
    (h : Argument.toInt? (.float x) = .ok (some i)) : x.isFinite = true := by
  simp only [Argument.toInt?] at h
  split at h
  · cases h
  · exact (Binary64.truncate?_eq_some (Except.ok.inj h)).1

variable {known : Prop}

/-- The identifier of an execution is the integer that is read of it. -/
theorem executionId_eq {v : Json} (h : fields.lookup "id" = some v) :
    Argument.executionId (.obj fields) =
      (Argument.toInt? v).mapError .fault >>= fun
        | some i => .ok i
        | none => .error (.refusal (.invalid (if Argument.isGiven v then
            "Execution ID must be a number" else "Execution ID is required"))) := by
  have hget : (Json.obj fields).get "id" = .ok v := by simp [Json.get, Json.getField, h]
  cases hgiven : Argument.isGiven v with
  | true =>
      have hid : Argument.requireId "Execution" (.obj fields) = .ok v := by
        simp [Argument.requireId, hget, hgiven, Except.mapError, Bind.bind, Except.bind,
          Pure.pure, Except.pure]
      rw [Argument.executionId, hid, if_pos rfl]
      rfl
  | false =>
      have hid : Argument.requireId "Execution" (.obj fields) =
          .error (.refusal (.invalid "Execution ID is required")) := by
        simp [Argument.requireId, hget, hgiven, Except.mapError, Bind.bind, Except.bind]
        rfl
      -- what is not given is no numeral either
      have hread : Argument.toInt? v = .ok none := by
        cases v with
        | null => rfl
        | str s =>
            obtain rfl : s = "" := by simpa [Argument.isGiven] using hgiven
            rfl
        | _ => cases hgiven
      rw [Argument.executionId, hid, hread]
      rfl

/-- What a number that is no integer, and no execution, is answered with. -/
def unnumbered (x : Binary64) : Failure :=
  if x.isInfinite then .fault .infinite
  else .refusal (.invalid "Execution ID must be a number")

end Tool

end Flowgate
