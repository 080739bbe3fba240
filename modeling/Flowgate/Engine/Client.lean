import Flowgate.Engine.Link
import Flowgate.Engine.Parameter
import Flowgate.Json.Writer
import Flowgate.Settings.Basic

/-! # The client of the engine

A client knows where the engine is and under which key it is asked. It makes one
request at a time: a request that fails ends the computation, and nothing is sent
after it. The key goes into the request and nowhere else.
-/

namespace Flowgate

/-- Where the engine is, the key, and how long a request may take. -/
structure Client where
  baseUrl : String
  apiKey : String
  timeout : Json

/-- What is asked of the engine, before the client's own part is added. -/
structure Call where
  method : Method
  endpoint : String
  /-- What is pasted into the endpoint, where something is. -/
  identifier : Json := .null
  /-- The value of the body; null is no body. -/
  body : Json := .null
  /-- The parameters of the query, where the call has a query. -/
  parameters : Option (List (String × Json)) := none

namespace Client

/-- A text, or the settings' own where it is unset. -/
def textOr (member : String) (own : String) (v : Json) : Except Failure String :=
  if v.truthy then
    match v with
    | .str s => .ok s
    | v => .error (.fault (.noMember v.kind member))
  else .ok own

/-- A client; what is unset comes from the settings. A blank key is refused. -/
def create (settings : Settings) (baseUrl apiKey timeout : Json) : Except Failure Client := do
  let baseUrl ← textOr "rstrip" settings.host baseUrl
  let apiKey ← textOr "strip" settings.apiKey apiKey
  let key := Text.strip apiKey
  if key = "" then .error .noApiKey
  return {
    baseUrl := Text.dropSlashes baseUrl
    apiKey := key
    timeout := if timeout.isNull then .float settings.requestTimeout else timeout }

/-- The locator of an endpoint. -/
def locate (c : Client) (endpoint : String) : Except Url.Error Url := do
  (← Url.parse (c.baseUrl ++ endpoint)).rooted

/-- The locator of a call. A call with parameters replaces the query of the base. -/
def withParameters (url : Url) : Option (List (String × Json)) → Except Url.Error Url
  | none => .ok url
  | some parameters => url.withQuery (Engine.queryText (Engine.setParameters parameters))

/-- The text of a body. -/
def bodyText (v : Json) : Except Failure (Option String) :=
  if v.isNull then .ok none else (v.body.mapError .unwritable).map some

/-- A value as it is pasted into a text. -/
def pasted (v : Json) : Except Failure String := v.pasted.mapError .unwritable

/-- A text that goes into a header, which holds ASCII only. -/
def headerText (text : String) : Except Failure String :=
  if Text.isAscii text then .ok text else .error (.unsendableText text)

/-- The locator and the request of a call. The endpoint is made first, and its parameters are
made into texts before they are put into the locator. -/
def prepare (c : Client) (call : Call) : Except Failure (Url × Request) := do
  let _ ← pasted call.identifier
  let url ← (c.locate call.endpoint).mapError .url
  let apiKey ← headerText c.apiKey
  let _ ← pasted (.obj (call.parameters.getD []))
  let url ← (withParameters url call.parameters).mapError .url
  let body ← bodyText call.body
  let _ ← headerText url.place
  return (url, ⟨call.method, url.toText, apiKey, c.timeout, body⟩)

/-- Make a call and read the answer. Statuses from 400 on are failures, and so is any
answer at a locator without a host. -/
def request (c : Client) (call : Call) : Exchange Json := do
  let site : List (String × Json) :=
    [("method", .str call.method.name), ("endpoint", .str call.endpoint)]
  let (url, request) ← MonadExcept.ofExcept (c.prepare call)
  match ← Exchange.send request with
  | .unreachable message =>
      Exchange.log .error "n8n_api_error" (site ++ [("error", .str message)])
      Exchange.fail (.engine ⟨s!"HTTP error: {message}", none, none⟩)
  | .aborted reason => Exchange.fail reason.failure
  | .answer response =>
      if !url.isAbsolute then Exchange.fail (.placeless url.toText)
      let status := response.status
      Exchange.log .debug "n8n_api_request" (site ++ [("status_code", .int status)])
      if status ≥ 400 then
        Exchange.log .error "n8n_api_error"
          (site ++ [("status_code", .int status), ("response_body", response.body)])
        Exchange.fail (.engine ⟨s!"n8n API error: {status}", some status, some response.body⟩)
      else return response.body

/-- The endpoint of one workflow. -/
def workflowPath (id : Json) : String := s!"/workflows/{id.plain}"

/-- The endpoint of one execution. -/
def executionPath (id : Json) : String := s!"/executions/{id.plain}"

/-- Create a workflow. -/
def createWorkflow (c : Client) (workflow : Json) : Exchange Json := do
  let name ← Exchange.shaped (workflow.get "name")
  Exchange.log .info "create_workflow" [("name", name)]
  let created ← c.request { method := .post, endpoint := "/workflows", body := workflow }
  let id ← Exchange.shaped (created.get "id")
  let name ← Exchange.shaped (created.get "name")
  Exchange.log .info "workflow_created" [("workflow_id", id), ("name", name)]
  return created

/-- Replace a workflow. -/
def updateWorkflow (c : Client) (id workflow : Json) : Exchange Json := do
  Exchange.log .info "update_workflow" [("workflow_id", id)]
  let updated ← c.request {
    method := .put
    endpoint := workflowPath id
    identifier := id
    body := workflow }
  Exchange.log .info "workflow_updated" [("workflow_id", id)]
  return updated

/-- Fetch a workflow. -/
def getWorkflow (c : Client) (id : Json) : Exchange Json := do
  Exchange.log .debug "get_workflow" [("workflow_id", id)]
  c.request { method := .get, endpoint := workflowPath id, identifier := id }

/-- Texts joined by commas; everything else than a text is refused. -/
def joinTexts (position : Nat) : List Json → Except Fault (List String)
  | [] => .ok []
  | .str s :: rest => (joinTexts (position + 1) rest).map (s :: ·)
  | v :: _ => .error (.notJoinable position v.kind)

/-- Tags as one parameter; unset tags are none. -/
def tagParameter (tags : Json) : Except Fault Json :=
  if tags.truthy then do
    return .str (",".intercalate (← joinTexts 0 (← tags.items)))
  else .ok .null

/-- Fetch one page of the workflows. -/
def listWorkflows (c : Client) (limit cursor active tags : Json) : Exchange Json := do
  let tags ← Exchange.shaped (tagParameter tags)
  c.request {
    method := .get
    endpoint := "/workflows"
    parameters := some [("limit", limit), ("cursor", cursor), ("active", active), ("tags", tags)] }

/-- Fetch pages from a cursor on, behind the workflows gathered before. An answer
that is a list is the last page. The bound counts the pages. -/
def pagesFrom (c : Client) (pageSize : Json) : Nat → Json → List Json → Exchange (List Json)
  | 0, _, gathered => return gathered
  | fuel + 1, cursor, gathered => do
      match ← c.listWorkflows pageSize cursor .null .null with
      | .arr items => return gathered ++ items
      | page =>
          let data ← Exchange.shaped (page.getOr "data" (.arr []))
          let gathered := gathered ++ (← Exchange.shaped data.items)
          let next ← Exchange.shaped (page.get "nextCursor")
          if next.truthy then c.pagesFrom pageSize fuel next gathered else return gathered

/-- Fetch all workflows. There are no more pages than outcomes of requests. -/
def listAllWorkflows (c : Client) (pageSize : Json) : Exchange (List Json) := do
  let link ← get
  let workflows ← c.pagesFrom pageSize (link.script.length + 1) .null []
  Exchange.log .debug "list_all_workflows" [("count", .nat workflows.length)]
  return workflows

/-- Delete a workflow. -/
def deleteWorkflow (c : Client) (id : Json) : Exchange Json := do
  Exchange.log .info "delete_workflow" [("workflow_id", id)]
  c.request { method := .delete, endpoint := workflowPath id, identifier := id }

/-- Let a workflow's triggers work. -/
def activateWorkflow (c : Client) (id : Json) : Exchange Json := do
  Exchange.log .info "activate_workflow" [("workflow_id", id)]
  c.request { method := .post, endpoint := workflowPath id ++ "/activate", identifier := id }

/-- Stop a workflow's triggers. -/
def deactivateWorkflow (c : Client) (id : Json) : Exchange Json := do
  Exchange.log .info "deactivate_workflow" [("workflow_id", id)]
  c.request { method := .post, endpoint := workflowPath id ++ "/deactivate", identifier := id }

/-- What executions are asked for; null is unset. -/
structure ExecutionFilter where
  includeData : Json := .null
  status : Json := .null
  workflowId : Json := .null
  projectId : Json := .null
  limit : Json := .null
  cursor : Json := .null

/-- The parameters of a filter, in the order of the query. -/
def ExecutionFilter.parameters (f : ExecutionFilter) : List (String × Json) := [
  ("includeData", f.includeData), ("status", f.status), ("workflowId", f.workflowId),
  ("projectId", f.projectId), ("limit", f.limit), ("cursor", f.cursor)]

/-- Fetch one page of executions. -/
def listExecutions (c : Client) (f : ExecutionFilter) : Exchange Json := do
  Exchange.log .debug "list_executions"
    [("params", .obj (Engine.setParameters f.parameters))]
  c.request { method := .get, endpoint := "/executions", parameters := some f.parameters }

/-- Why an execution may come without its data. -/
def missingDataHint : String :=
  "Check n8n settings: Save Data on Success should be 'All', not 'None'"

/-- Fetch an execution, with its data if asked. -/
def getExecution (c : Client) (id includeData : Json) : Exchange Json := do
  Exchange.log .info "get_execution_request"
    [("execution_id", id), ("include_data", includeData)]
  let execution ← c.request {
    method := .get
    endpoint := executionPath id
    identifier := id
    parameters := if includeData.truthy then some [("includeData", .bool true)] else none }
  if includeData.truthy then
    let data ← Exchange.shaped (execution.get "data")
    if data.isNull then
      Exchange.log .warning "execution_data_is_null"
        [("execution_id", id), ("hint", .str missingDataHint)]
  return execution

/-- Delete an execution. -/
def deleteExecution (c : Client) (id : Json) : Exchange Json := do
  Exchange.log .info "delete_execution" [("execution_id", id)]
  c.request { method := .delete, endpoint := executionPath id, identifier := id }

/-- The endpoint that runs a workflow; the engine does not document it. -/
def runPath : String := "/workflows/run"

/-- The body that runs a workflow: the workflow, and data for it if there is any. -/
def runPayload (workflow runData : Json) : Except Fault Json := do
  let data : List (String × Json) := [
    ("id", ← workflow.get "id"), ("name", ← workflow.get "name"),
    ("nodes", ← workflow.getOr "nodes" (.arr [])),
    ("connections", ← workflow.getOr "connections" (.obj [])),
    ("active", ← workflow.getOr "active" (.bool false)),
    ("createdAt", ← workflow.get "createdAt"), ("updatedAt", ← workflow.get "updatedAt")]
  return .obj (("workflowData", .obj data) ::
    if runData.truthy then [("runData", runData)] else [])

/-- Ask the engine to run a fetched workflow. -/
def run (c : Client) (workflow runData : Json) : Exchange Json := do
  let payload ← Exchange.shaped (runPayload workflow runData)
  c.request { method := .post, endpoint := runPath, body := payload }

/-- A value as the key of an object. -/
def keyText : Json → Except Failure String
  | .str s => .ok s
  | .null => .ok "null"
  | .bool b => .ok (if b then "true" else "false")
  | .float x => if x.isFinite then .ok x.toText else .error (.unwritable .special)
  | v => pasted v

/-- Data for the first node of a workflow, if there is input and a node. -/
def inputData (workflow input : Json) : Except Fault (Option (Json × Json)) := do
  if input.truthy then
    let nodes ← workflow.get "nodes"
    if nodes.truthy then
      let name ← (← nodes.first).require "name"
      return some (← name.asKey, .arr [.obj [("json", input)]])
  return none

/-- Run a workflow, with input for its first node. -/
def executeWorkflow (c : Client) (id input : Json) : Exchange Json := do
  Exchange.log .info "execute_workflow" [("workflow_id", id)]
  Exchange.log .warning "undocumented_endpoint" [("endpoint", .str runPath)]
  let workflow ← c.getWorkflow id
  match ← Exchange.shaped (inputData workflow input) with
  | none => c.run workflow .null
  | some (name, data) =>
      c.run workflow (.obj [(← MonadExcept.ofExcept (keyText name), data)])

/-- Run the workflow of an execution again, with the execution's data. -/
def retryExecution (c : Client) (id : Json) : Exchange Json := do
  Exchange.log .info "retry_execution" [("execution_id", id)]
  let execution ← c.getExecution id (.bool true)
  let workflowId ← Exchange.shaped (execution.get "workflowId")
  if workflowId.truthy then
    let workflow ← c.getWorkflow (.str (← MonadExcept.ofExcept (pasted workflowId)))
    let data ← Exchange.shaped (execution.get "data")
    c.run workflow data
  else
    Exchange.fail (.engine ⟨"Cannot retry execution: missing workflow ID", none, none⟩)

end Client

/-- What a client can be asked to do. -/
inductive Operation where
  | createWorkflow (workflow : Json)
  | updateWorkflow (id workflow : Json)
  | getWorkflow (id : Json)
  | listWorkflows (limit cursor active tags : Json)
  | listAllWorkflows (pageSize : Json)
  | deleteWorkflow (id : Json)
  | activateWorkflow (id : Json)
  | deactivateWorkflow (id : Json)
  | listExecutions (filter : Client.ExecutionFilter)
  | getExecution (id includeData : Json)
  | deleteExecution (id : Json)
  | executeWorkflow (id input : Json)
  | retryExecution (id : Json)

/-- Do what is asked. -/
def Operation.run (c : Client) : Operation → Exchange Json
  | createWorkflow workflow => c.createWorkflow workflow
  | updateWorkflow id workflow => c.updateWorkflow id workflow
  | getWorkflow id => c.getWorkflow id
  | listWorkflows limit cursor active tags => c.listWorkflows limit cursor active tags
  | listAllWorkflows pageSize => return .arr (← c.listAllWorkflows pageSize)
  | deleteWorkflow id => c.deleteWorkflow id
  | activateWorkflow id => c.activateWorkflow id
  | deactivateWorkflow id => c.deactivateWorkflow id
  | listExecutions filter => c.listExecutions filter
  | getExecution id includeData => c.getExecution id includeData
  | deleteExecution id => c.deleteExecution id
  | executeWorkflow id input => c.executeWorkflow id input
  | retryExecution id => c.retryExecution id

end Flowgate
