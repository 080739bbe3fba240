import Flowgate.Listing.Page
import Flowgate.Tool.Schema

/-! # Tools

The tools that agents can call, with what is told about them. The list below is
complete and in the order in which it is told.
-/

namespace Flowgate

/-- A tool. -/
inductive Tool where
  | listWorkflows | executeWorkflow | retryExecution | createWorkflow | validateWorkflow
  | getWorkflow | updateWorkflow | deleteWorkflow | activateWorkflow | deactivateWorkflow
  | listExecutions | getExecution | deleteExecution
  deriving DecidableEq, Repr

namespace Tool

/-- All tools, in the order in which they are told. -/
def all : List Tool := [
  listWorkflows, executeWorkflow, retryExecution, createWorkflow, validateWorkflow, getWorkflow,
  updateWorkflow, deleteWorkflow, activateWorkflow, deactivateWorkflow, listExecutions,
  getExecution, deleteExecution]

/-- The list of tools leaves none out. -/
theorem mem_all (tool : Tool) : tool ∈ all := by cases tool <;> decide

/-- The name by which a tool is called. -/
def name : Tool → String
  | listWorkflows => "list_workflows"
  | executeWorkflow => "execute_workflow"
  | retryExecution => "retry_execution"
  | createWorkflow => "create_workflow"
  | validateWorkflow => "validate_workflow"
  | getWorkflow => "get_workflow"
  | updateWorkflow => "update_workflow"
  | deleteWorkflow => "delete_workflow"
  | activateWorkflow => "activate_workflow"
  | deactivateWorkflow => "deactivate_workflow"
  | listExecutions => "list_executions"
  | getExecution => "get_execution"
  | deleteExecution => "delete_execution"

/-- The tool of a name. -/
def ofName? (name : String) : Option Tool := all.find? (·.name == name)

/-- What an agent is told about a tool. -/
def description : Tool → String
  | listWorkflows => "List workflows from n8n with optional search, filter and pagination"
  | executeWorkflow => "Execute a workflow manually by ID"
  | retryExecution => "Retry a failed execution"
  | createWorkflow => "Create a new workflow in n8n"
  | validateWorkflow =>
      "Check a workflow definition locally and return every structural error, " ++
        "or the compiled n8n workflow"
  | getWorkflow => "Get a workflow by ID"
  | updateWorkflow => "Update an existing workflow"
  | deleteWorkflow => "Delete a workflow by ID"
  | activateWorkflow => "Activate a workflow by ID"
  | deactivateWorkflow => "Deactivate a workflow by ID"
  | listExecutions => "List all executions from n8n with optional filters"
  | getExecution => "Get details of a specific execution by ID"
  | deleteExecution => "Delete an execution by ID"

/-- A field without a description and without a default. -/
def bare (name : String) (schema : Schema) : Schema.Field := (name, schema, none, none)

/-- A field with a description. -/
def described (name : String) (schema : Schema) (description : String) : Schema.Field :=
  (name, schema, some description, none)

/-- A field with a default. -/
def defaulted (name : String) (schema : Schema) (default : Int) : Schema.Field :=
  (name, schema, none, some (.int default))

/-- What the schemas of tools ask of a node. -/
def nodeSchema : Schema := .object [
  bare "type" .text, bare "name" .text, bare "parameters" .anyObject, bare "typeVersion" .number,
  bare "position" (.list .number), bare "credentials" .anyObject] ["type", "name"]

/-- What the schemas of tools ask of a connection. -/
def connectionSchema : Schema := .object [
  bare "source" .text, bare "target" .text, defaulted "sourceOutput" .number 0,
  defaulted "targetInput" .number 0] ["source", "target"]

/-- The fields of a definition. -/
def definitionFields : List Schema.Field := [
  bare "name" .text, bare "nodes" (.list nodeSchema),
  bare "connections" (.list connectionSchema)]

/-- The identifier of a workflow and nothing else. -/
def workflowIdSchema : Schema :=
  .object [described "id" .text "The ID of the workflow"] ["id"]

/-- What a tool asks of its arguments. -/
def schema : Tool → Schema
  | listWorkflows => .object [
      described "search" .text "Search workflows by name (case-insensitive)",
      described "active" .flag
        "Filter by active status (true=active only, false=inactive only, omitted=all)",
      described "tags" (.list .text) "Filter by workflow tags",
      ("limit", .number, some "Maximum number of workflows to return",
        some (.int Listing.defaultLimit)),
      ("offset", .number, some "Number of workflows to skip for pagination", some (.int 0))] []
  | executeWorkflow => .object [
      described "id" .text "The ID of the workflow to execute",
      described "inputData" .anyObject
        "Optional input data to pass to the workflow (for manual trigger workflows)"] ["id"]
  | retryExecution => .object [described "id" .number "The ID of the execution to retry"] ["id"]
  | createWorkflow => .object definitionFields ["nodes"]
  | validateWorkflow => .object definitionFields ["nodes"]
  | updateWorkflow => .object (bare "id" .text :: definitionFields) ["id", "nodes"]
  | getWorkflow => workflowIdSchema
  | deleteWorkflow => workflowIdSchema
  | activateWorkflow => workflowIdSchema
  | deactivateWorkflow => workflowIdSchema
  | listExecutions => .object [
      bare "includeData" .flag, bare "status" (.simple .text ["error", "success", "waiting"]),
      bare "workflowId" .text, bare "projectId" .text, bare "limit" .number,
      bare "cursor" .text] []
  | getExecution => .object [bare "id" .number, bare "includeData" .flag] ["id"]
  | deleteExecution => .object [bare "id" .number] ["id"]

/-- What is told about a tool. -/
def toJson (tool : Tool) : Json :=
  .obj [("name", .str tool.name), ("description", .str tool.description),
    ("inputSchema", tool.schema.toJson)]

end Tool

end Flowgate
