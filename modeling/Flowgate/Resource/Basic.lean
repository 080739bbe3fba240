import Flowgate.Json.Basic
import Flowgate.Text.Blank

/-! # Resources

What agents can read: two listings, and the details of one workflow or of one
execution. A resource is named by a locator; final slashes do not count.
-/

namespace Flowgate

/-- What a locator asks for. -/
inductive Resource where
  | workflows
  | executionStats
  | workflow (id : String)
  /-- The identifier as it is written, which may be no number. -/
  | execution (id : String)
  deriving DecidableEq, Repr

namespace Resource

/-- The locator of the listing of workflows. -/
def workflowsUri : String := "n8n://workflows"

/-- The locator of the statistics. -/
def executionStatsUri : String := "n8n://execution-stats"

/-- The type of everything that can be read. -/
def mimeType : String := "application/json"

/-- The identifier behind the start of a locator: one line at least one character
long. A line feed may end it. -/
def identifierBehind? (start uri : String) : Option String :=
  if start.toList.isPrefixOf uri.toList then
    match (uri.toList.drop start.length).span (· != '\n') with
    | ([], _) => none
    | (id, []) => some (String.ofList id)
    | (id, ['\n']) => some (String.ofList id)
    | _ => none
  else none

/-- The resource of a locator without final slashes. -/
def ofUri? (uri : String) : Option Resource :=
  if uri = workflowsUri then some workflows
  else if uri = executionStatsUri then some executionStats
  else
    match identifierBehind? "n8n://workflows/" uri with
    | some id => some (workflow id)
    | none => (identifierBehind? "n8n://executions/" uri).map execution

/-- What is told about a resource, under a key for its locator. -/
def describe (key uri name description : String) : Json :=
  .obj [(key, .str uri), ("name", .str name), ("description", .str description),
    ("mimeType", .str mimeType)]

/-- The listings. -/
def listings : List Json := [
  describe "uri" workflowsUri "Workflows List" "List of all available workflows",
  describe "uri" executionStatsUri "Execution Statistics"
    "Summary statistics of workflow executions"]

/-- The forms of the locators of details. -/
def templates : List Json := [
  describe "uriTemplate" "n8n://workflows/\x7bid\x7d" "Workflow Details"
    "Details of a specific workflow",
  describe "uriTemplate" "n8n://executions/\x7bid\x7d" "Execution Details"
    "Details of a specific execution"]

end Resource

end Flowgate
