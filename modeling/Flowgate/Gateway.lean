import Flowgate.Json.Writer
import Flowgate.Locator.Basic
import Flowgate.Reading.Scalar
import Flowgate.Resource.Read
import Flowgate.Tool.Call

/-! # The gateway

What agents see of the program. Tools are described and called; arguments are
checked against the schema of a tool before it runs, and a failure of a call is
itself an answer. Resources are described and read, and a failure to read fails. A
request whose parameters cannot be read is refused before anything else happens.
-/

namespace Flowgate

namespace Gateway

variable (c : Client)

/-- The tools, with their schemas. -/
def tools : Json := .obj [("tools", .arr (Tool.all.map Tool.toJson))]

/-- The listings of resources. -/
def resources : Json := .obj [("resources", .arr Resource.listings)]

/-- The forms of the locators of details. -/
def resourceTemplates : Json := .obj [("resourceTemplates", .arr Resource.templates)]

/-- The answer to a call: a text, and whether it tells of an error. -/
def callAnswer (text : String) (isError : Bool) : Json :=
  .obj [("content", .arr [.obj [("type", "text"), ("text", .str text)]]),
    ("isError", .bool isError)]

/-- What the schema of a tool says against arguments. Names that are no tool have
no schema. -/
def violation? (name : String) (arguments : Json) : Option Schema.Violation :=
  (Tool.ofName? name).bind fun tool => tool.schema.violation arguments

/-- Call a tool, turning its failure into an answer. -/
def runTool (name : String) (arguments : Json) : Exchange Json :=
  tryCatch
    (do return callAnswer (← Tool.call c name arguments).pretty false)
    fun failure => do
      Exchange.log .error "tool_call_failed"
        [("tool", .str name), ("error", .str failure.message)]
      return callAnswer failure.message true

/-- Answer a call. Unset arguments are no arguments. -/
def callTool (name : String) (arguments : Json) : Exchange Json :=
  let arguments := if arguments.truthy then arguments else .obj []
  match violation? name arguments with
  | some violation =>
      return callAnswer s!"Input validation error: {violation.message}" true
  | none => runTool c name arguments

/-- Answer a reading; the locator is given back in its one form. -/
def readResource (statsLimit : Json) (locator : Locator) : Exchange Json := do
  let uri := locator.toText
  let content ← Resource.read c statsLimit uri
  return .obj [("contents", .arr [.obj [("uri", .str uri), ("mimeType", .str Resource.mimeType),
    ("text", .str content.pretty)]])]

/-- A locator, as agents write it. -/
def readLocator : Json → Reading Locator
  | .str s => (Locator.read s).mapError fun error => [⟨[], .badLocator error⟩]
  | _ => Reading.refuse .notLocator

/-- The name and the arguments of a call. -/
def readCall (params : List (String × Json)) : Reading (String × Json) :=
  Except.ok (fun name arguments => (name, Json.ofOption Json.obj arguments))
    |> (Reading.ap · (Reading.required "name" Json.readString params))
    |> (Reading.ap · (Reading.optional ["arguments"] none (Reading.orNull Json.readMap) params))

/-- What an agent can ask. -/
inductive Request where
  | listTools
  | listResources
  | listTemplates
  | callTool
  | readResource
  deriving DecidableEq, Repr

/-- The request of a name. -/
def Request.ofName? (name : String) : Option Request :=
  [("tools/list", listTools), ("resources/list", listResources),
    ("resources/templates/list", listTemplates), ("tools/call", callTool),
    ("resources/read", readResource)].lookup name

/-- Use parameters that were read. -/
def withParams {α : Type} (read : List (String × Json) → Reading α)
    (params : List (String × Json)) (use : α → Exchange Json) : Exchange Json :=
  match Reading.within (.key "params") (read params) with
  | .ok x => use x
  | .error issues => Exchange.fail (.issues issues)

/-- Answer a request. -/
def answer (statsLimit : Json) (params : List (String × Json)) : Request → Exchange Json
  | .listTools => return tools
  | .listResources => return resources
  | .listTemplates => return resourceTemplates
  | .callTool => withParams readCall params fun (name, arguments) => callTool c name arguments
  | .readResource =>
      withParams (Reading.required "uri" readLocator) params (readResource c statsLimit)

end Gateway

end Flowgate
