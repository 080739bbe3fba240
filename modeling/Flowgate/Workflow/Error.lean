import Flowgate.Json.Literal
import Flowgate.Reading.Issue

/-! # Why a definition is refused

A definition is refused for one cause. What leaves the program about it is a
report: a kind, a message and the details of the cause.
-/

namespace Flowgate

/-- An end of a connection. -/
inductive Side where
  | source | target
  deriving DecidableEq, Repr

/-- The name of an end in reports. -/
def Side.name : Side → String
  | source => "source"
  | target => "target"

/-- The end of a name. -/
def Side.ofName? : String → Option Side
  | "source" => some .source
  | "target" => some .target
  | _ => none

/-- A port of a connection. -/
inductive PortField where
  | sourceOutput | targetInput
  deriving DecidableEq, Repr

/-- The key under which a port is given. -/
def PortField.name : PortField → String
  | sourceOutput => "sourceOutput"
  | targetInput => "targetInput"

/-- Why a definition is refused. -/
inductive CompileError where
  /-- There is no node. -/
  | emptyWorkflow
  /-- Two nodes bear one name. -/
  | duplicateName (name : String)
  /-- A connection has an end that no node bears. -/
  | unknownReference (connection : Nat) (side : Side) (name : String)
  /-- A port is not a natural. -/
  | invalidPort (connection : Nat) (field : PortField) (value : Json)
  /-- The value is no definition at all. -/
  | invalidSpec (issue : Issue)

namespace CompileError

/-- The kinds of reports. -/
inductive Kind where
  | general | emptyWorkflow | duplicateName | unknownReference | invalidPort | invalidSpec
  deriving DecidableEq, Repr

/-- The name by which callers tell refusals apart. -/
def Kind.name : Kind → String
  | general => "CompileError"
  | emptyWorkflow => "EmptyWorkflow"
  | duplicateName => "DuplicateNodeName"
  | unknownReference => "UnknownNodeReference"
  | invalidPort => "InvalidPortIndex"
  | invalidSpec => "InvalidWorkflowSpec"

/-- What leaves the program about a refusal. -/
structure Report where
  kind : Kind
  message : String
  details : List (String × Json)

namespace Report

/-- A report as an object. -/
def toJson (r : Report) : Json :=
  .obj (("kind", .str r.kind.name) :: ("message", .str r.message) :: r.details)

/-- A refusal of no particular kind. -/
def general (message : String) : Report := ⟨.general, message, []⟩

/-- There is no node. -/
def emptyWorkflow : Report := ⟨.emptyWorkflow, "Workflow must declare at least one node", []⟩

/-- A name is borne twice. -/
def duplicateName (name : Json) : Report :=
  ⟨.duplicateName, s!"Duplicate node name: '{name.plain}'", [("name", name)]⟩

/-- An end names no node. -/
def unknownReference (connection : Json) (side : Side) (name : Json) : Report :=
  ⟨.unknownReference,
    s!"Connection {connection.plain} {side.name} references unknown node '{name.plain}'",
    [("connection_index", connection), ("side", .str side.name), ("name", name)]⟩

/-- A port is no natural; the value is quoted as it was given. -/
def invalidPort (connection field value : Json) : Report :=
  ⟨.invalidPort,
    s!"Connection {connection.plain} has invalid {field.plain}: {value.literal} " ++
      "(expected a non-negative integer)",
    [("connection_index", connection), ("field", field), ("value", value)]⟩

/-- The place of an issue in words; the whole value has a name of its own. -/
def placeText (location : List Json) : String :=
  let path := ".".intercalate (location.map Json.plain)
  if path = "" then "<root>" else path

/-- A value at a place is not what a definition has there. -/
def invalidSpec (location : List Json) (detail : Json) : Report :=
  ⟨.invalidSpec, s!"Invalid workflow spec at {placeText location}: {detail.plain}",
    [("location", .arr location), ("detail", detail)]⟩

end Report

/-- What leaves the program about a cause. -/
def report : CompileError → Report
  | emptyWorkflow => .emptyWorkflow
  | duplicateName name => .duplicateName (.str name)
  | unknownReference connection side name =>
      .unknownReference (.nat connection) side (.str name)
  | invalidPort connection field value =>
      .invalidPort (.nat connection) (.str field.name) value
  | invalidSpec issue =>
      .invalidSpec (issue.location.map Step.toJson) (.str issue.offence.message)

end CompileError

end Flowgate
