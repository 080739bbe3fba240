import Flowgate.Log.Line

/-! # Statements to a log

A statement names the method of a log that is asked, and its event may be a template
with values to fill it. A statement below the threshold is dropped before its template
is looked at.
-/

namespace Flowgate

namespace Log

/-- What is said to a log. -/
structure Statement where
  method : Json
  event : Json
  fields : List (String × Json)

/-- The methods of a log, and the level of each. -/
def methods : List (String × Level) := [
  ("debug", .debug), ("info", .info), ("warning", .warning), ("warn", .warning),
  ("error", .error), ("exception", .error), ("critical", .critical), ("fatal", .critical)]

/-- Names of a statement's own parts, which no field may have. -/
def partNames : List String := ["self", "method_name", "event"]

/-- The field with the values for a template. -/
def valuesKey : String := "positional_args"

namespace Statement

/-- The level of a statement. -/
def level (s : Statement) : Except Error Level :=
  match s.method with
  | .str method =>
      match methods.lookup method with
      | some level =>
          if s.fields.any fun field => partNames.contains field.1 then .error (.fault .unlike)
          else .ok level
      | none => .error (.fault (.noMember .obj method))
  | _ => .error (.fault .unlike)

/-- The value that fills the template: the values together, or a single object with
fields among them. -/
def valueOf : Json → Except Error Json
  | .arr [.obj (field :: fields)] => .ok (.obj (field :: fields))
  | .arr values => .ok (.arr values)
  | .str s => .ok (.str s)
  | .obj [_] => .error (.fault (.missingKey (.int 0)))
  | .obj fields => .ok (.obj fields)
  | _ => .error (.fault .unlike)

/-- The name of a statement's event, its template filled. -/
def name (s : Statement) (values : Json) : Except Error Json := do
  let value ← valueOf values
  match s.event with
  | .str template => return .str (← (Template.fill template value).mapError .template)
  | .null => .error (.fault (.missingKey (.str "event")))
  | _ => .error (.fault .unlike)

/-- The record of a statement. Null values are an ordinary field. -/
def record (logger : String) (level : Level) (s : Statement) : Except Error Record := do
  let values := Json.getField valuesKey s.fields
  let others := s.fields.filter (·.1 != valuesKey)
  if values.isNull then return ⟨logger, level, s.event, s.fields⟩
  else if values.truthy then return ⟨logger, level, ← s.name values, others⟩
  else return ⟨logger, level, s.event, others⟩

/-- The line of a statement, unless it is dropped. -/
def line? (config : Config) (logger : String) (s : Statement) : Except Error (Option Line) := do
  let level ← s.level
  if config.admits level then return some (← config.line (← s.record logger level))
  else return none

end Statement

end Log

end Flowgate
