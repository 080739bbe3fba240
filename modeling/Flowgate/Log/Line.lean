import Flowgate.Fault
import Flowgate.Log.Event
import Flowgate.Log.Template
import Flowgate.Text.Blank

/-! # Lines of the log

An event below the threshold is dropped. The others become lines: objects for
machines, or texts for people with the fields in the order of their names.
-/

namespace Flowgate

namespace Log

/-- Why something cannot be logged. -/
inductive Error where
  /-- The threshold is named by a text that is no level. -/
  | unknownLevel (name : String)
  /-- The name of the threshold is that of something else. -/
  | notLevel
  | template (error : TemplateError)
  | fault (fault : Fault)

/-- What is said about something that cannot be logged. -/
def Error.message : Error → String
  | unknownLevel name => s!"Unknown level: {Text.quoted name}"
  | notLevel => "Level not an integer or a valid string"
  | template error => error.message
  | fault f => f.message

/-- Which events become lines, and of which form. -/
structure Config where
  /-- The least rank that becomes a line. -/
  threshold : Nat
  /-- Lines are objects. -/
  asJson : Bool

/-- The capital form of a character in the name of a threshold. -/
def capital (c : Char) : List Char :=
  if c = 'ı' then ['I'] else if c = 'ſ' then ['S']
  else if c = 'ﬅ' ∨ c = 'ﬆ' then ['S', 'T'] else [c.toUpper]

/-- How lines look that nobody has configured. -/
def plainLine : String := "%(levelname)s:%(name)s:%(message)s"

/-- What names stand for in capital letters: ranks, and two things that are none. -/
def ranks : List (String × Except Error Nat) := [
  ("CRITICAL", .ok 50), ("FATAL", .ok 50), ("ERROR", .ok 40), ("WARN", .ok 30),
  ("WARNING", .ok 30), ("INFO", .ok 20), ("DEBUG", .ok 10), ("NOTSET", .ok 0),
  ("BASIC_FORMAT", .error (.unknownLevel plainLine)), ("_STYLES", .error .notLevel)]

/-- The threshold of a name, in any case; a name that stands for nothing is `info`. -/
def thresholdOf (name : String) : Except Error Nat :=
  (ranks.lookup (String.ofList (name.toList.flatMap capital))).getD (.ok 20)

/-- The log of a named threshold. -/
def Config.of (levelName : String) (asJson : Bool) : Except Error Config :=
  (thresholdOf levelName).map (⟨·, asJson⟩)

/-- Whether events of a level become lines. -/
def Config.admits (config : Config) (level : Level) : Bool := config.threshold ≤ level.rank

/-- An event and the name of the log that it goes to. Null in place of its name says
nothing. -/
structure Record where
  logger : String
  level : Level
  name : Json
  fields : List (String × Json)

/-- The record of an event. -/
def Record.of (logger : String) (e : Event) : Record := ⟨logger, e.level, .str e.name, e.fields⟩

/-- A line; a text may take several rows. -/
inductive Line where
  | object (fields : List (String × Json))
  | text (rows : List String)

/-- What every line says of its event besides the event's fields. -/
def lineKeys : List String := ["event", "logger", "level", "timestamp"]

/-- Fields that only say whether the program's own state is to be shown. -/
def stateKeys : List String := ["exc_info", "stack_info"]

/-- The fields of an event; a field under one of the line's own keys gives way. -/
def Record.details (r : Record) : List (String × Json) :=
  r.fields.filter fun field => !lineKeys.contains field.1 && !stateKeys.contains field.1

/-- The fields of a record, its name, its log and its level. -/
def Record.object (r : Record) : List (String × Json) :=
  r.details ++ (if r.name.isNull then [] else [("event", r.name)]) ++
    [("logger", .str r.logger), ("level", .str r.level.name)]

/-- Fill a text up with blanks on the right. -/
def fill (width : Nat) (s : String) : String :=
  s ++ String.ofList (List.replicate (width - s.length) ' ')

/-- Characters that would make a text inside a line hard to tell from what is
around it. -/
def isDelimiter (c : Char) : Bool :=
  c == ' ' || c == '\t' || c == '\r' || c == '\n' || c == '=' || c == '"' || c == '\''

/-- A value inside a line of text: a text without delimiters is plain. -/
def fieldText : Json → String
  | .str s => if s.toList.any isDelimiter then Text.quoted s else s
  | v => v.literal

/-- The other name of a log, which stands beside its name. -/
def otherNameKey : String := "logger_name"

/-- Fields that are texts of their own below the line. -/
def belowKeys : List String := ["stack", "exception"]

/-- The columns of a record as a text: level, name, log, and the fields by name. -/
def Record.columns (r : Record) : List String :=
  let fields := r.details.filter fun field =>
    field.1 != otherNameKey && !belowKeys.contains field.1
  s!"[{fill 9 r.level.name}]" :: (if r.name.isNull then [] else [fill 30 r.name.plain]) ++
    s!"[{r.logger}]" :: ((r.details.lookup otherNameKey).map fun v => s!"[{v.plain}]").toList ++
    (fields.mergeSort fun a b => a.1 ≤ b.1).map fun (key, value) => s!"{key}={fieldText value}"

/-- What stands below the line under a key: a text or nothing. -/
def Record.below (r : Record) (key : String) : Except Error (Option String) :=
  match Json.getField key r.details with
  | .null => .ok none
  | .str s => .ok (some s)
  | _ => .error (.fault .unlike)

/-- The rule between two texts below a line. -/
def rule : String := "\n\n" ++ String.ofList (List.replicate 79 '=') ++ "\n"

/-- A record as a text and what stands below it, row by row. -/
def Record.rows (r : Record) : Except Error (List String) := do
  let line := Text.dropLastWhile (· == ' ') (" ".intercalate r.columns).toList
  let stack ← r.below "stack"
  let exception ← r.below "exception"
  let text := String.ofList line ++ (stack.map ("\n" ++ ·)).getD "" ++
    (if stack.isSome && exception.isSome then rule else "") ++
    (exception.map ("\n" ++ ·)).getD ""
  return text.splitOn "\n"

/-- The line of a record. -/
def Config.line (config : Config) (r : Record) : Except Error Line :=
  if config.asJson then .ok (.object r.object) else r.rows.map .text

/-- The lines of records, without those below the threshold. -/
def Config.lines (config : Config) (rs : List Record) : Except Error (List Line) :=
  (rs.filter fun r => config.admits r.level).mapM config.line

end Log

end Flowgate
