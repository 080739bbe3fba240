import Flowgate.Reading.Scalar
import Flowgate.Text.Lowercase

/-! # Settings

Settings come from variables. The names of variables are compared without regard
to case, variables that are no setting are passed over, and a setting without a
variable has its default. A setting that is given as a value of its own needs no
variable.
-/

namespace Flowgate

/-- Names in order, each once. A name may be bound to no value. -/
abbrev Variables := List (String × Option String)

namespace Variables

/-- Bind a name: in its place if it is there, else at the end. -/
def set (name : String) (value : Option String) : Variables → Variables
  | [] => [(name, value)]
  | (n, v) :: rest => if n = name then (n, value) :: rest else (n, v) :: set name value rest

/-- What the last of the names that are equal but for their case is bound to; the name
asked for is in lower case. -/
def valueOf? (name : String) (vars : Variables) : Option String :=
  (vars.reverse.find? fun v => Text.lowercase v.1 == name).bind (·.2)

end Variables

/-- The settings of the program. -/
structure Settings where
  appName : String
  logLevel : String
  logJson : Bool
  /-- The engine's address, with the version of its interface. -/
  host : String
  apiKey : String
  /-- How many seconds a request may take. -/
  requestTimeout : Binary64
  /-- How many recent executions the statistics cover. -/
  statsLimit : Int

namespace Settings

/-- The setting of a name, read from the value given for it or else from its variable. -/
def setting {α : Type} (given : List (String × Json)) (vars : Variables) (name : String)
    (default : α) (read : Json → Reading α) : Reading α :=
  match given.lookup name <|> (vars.valueOf? name).map Json.str with
  | some v => Reading.within (.key name) (read v)
  | none => .ok default

/-- The settings of values and variables, or every setting that cannot be read, in
order. -/
def read (given : List (String × Json)) (vars : Variables) : Reading Settings :=
  let text (name default : String) := setting given vars name default Json.readString
  Except.ok Settings.mk
    |> (Reading.ap · (text "app_name" "n8n-workflow-builder"))
    |> (Reading.ap · (text "log_level" "INFO"))
    |> (Reading.ap · (setting given vars "log_json" true Json.readFlag))
    |> (Reading.ap · (text "n8n_host" "http://localhost:5678/api/v1"))
    |> (Reading.ap · (text "n8n_api_key" ""))
    |> (Reading.ap · (setting given vars "request_timeout" (.ofInt 30) Json.readReal))
    |> (Reading.ap · (setting given vars "execution_stats_limit" 100 Json.readInteger))

/-- The settings of variables. -/
def ofVariables (vars : Variables) : Reading Settings := read [] vars

/-- The settings of values, without any variable. -/
def ofFields (given : List (String × Json)) : Reading Settings := read given []

/-- Whether a key is configured. -/
def hasApiKey (s : Settings) : Bool := Text.strip s.apiKey != ""

end Settings

/-- Settings that are read once and kept until they are cleared. A failure to read
them is not kept. -/
structure SettingsCache where
  vars : Variables
  kept : Option Settings

namespace SettingsCache

/-- Nothing kept yet. -/
def fresh (vars : Variables) : SettingsCache := ⟨vars, none⟩

/-- Bind more variables; what is kept stays. -/
def extend (more : Variables) (c : SettingsCache) : SettingsCache :=
  { c with vars := more.foldl (fun vars (name, value) => vars.set name value) c.vars }

/-- Forget what is kept; the next fetch reads again. -/
def clear (c : SettingsCache) : SettingsCache := { c with kept := none }

/-- The settings, kept or read. -/
def fetch (c : SettingsCache) : Reading Settings × SettingsCache :=
  match c.kept with
  | some s => (.ok s, c)
  | none =>
      match Settings.ofVariables c.vars with
      | .ok s => (.ok s, { c with kept := some s })
      | .error issues => (.error issues, c)

end SettingsCache

end Flowgate
