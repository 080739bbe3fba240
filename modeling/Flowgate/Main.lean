import Flowgate.Gateway
import Flowgate.Json.Writer
import Flowgate.Service
import Flowgate.Settings.VariableFile

/-! # The program

Reads its settings from the environment and from a file of variables, tells when
it starts and stops, and lasts as long as its input. The log goes to the error
output, because the standard output belongs to the agents.
-/

namespace Flowgate.Service

/-- The variables that are settings. -/
def variableNames : List String := [
  "APP_NAME", "LOG_LEVEL", "LOG_JSON", "N8N_HOST", "N8N_API_KEY", "REQUEST_TIMEOUT",
  "EXECUTION_STATS_LIMIT"]

/-- The variables of the environment, in either case. -/
def environment : IO Variables := do
  let mut found : Variables := []
  for name in variableNames do
    for spelling in [name, name.toLower] do
      if let some value ← IO.getEnv spelling then
        found := found ++ [(spelling, some value)]
  return found

/-- The variables of the file `.env`, where there is one. -/
def fileVariables (env : Variables) : IO Variables := do
  try
    return VariableFile.read env (← IO.FS.readFile ".env")
  catch _ =>
    return []

/-- Write a line to the log. -/
def emitLine : Log.Line → IO Unit
  | .object fields => IO.eprintln (String.ofList (Json.obj fields).compact)
  | .text rows => rows.forM fun row => IO.eprintln row

/-- Write the lines of records to the log. -/
def emit (config : Log.Config) (rs : List Log.Record) : IO Unit :=
  match config.lines rs with
  | .ok lines => lines.forM emitLine
  | .error e => IO.eprintln e.message

/-- Read the input to its end. -/
partial def drain (input : IO.FS.Stream) : IO Unit := do
  if !(← input.getLine).isEmpty then drain input

end Flowgate.Service

open Flowgate in
def main : IO UInt32 := do
  let env ← Service.environment
  match Settings.ofVariables ((← Service.fileVariables env) ++ env) with
  | .error issues =>
      for issue in issues do
        IO.eprintln issue.offence.message
      return 1
  | .ok settings =>
      match Service.logConfig settings with
      | .error e =>
          IO.eprintln e.message
          return 1
      | .ok config =>
          let (works, records) := Service.start settings
          Service.emit config records
          if works then
            Service.drain (← IO.getStdin)
            Service.emit config [Service.shutdown]
            return 0
          return 1
