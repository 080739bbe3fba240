import Flowgate.Log.Line
import Flowgate.Settings.Basic

/-! # Starting and stopping

The program reads its settings, refuses to start without a key, and otherwise
tells when it starts and when it stops.
-/

namespace Flowgate

namespace Service

/-- The log of the program as a whole. -/
def logger : String := "n8n_workflow_builder.main"

/-- What to do about a missing key. -/
def missingKeyHint : String := "Set N8N_API_KEY (and N8N_HOST) in the environment or .env"

/-- The log as the settings want it. -/
def logConfig (s : Settings) : Except Log.Error Log.Config :=
  Log.Config.of s.logLevel s.logJson

/-- The record of an event of the program. -/
def record (level : Log.Level) (name : String) (fields : List (String × Json)) : Log.Record :=
  .of logger ⟨level, name, fields⟩

/-- What is logged in place of a start without a key. -/
def missingKey : Log.Record :=
  record .error "missing_configuration" [("hint", .str missingKeyHint)]

/-- What is logged at the start: who works and for which engine. The key is no part of
it. -/
def startup (s : Settings) : Log.Record :=
  record .info "application_startup" [("app_name", .str s.appName), ("n8n_host", .str s.host)]

/-- What is logged at the end. -/
def shutdown : Log.Record := record .info "application_shutdown" []

/-- Whether the program can do its work, and the records of its start. -/
def start (s : Settings) : Bool × List Log.Record :=
  if s.hasApiKey then (true, [startup s]) else (false, [missingKey])

/-- How the program ended. -/
structure Ending where
  exitCode : Nat
  lines : List Log.Line

/-- A run of the program in which nothing is asked. Without a log it does not start. -/
def idleRun (s : Settings) : Except Log.Error Ending := do
  let config ← logConfig s
  let (works, records) := start s
  let records := if works then records ++ [shutdown] else records
  return ⟨if works then 0 else 1, ← config.lines records⟩

end Service

end Flowgate
