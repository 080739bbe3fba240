import Flowgate.Fault
import Flowgate.Url.Basic
import Flowgate.Workflow.Error

/-! # Failures

Every way in which a request to the program can fail. A failure is its cause; the
text that a person sees follows from it.
-/

namespace Flowgate

/-- The engine or the way to it failed. Status and body are there when the engine
answered. -/
structure EngineError where
  message : String
  status : Option Int
  body : Option Json

/-- The codes of refusals that are told to an agent. -/
inductive RefusalCode where
  | invalidParams | methodNotFound
  deriving DecidableEq, Repr

/-- The number that stands for a code on the wire. -/
def RefusalCode.number : RefusalCode → Int
  | invalidParams => -32602
  | methodNotFound => -32601

/-- Why an agent's call was refused. -/
structure Refusal where
  code : RefusalCode
  message : String
  data : Option Json

/-- A refusal for the arguments of a call. -/
def Refusal.invalid (message : String) : Refusal := ⟨.invalidParams, message, none⟩

/-- Why a request failed. -/
inductive Failure where
  /-- A definition was refused. -/
  | definition (cause : CompileError)
  | engine (error : EngineError)
  | refusal (refusal : Refusal)
  /-- Settings or a name could not be read. -/
  | issues (issues : List Issue)
  | fault (fault : Fault)
  | url (error : Url.Error)
  /-- The engine answered at a locator that names no host. -/
  | placeless (locator : String)
  /-- The way to the engine refused a locator, in its own words. -/
  | unroutable (message : String)
  /-- An answer's stream could not be read. -/
  | stream (message : String)
  /-- No key is configured. -/
  | noApiKey
  /-- A key or the name of a host that no header can carry. -/
  | unsendableText (text : String)
  /-- A number that cannot be written, in a body, a locator or an identifier. -/
  | unwritable (flaw : Json.Unwritable)

namespace Failure

/-- The text of a failure. -/
def message : Failure → String
  | .definition cause => cause.report.message
  | .engine error => error.message
  | .refusal r => r.message
  | .issues found => "; ".intercalate (found.map (·.offence.message))
  | .fault f => f.message
  | .url error => error.message
  | .placeless locator => s!"unknown url type: {Text.quoted locator}"
  | .unroutable text => text
  | .stream text => text
  | .noApiKey => "n8n API key not configured"
  | .unsendableText text => Text.asciiRefusal text
  | .unwritable flaw => flaw.message

end Failure

end Flowgate
