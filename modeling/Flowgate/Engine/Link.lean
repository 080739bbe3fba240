import Flowgate.Failure
import Flowgate.Json.Octets
import Flowgate.Log.Event

/-! # The link to the engine

What happens on the link to the engine is data: the outcomes that requests will
have, in order, the requests that were sent and the events that were logged. An
operation on the link is a function of it, so its requests are part of its answer.
-/

namespace Flowgate

/-- What is done to the engine. -/
inductive Method where
  | get | post | put | delete
  deriving DecidableEq, Repr

/-- The word for a method in a request. -/
def Method.name : Method → String
  | get => "GET"
  | post => "POST"
  | put => "PUT"
  | delete => "DELETE"

/-- A request as it was sent. -/
structure Request where
  method : Method
  url : String
  apiKey : String
  timeout : Json
  body : Option String

/-- Why a request was given up on the way. None of these is a failure of the engine, and
none is a refusal of what was asked. -/
inductive Interruption where
  /-- The way to the engine refused the locator. -/
  | unroutable (message : String)
  /-- The stream of the answer could not be read. -/
  | stream (message : String)

/-- What an interrupted request fails with. -/
def Interruption.failure : Interruption → Failure
  | unroutable message => .unroutable message
  | stream message => .stream message

/-- An answer of the engine. What its octets say depends on their encoding and on the charset
that they are sent under, so it is a part of the answer: the value that they spell as Json, if
they spell one, and their text. Both are made of characters: octets that spell a surrogate
without its partner, or a charset that gives no text, make no answer of this type. -/
structure Response where
  status : Int
  /-- The octets of the body. -/
  content : List UInt8
  /-- The value of the octets, none where they are no Json. -/
  json? : Option Json
  /-- The octets as a text. -/
  text : String

/-- An answer that names no charset, so that its text is read in UTF-8. Its octets spell no
surrogate without its partner. -/
def Response.ofOctets (status : Int) (content : List UInt8) : Response :=
  ⟨status, content, Json.ofOctets? content, Utf8.decodeLossy content⟩

/-- What the body of an answer says: nothing, a value, or a message. -/
def Response.body (r : Response) : Json :=
  if r.content.isEmpty then .obj []
  else r.json?.getD (.obj [("message", .str r.text)])

/-- What became of a request. -/
inductive Outcome where
  /-- The engine answered. -/
  | answer (response : Response)
  /-- The engine could not be reached, or broke off. -/
  | unreachable (message : String)
  /-- The request was given up for a reason that is no failure of the engine. -/
  | aborted (reason : Interruption)

/-- The link between two operations. -/
structure Link where
  /-- The outcomes of the requests to come. -/
  script : List Outcome
  /-- The requests sent, in order. -/
  requests : List Request
  /-- The events logged, in order. -/
  events : List Log.Event

/-- A computation on the link. What was sent and logged stays when it fails. -/
abbrev Exchange := ExceptT Failure (StateM Link)

namespace Exchange

/-- The answer of an engine that has nothing more to say. -/
def nothingFound : Outcome :=
  .answer (.ofOctets 404 (Utf8.encode "\x7b\"message\":\"not found\"\x7d"))

/-- Log an event. -/
def log (level : Log.Level) (name : String) (fields : List (String × Json)) : Exchange Unit :=
  modify fun l => { l with events := l.events ++ [⟨level, name, fields⟩] }

/-- Send a request and take the next outcome. -/
def send (r : Request) : Exchange Outcome :=
  modifyGet fun l =>
    match l.script with
    | outcome :: rest => (outcome, { l with script := rest, requests := l.requests ++ [r] })
    | [] => (nothingFound, { l with requests := l.requests ++ [r] })

/-- Fail. -/
def fail {α : Type} (f : Failure) : Exchange α := throw f

/-- Use a value that may be of another shape than it should. -/
def shaped {α : Type} : Except Fault α → Exchange α
  | .ok x => pure x
  | .error f => throw (.fault f)

/-- Recover from a failure of the engine; other failures stay. -/
def recover {α : Type} (x : Exchange α) (handler : EngineError → Exchange α) : Exchange α :=
  tryCatch x fun
    | .engine error => handler error
    | f => fail f

end Exchange

end Flowgate
