import Flowgate.Engine.Client
import Flowgate.Proofs.Course
import Flowgate.Proofs.Json.Writable
import Mathlib

/-! # How calls of the engine go

A call is refused before anything is sent, or it is one request, and the outcome of the
request settles the answer.
-/

namespace Flowgate

/-- All that stands in the locator of a call can be written out. -/
structure Call.IsSpelt (call : Call) : Prop where
  identifier : call.identifier.textFlaw? = none
  parameters : (Json.obj (call.parameters.getD [])).textFlaw? = none

namespace Client

open Exchange

variable {c : Client} {call : Call}

/-! ## Endpoints -/

theorem toList_workflowPath (id : Json) :
    (workflowPath id).toList = "/workflows/".toList ++ id.plain.toList :=
  String.toList_append

theorem toList_executionPath (id : Json) :
    (executionPath id).toList = "/executions/".toList ++ id.plain.toList :=
  String.toList_append

@[simp]
theorem head?_workflowPath (id : Json) : (workflowPath id).toList.head? = some '/' := by
  rw [toList_workflowPath]
  rfl

@[simp]
theorem head?_executionPath (id : Json) : (executionPath id).toList.head? = some '/' := by
  rw [toList_executionPath]
  rfl

/-! ## Requests before they are sent -/

theorem headerText_eq_ok {text header : String} :
    headerText text = .ok header ↔ Text.isAscii text = true ∧ text = header := by
  unfold headerText
  split <;> simp_all

theorem headerText_eq_error {text : String} {failure : Failure} :
    headerText text = .error failure ↔
      Text.isAscii text = false ∧ .unsendableText text = failure := by
  unfold headerText
  split <;> simp_all

theorem bodyText_eq_error {v : Json} {failure : Failure} :
    bodyText v = .error failure ↔
      v.isNull = false ∧ ∃ flaw, v.bodyFlaw? = some flaw ∧ .unwritable flaw = failure := by
  unfold bodyText Json.body
  cases v.isNull <;> cases v.bodyFlaw? <;> simp [Except.mapError, Except.map]

theorem pasted_eq_ok {v : Json} {text : String} :
    pasted v = .ok text ↔ v.textFlaw? = none ∧ v.plain = text :=
  mapError_eq_ok.trans Json.pasted_eq_ok

theorem pasted_eq_error {v : Json} {failure : Failure} :
    pasted v = .error failure ↔
      ∃ flaw, v.textFlaw? = some flaw ∧ .unwritable flaw = failure := by
  simp only [pasted, mapError_eq_error, Json.pasted_eq_error]

/-- What is no key of an object cannot be written. -/
theorem exists_flaw_of_keyText {v : Json} {failure : Failure} (h : keyText v = .error failure) :
    ∃ flaw, failure = .unwritable flaw := by
  have hpasted {v : Json} (h : pasted v = .error failure) : ∃ flaw, failure = .unwritable flaw := by
    obtain ⟨flaw, -, heq⟩ := pasted_eq_error.mp h
    exact ⟨flaw, heq.symm⟩
  cases v with
  | float x =>
      rw [keyText] at h
      split at h
      · cases h
      · exact ⟨_, (Except.error.inj h).symm⟩
  | null | bool | str => cases h
  | int | arr | obj => exact hpasted h

/-- A request holds the method and the body of its call and goes to the locator that is
made of the endpoint and the parameters. -/
theorem prepare_eq_ok {url : Url} {r : Request} :
    c.prepare call = .ok (url, r) ↔ call.IsSpelt ∧ ∃ base body,
      c.locate call.endpoint = .ok base ∧ withParameters base call.parameters = .ok url ∧
      bodyText call.body = .ok body ∧ Text.isAscii c.apiKey = true ∧
      Text.isAscii url.place = true ∧
      r = ⟨call.method, url.toText, c.apiKey, c.timeout, body⟩ := by
  simp only [prepare, bind_eq_ok, mapError_eq_ok, headerText_eq_ok, pasted_eq_ok]
  constructor
  · rintro ⟨_, ⟨hidentifier, rfl⟩, base, hbase, _, ⟨hkey, rfl⟩, _, ⟨hparameters, rfl⟩, url, hurl,
      body, hbody, _, ⟨hplace, rfl⟩, hr⟩
    cases hr
    exact ⟨⟨hidentifier, hparameters⟩, base, body, hbase, hurl, hbody, hkey, hplace, rfl⟩
  · rintro ⟨⟨hidentifier, hparameters⟩, base, body, hbase, hurl, hbody, hkey, hplace, rfl⟩
    exact ⟨_, ⟨hidentifier, rfl⟩, base, hbase, _, ⟨hkey, rfl⟩, _, ⟨hparameters, rfl⟩, url, hurl,
      body, hbody, _, ⟨hplace, rfl⟩, rfl⟩

/-- A query that cannot be put is what a call is refused for. -/
theorem prepare_of_unasked {base : Url} {error : Url.Error} (hspelt : call.IsSpelt)
    (hlocate : c.locate call.endpoint = .ok base) (hkey : Text.isAscii c.apiKey = true)
    (hquery : withParameters base call.parameters = .error error) :
    c.prepare call = .error (.url error) := by
  simp only [prepare, bind_eq_error, mapError_eq_error, mapError_eq_ok, headerText_eq_ok,
    pasted_eq_ok]
  exact .inr ⟨_, ⟨hspelt.identifier, rfl⟩, .inr ⟨base, hlocate, .inr ⟨_, ⟨hkey, rfl⟩,
    .inr ⟨_, ⟨hspelt.parameters, rfl⟩, .inl ⟨error, hquery, rfl⟩⟩⟩⟩⟩

/-- An identifier that cannot be written out is what a call is refused for. -/
theorem prepare_of_unspelt {flaw : Json.Unwritable}
    (hflaw : call.identifier.textFlaw? = some flaw) :
    c.prepare call = .error (.unwritable flaw) :=
  bind_eq_error.mpr (.inl (pasted_eq_error.mpr ⟨flaw, hflaw, rfl⟩))

/-- And so is a parameter that cannot be. -/
theorem prepare_of_unspelt_parameters {base : Url} {flaw : Json.Unwritable}
    (hidentifier : call.identifier.textFlaw? = none)
    (hlocate : c.locate call.endpoint = .ok base) (hkey : Text.isAscii c.apiKey = true)
    (hflaw : (Json.obj (call.parameters.getD [])).textFlaw? = some flaw) :
    c.prepare call = .error (.unwritable flaw) := by
  simp only [prepare, bind_eq_error, mapError_eq_error, mapError_eq_ok, headerText_eq_ok,
    pasted_eq_ok, pasted_eq_error]
  exact .inr ⟨_, ⟨hidentifier, rfl⟩, .inr ⟨base, hlocate, .inr ⟨_, ⟨hkey, rfl⟩,
    .inl ⟨flaw, hflaw, rfl⟩⟩⟩⟩

/-- A call is prepared like one with another body, once its own can be written. -/
theorem prepare_body {url : Url} {r : Request} {v : Json} {text : String}
    (hready : c.prepare call = .ok (url, r)) (hnull : v.isNull = false)
    (hbody : v.body = .ok text) :
    c.prepare { call with body := v } = .ok (url, { r with body := some text }) := by
  obtain ⟨hspelt, base, _, hbase, hurl, -, hkey, hplace, rfl⟩ := prepare_eq_ok.mp hready
  have hwritten : bodyText v = .ok (some text) := by
    simp [bodyText, hnull, hbody, Except.mapError, Except.map]
  exact prepare_eq_ok.mpr ⟨⟨hspelt.identifier, hspelt.parameters⟩, base, some text, hbase, hurl,
    hwritten, hkey, hplace, rfl⟩

/-- A body that cannot be written is what a call is refused for. -/
theorem prepare_of_unwritten {url : Url} {r : Request} {v : Json} {flaw : Json.Unwritable}
    (hready : c.prepare call = .ok (url, r)) (hflaw : v.bodyFlaw? = some flaw) :
    c.prepare { call with body := v } = .error (.unwritable flaw) := by
  obtain ⟨⟨hidentifier, hparameters⟩, base, _, hbase, hurl, -, hkey, -, rfl⟩ :=
    prepare_eq_ok.mp hready
  have hnull : v.isNull = false := by
    cases v with
    | null => cases hflaw
    | _ => rfl
  simp only [prepare, bind_eq_error, mapError_eq_error, mapError_eq_ok, headerText_eq_ok,
    pasted_eq_ok, bodyText_eq_error]
  exact .inr ⟨_, ⟨hidentifier, rfl⟩, .inr ⟨base, hbase, .inr ⟨_, ⟨hkey, rfl⟩,
    .inr ⟨_, ⟨hparameters, rfl⟩, .inr ⟨url, hurl, .inl ⟨hnull, flaw, hflaw, rfl⟩⟩⟩⟩⟩⟩

theorem method_of_prepare {url : Url} {r : Request} (h : c.prepare call = .ok (url, r)) :
    r.method = call.method := by
  obtain ⟨-, _, _, -, -, -, -, -, rfl⟩ := prepare_eq_ok.mp h
  rfl

theorem url_of_prepare {url : Url} {r : Request} (h : c.prepare call = .ok (url, r)) :
    r.url = url.toText := by
  obtain ⟨-, _, _, -, -, -, -, -, rfl⟩ := prepare_eq_ok.mp h
  rfl

/-- Why a call is not sent. -/
inductive Unsent (c : Client) (call : Call) : Failure → Prop
  | unpasted {flaw : Json.Unwritable} : call.identifier.textFlaw? = some flaw →
      Unsent c call (.unwritable flaw)
  | unlocated {error : Url.Error} : c.locate call.endpoint = .error error →
      Unsent c call (.url error)
  | unkeyed : Text.isAscii c.apiKey = false → Unsent c call (.unsendableText c.apiKey)
  | unspelt {flaw : Json.Unwritable} :
      (Json.obj (call.parameters.getD [])).textFlaw? = some flaw →
      Unsent c call (.unwritable flaw)
  | unasked {base : Url} {error : Url.Error} : c.locate call.endpoint = .ok base →
      withParameters base call.parameters = .error error → Unsent c call (.url error)
  | unwritten {flaw : Json.Unwritable} : call.body.bodyFlaw? = some flaw →
      Unsent c call (.unwritable flaw)
  | unplaced {base url : Url} : c.locate call.endpoint = .ok base →
      withParameters base call.parameters = .ok url → Text.isAscii url.place = false →
      Unsent c call (.unsendableText url.place)

theorem unsent_of_prepare {failure : Failure} (h : c.prepare call = .error failure) :
    Unsent c call failure := by
  simp only [prepare, bind_eq_error, mapError_eq_error, mapError_eq_ok, headerText_eq_error,
    headerText_eq_ok, bodyText_eq_error, pasted_eq_error] at h
  rcases h with ⟨_, hidentifier, rfl⟩ | ⟨_, -, ⟨_, hbase, rfl⟩ | ⟨base, hbase, ⟨hkey, rfl⟩ |
    ⟨_, -, ⟨_, hparameters, rfl⟩ | ⟨_, -, ⟨_, hurl, rfl⟩ | ⟨url, hurl, ⟨-, _, hbody, rfl⟩ |
    ⟨_, -, ⟨hplace, rfl⟩ | ⟨_, -, h⟩⟩⟩⟩⟩⟩⟩
  · exact .unpasted hidentifier
  · exact .unlocated hbase
  · exact .unkeyed hkey
  · exact .unspelt hparameters
  · exact .unasked hbase hurl
  · exact .unwritten hbody
  · exact .unplaced hbase hurl hplace
  · cases h

/-! ## Requests and their outcomes -/

/-- How a call goes. -/
inductive Called (c : Client) (call : Call) : Course Json
  | refused {failure : Failure} : c.prepare call = .error failure →
      Called c call [] (.error failure)
  | unreachable {url : Url} {r : Request} (message : String) : c.prepare call = .ok (url, r) →
      Called c call [(r, .unreachable message)]
        (.error (.engine ⟨s!"HTTP error: {message}", none, none⟩))
  | aborted {url : Url} {r : Request} (reason : Interruption) :
      c.prepare call = .ok (url, r) →
      Called c call [(r, .aborted reason)] (.error reason.failure)
  | placeless {url : Url} {r : Request} (response : Response) :
      c.prepare call = .ok (url, r) → url.isAbsolute = false →
      Called c call [(r, .answer response)] (.error (.placeless url.toText))
  | rejected {url : Url} {r : Request} (response : Response) :
      c.prepare call = .ok (url, r) → url.isAbsolute = true → 400 ≤ response.status →
      Called c call [(r, .answer response)] (.error (.engine
        ⟨s!"n8n API error: {response.status}", some response.status, some response.body⟩))
  | answered {url : Url} {r : Request} (response : Response) :
      c.prepare call = .ok (url, r) → url.isAbsolute = true → response.status < 400 →
      Called c call [(r, .answer response)] (.ok response.body)

namespace Called

variable {steps : List (Request × Outcome)} {answer : Except Failure Json}

/-- A call that is prepared is sent. -/
theorem sent {url : Url} {r : Request} (h : Called c call steps answer)
    (hprepare : c.prepare call = .ok (url, r)) : steps.map Prod.fst = [r] := by
  cases h with
  | refused hother => cases hprepare.symm.trans hother
  | unreachable _ hother | aborted _ hother | placeless _ hother | rejected _ hother
  | answered _ hother =>
      cases hprepare.symm.trans hother
      rfl

/-- A call that is refused is not sent. -/
theorem unsent {failure : Failure} (h : Called c call steps answer)
    (hprepare : c.prepare call = .error failure) : steps = [] ∧ answer = .error failure := by
  cases h with
  | refused hother =>
      cases hprepare.symm.trans hother
      exact ⟨rfl, rfl⟩
  | unreachable _ hother | aborted _ hother | placeless _ hother | rejected _ hother
  | answered _ hother => cases hprepare.symm.trans hother

end Called

theorem takes_request (c : Client) (call : Call) : (c.request call).Takes (Called c call) := by
  refine .ofExcept_bind ?_ fun failure herror => .refused herror
  rintro ⟨url, request⟩ hprepare
  refine .send_bind ?_
  rintro (response | message | reason)
  · dsimp only
    cases habsolute : url.isAbsolute with
    | false =>
        -- without a host the status is not looked at
        refine .bind (.fail _ ⟨?_, nofun⟩)
        rintro _ ⟨⟩
        exact .placeless response hprepare habsolute
    | true =>
        refine .log_bind ?_
        split
        next hstatus =>
          exact .log_bind (.fail _ (.rejected response hprepare habsolute hstatus))
        next hstatus =>
          exact .pure _ (.answered response hprepare habsolute (Int.not_le.mp hstatus))
  · exact .log_bind (.fail _ (.unreachable message hprepare))
  · exact .fail _ (.aborted reason hprepare)

/-- A call that is answered is followed by what is done with its body. -/
theorem takes_request_bind {α : Type} {next : Json → Exchange α} {p : Course α}
    (hstop : ∀ steps failure, Called c call steps (.error failure) → p steps (.error failure))
    (hnext : ∀ r response, Called c call [(r, .answer response)] (.ok response.body) →
      (next response.body).Takes fun steps answer =>
        p ((r, .answer response) :: steps) answer) :
    (c.request call >>= next).Takes p := by
  refine .bind ((takes_request c call).imp fun steps answer hcalled => ⟨?_, ?_⟩)
  · rintro failure rfl
    exact hstop steps failure hcalled
  · rintro v rfl
    cases hcalled with
    | answered response hprepare habsolute hstatus =>
        exact hnext _ response (.answered response hprepare habsolute hstatus)

/-- A call is made first: its request is sent, and the rest is told apart, or the call is
refused and nothing is sent. -/
def Makes {α : Type} (c : Client) (call : Call) (rest : List (Request × Outcome) → Prop) :
    Course α := fun steps answer =>
  (∀ url r, c.prepare call = .ok (url, r) →
    ∃ outcome more, steps = (r, outcome) :: more ∧ rest more) ∧
  ∀ failure, c.prepare call = .error failure → steps = [] ∧ answer = .error failure

theorem makes_request_bind {α : Type} {next : Json → Exchange α}
    {rest : List (Request × Outcome) → Prop} (hnil : rest [])
    (hnext : ∀ v, (next v).Takes fun steps _ => rest steps) :
    (c.request call >>= next).Takes (Makes c call rest) := by
  refine takes_request_bind ?_ ?_
  · intro steps failure hcalled
    constructor
    · intro url r hprepare
      obtain ⟨⟨_, outcome⟩, rfl, rfl⟩ := List.map_eq_singleton_iff.mp (hcalled.sent hprepare)
      exact ⟨outcome, [], rfl, hnil⟩
    · intro other hprepare
      obtain ⟨hnone, herror⟩ := hcalled.unsent hprepare
      cases herror
      exact ⟨hnone, rfl⟩
  · intro r response hcalled
    refine (hnext _).imp fun steps answer hrest => ⟨?_, ?_⟩
    · intro url other hprepare
      have hsent := hcalled.sent hprepare
      cases hsent
      exact ⟨_, steps, rfl, hrest⟩
    · intro failure hprepare
      cases (hcalled.unsent hprepare).1

theorem makes_request : (c.request call).Takes (Makes c call fun _ => True) := by
  have hbind : (c.request call >>= pure).Takes (Makes c call fun _ => True) :=
    makes_request_bind trivial fun v => .pure v trivial
  rwa [bind_pure] at hbind

/-- Whatever is done afterwards, the call was made first. -/
theorem makes_bind {α β : Type} {x : Exchange α} {next : α → Exchange β}
    (hx : x.Takes (Makes c call fun _ => True)) (hnext : ∀ a, (next a).Takes fun _ _ => True) :
    (x >>= next).Takes (Makes c call fun _ => True) := by
  apply Takes.bind
  refine hx.imp fun first answer hmakes => ⟨?_, ?_⟩
  · rintro failure rfl
    refine ⟨hmakes.1, fun other hprepare => ?_⟩
    obtain ⟨hnone, herror⟩ := hmakes.2 other hprepare
    exact ⟨hnone, congrArg Except.error (Except.error.inj herror)⟩
  · rintro a rfl
    refine (hnext a).imp fun second answer _ => ⟨?_, ?_⟩
    · intro url r hprepare
      obtain ⟨outcome, more, rfl, -⟩ := hmakes.1 url r hprepare
      exact ⟨outcome, more ++ second, rfl, trivial⟩
    · intro failure hprepare
      cases (hmakes.2 failure hprepare).2

end Client

end Flowgate
