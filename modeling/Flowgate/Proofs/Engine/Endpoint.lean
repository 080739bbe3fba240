import Flowgate.Proofs.Engine.Address
import Flowgate.Proofs.Engine.Course
import Flowgate.Proofs.Url.Endpoint

/-! # Calls at endpoints

A client that is ready has a base that names a host and ends in a path. Its calls at an endpoint
of segments that stay go to the base with the endpoint behind it, as far as the length of a
locator allows.
-/

namespace Flowgate.Client

/-- The base of a client names a host and has neither a query nor a fragment, and the key and
the host can be put into a header. -/
structure Ready (c : Client) (base : Url) : Prop where
  parsed : Url.parse c.baseUrl = .ok base
  absolute : base.isAbsolute = true
  marks : ∀ mark ∈ c.baseUrl.toList, mark ≠ '?' ∧ mark ≠ '#'
  key : Text.isAscii c.apiKey = true
  place : Text.isAscii base.place = true

variable {c : Client} {base : Url} {parts : List (List Char)} {endpoint : String}

theorem Ready.toText_endpoint (h : c.Ready base) (endpoint : String) :
    Url.toText { base with path := base.path ++ endpoint } = base.toText ++ endpoint := by
  obtain ⟨scheme, authority, path, hfront, -, -, hparts⟩ :=
    Url.front_of_parse h.parsed h.absolute h.marks
  obtain ⟨host, port, -, -, rfl⟩ := (Url.ofParts_eq_ok hfront.nonempty).mp hparts
  simp [Url.toText, Url.authority, Url.place, String.append_assoc]

section Fixed

variable (h : c.Ready base) (hne : parts ≠ []) (hparts : ∀ part ∈ parts, Url.IsFixed part)
  (hendpoint : endpoint.toList = Url.joined parts)
  (hlength : (c.baseUrl ++ endpoint).length ≤ Url.lengthLimit)

include h hne hparts hendpoint hlength

theorem Ready.locate_endpoint :
    c.locate endpoint = .ok { base with path := base.path ++ endpoint } := by
  obtain rfl : endpoint = String.ofList (Url.joined parts) :=
    String.toList_injective (by rw [hendpoint, String.toList_ofList])
  have hparse := Url.parse_append_joined h.parsed h.absolute h.marks hne hparts hlength
  refine bind_eq_ok.mpr ⟨_, hparse, if_pos ?_⟩
  exact h.absolute

/-- A call without parameters and without a body is sent. -/
theorem Ready.prepare_endpoint (method : Method) {identifier : Json}
    (hspelt : identifier.textFlaw? = none) :
    c.prepare { method, endpoint, identifier } =
      .ok ({ base with path := base.path ++ endpoint },
        ⟨method, base.toText ++ endpoint, c.apiKey, c.timeout, none⟩) := by
  have hlocate := h.locate_endpoint hne hparts hendpoint hlength
  refine prepare_eq_ok.mpr ⟨⟨hspelt, rfl⟩, _, none, hlocate, rfl, rfl, h.key, h.place, ?_⟩
  rw [h.toText_endpoint]

end Fixed

/-- A client that is ready can put a query behind its base as well. -/
structure Asks (c : Client) (base : Url) (query : String) (asked : Url) : Prop where
  ready : c.Ready base
  given : base.withQuery (some query) = .ok asked
  place : Text.isAscii asked.place = true

/-- A call with parameters is sent. -/
theorem Asks.prepare_endpoint {query : String} {asked : Url} (h : c.Asks base query asked)
    (hne : parts ≠ []) (hparts : ∀ part ∈ parts, Url.IsFixed part)
    (hendpoint : endpoint.toList = Url.joined parts)
    (hlength : (c.baseUrl ++ endpoint).length ≤ Url.lengthLimit)
    (hpath : (base.path ++ endpoint).length ≤ Url.lengthLimit)
    {identifier : Json} (hspelt : identifier.textFlaw? = none) {parameters : List (String × Json)}
    (hparameters : (Json.obj parameters).textFlaw? = none)
    (hquery : Engine.queryText (Engine.setParameters parameters) = some query) (method : Method) :
    c.prepare { method, endpoint, identifier, parameters := some parameters } =
      .ok ({ asked with path := base.path ++ endpoint },
        ⟨method, Url.toText { asked with path := base.path ++ endpoint }, c.apiKey, c.timeout,
          none⟩) := by
  have hlocate := h.ready.locate_endpoint hne hparts hendpoint hlength
  obtain ⟨hnormal, hencoded⟩ :=
    Url.path_append_joined h.ready.parsed h.ready.absolute h.ready.marks hparts
  rw [← hendpoint, ← String.toList_append] at hnormal hencoded
  have hwith := Url.withQuery_path h.given h.ready.absolute hpath hnormal hencoded
  rw [← hquery] at hwith
  exact prepare_eq_ok.mpr
    ⟨⟨hspelt, hparameters⟩, _, none, hlocate, hwith, rfl, h.ready.key, h.place, rfl⟩

/-- An endpoint that makes the locator too long is not called. -/
theorem prepare_of_long {call : Call} (hspelt : call.identifier.textFlaw? = none)
    (hlong : Url.lengthLimit < (c.baseUrl ++ call.endpoint).length) :
    c.prepare call = .error (.url .tooLong) := by
  have hlocate : c.locate call.endpoint = .error .tooLong :=
    bind_eq_error.mpr (.inl (Url.parse_of_long hlong))
  refine bind_eq_error.mpr (.inr ⟨_, pasted_eq_ok.mpr ⟨hspelt, rfl⟩, ?_⟩)
  exact bind_eq_error.mpr (.inl (mapError_eq_error.mpr ⟨_, hlocate, rfl⟩))

theorem ready_hosted :
    Operation.hosted.Ready ⟨"http", "", "n8n.test", none, "/api/v1", none, none⟩ where
  parsed := by cbv
  absolute := rfl
  marks := by simp [Operation.hosted]
  key := by cbv
  place := by cbv

theorem asks_hosted :
    Operation.hosted.Asks ⟨"http", "", "n8n.test", none, "/api/v1", none, none⟩ "includeData=true"
      ⟨"http", "", "n8n.test", none, "/api/v1", some "includeData=true", none⟩ where
  ready := ready_hosted
  given := by cbv
  place := by cbv

end Flowgate.Client
