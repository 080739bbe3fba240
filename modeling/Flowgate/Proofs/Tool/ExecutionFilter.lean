import Flowgate.Proofs.Engine.Endpoint
import Flowgate.Proofs.Tool.Contract
import Flowgate.Proofs.Tool.Course
import Flowgate.Proofs.Url.Form

/-! # What executions are asked for

Executions are listed with one request. Its query holds the filters of the arguments that are
set, each once and in a fixed order, and what is read from it are their values, whatever
characters they hold. Only a query that is longer than a locator may hold is not asked, and none
with an integer that has too many digits.
-/

namespace Flowgate

namespace Engine

/-- A value that a filter may have: unset, a flag, an integer or a text. -/
inductive IsFilter : Json → Prop
  | unset : IsFilter .null
  | flag (b : Bool) : IsFilter (.bool b)
  | integer (n : Int) : IsFilter (.int n)
  | text (s : String) : IsFilter (.str s)

/-- The text of a filter that is set. -/
def filterText : Json → Option String
  | .bool b => some (if b then "true" else "false")
  | .int n => some (toString n)
  | .str s => some s
  | _ => none

/-- The filters that are set, by their names. -/
def filterForm (parameters : List (String × Json)) : List (String × String) :=
  parameters.filterMap fun parameter => (filterText parameter.2).map (parameter.1, ·)

variable {parameters : List (String × Json)}

/-- A parameter gives one pair, or none where it is unset. -/
theorem formPairs_setParameters (h : ∀ parameter ∈ parameters, IsFilter parameter.2) :
    formPairs (setParameters parameters) = filterForm parameters ∧
      (setParameters parameters).isEmpty = (filterForm parameters).isEmpty := by
  induction parameters with
  | nil => exact ⟨rfl, rfl⟩
  | cons parameter rest ih =>
      obtain ⟨name, v⟩ := parameter
      obtain ⟨hv, hrest⟩ := List.forall_mem_cons.mp h
      obtain ⟨hpairs, hempty⟩ := ih hrest
      cases hv with
      | unset => exact ⟨hpairs, hempty⟩
      | flag | integer | text => exact ⟨congrArg (_ :: ·) hpairs, rfl⟩

theorem queryText_setParameters (h : ∀ parameter ∈ parameters, IsFilter parameter.2) :
    queryText (setParameters parameters) = Url.formQuery (filterForm parameters) := by
  obtain ⟨hpairs, hempty⟩ := formPairs_setParameters h
  rw [queryText, hpairs, hempty]
  rfl

end Engine

namespace Client

open Engine Exchange

variable {c : Client} {base asked : Url} {query : String}

/-- The call that lists executions. -/
def executionsCall (parameters : List (String × Json)) : Call :=
  { method := .get, endpoint := "/executions", parameters := some parameters }

/-- The locator of the executions that are asked for with a form. -/
def executionsPlace (base asked : Url) (form : List (String × String)) : Url :=
  { asked with path := base.path ++ "/executions", query := Url.formQuery form }

section Prepare

variable (h : c.Asks base query asked)
  (hlength : (c.baseUrl ++ "/executions").length ≤ Url.lengthLimit)
  (hpath : (base.path ++ "/executions").length ≤ Url.lengthLimit)

include h hlength hpath

theorem Asks.locate_executions : ∃ located, c.locate "/executions" = .ok located ∧
    located.withQuery (some query) = .ok { asked with path := base.path ++ "/executions" } := by
  have hparts : ∀ part ∈ ["executions".toList], Url.IsFixed part :=
    List.forall_mem_singleton.mpr ⟨by decide, by decide, by decide, by decide⟩
  have hendpoint : "/executions".toList = Url.joined ["executions".toList] := by simp [Url.joined]
  obtain ⟨hnormal, hencoded⟩ :=
    Url.path_append_joined h.ready.parsed h.ready.absolute h.ready.marks hparts
  rw [← hendpoint, ← String.toList_append] at hnormal hencoded
  exact ⟨_, h.ready.locate_endpoint (List.cons_ne_nil _ _) hparts hendpoint hlength,
    Url.withQuery_path h.given h.ready.absolute hpath hnormal hencoded⟩

/-- Executions are asked for with a form, unless the form is too long. -/
theorem Asks.prepare_executions {parameters : List (String × Json)}
    (hspelt : (Json.obj parameters).textFlaw? = none)
    (hfilters : ∀ parameter ∈ parameters, IsFilter parameter.2) :
    let form := filterForm parameters
    let place := executionsPlace base asked form
    (Url.formEncode form).length ≤ Url.lengthLimit ∧ c.prepare (executionsCall parameters) =
        .ok (place, ⟨.get, place.toText, c.apiKey, c.timeout, none⟩) ∨
      Url.lengthLimit < (Url.formEncode form).length ∧
        c.prepare (executionsCall parameters) = .error (.url (.partTooLong "query")) := by
  intro form place
  obtain ⟨located, hlocate, hwith⟩ := h.locate_executions hlength hpath
  have hquery : withParameters located (some parameters) = located.withQuery (Url.formQuery form) :=
    congrArg located.withQuery (queryText_setParameters hfilters)
  have hcases := Url.withQuery_form_cases hwith form
  rw [← hquery] at hcases
  refine hcases.imp (fun ⟨hshort, hplaced⟩ => ⟨hshort, ?_⟩) fun ⟨hlong, hrefused⟩ => ⟨hlong, ?_⟩
  · exact prepare_eq_ok.mpr
      ⟨⟨rfl, hspelt⟩, located, none, hlocate, hplaced, rfl, h.ready.key, h.place, rfl⟩
  · exact prepare_of_unasked ⟨rfl, hspelt⟩ hlocate h.ready.key hrefused

/-- Filters that cannot be written out are not asked for. -/
theorem Asks.prepare_executions_of_flaw {parameters : List (String × Json)}
    {flaw : Json.Unwritable} (hflaw : (Json.obj parameters).textFlaw? = some flaw) :
    c.prepare (executionsCall parameters) = .error (.unwritable flaw) := by
  obtain ⟨located, hlocate, -⟩ := h.locate_executions hlength hpath
  exact prepare_of_unspelt_parameters rfl hlocate h.ready.key hflaw

end Prepare

/-- Listing executions is one call. -/
theorem called_listExecutions {filter : ExecutionFilter} :
    (c.listExecutions filter).Takes (Called c (executionsCall filter.parameters)) :=
  .log_bind (takes_request c _)

end Client

namespace Tool

open Client Exchange Engine

variable {c : Client} {base asked : Url} {query : String} {fields : List (String × Json)}

/-- The filters in the arguments, unset ones among them. -/
def filters (fields : List (String × Json)) : List (String × Json) :=
  filterKeys.map fun key => (key, Json.getField key fields)

/-- The filter of the arguments is made without a request. -/
theorem executionFilter_obj (fields : List (String × Json)) :
    executionFilter (.obj fields) = pure {
      includeData := Json.getField "includeData" fields
      status := Json.getField "status" fields
      workflowId := Json.getField "workflowId" fields
      projectId := Json.getField "projectId" fields
      limit := Json.getField "limit" fields
      cursor := Json.getField "cursor" fields } :=
  rfl

theorem called_run (c : Client) (fields : List (String × Json)) :
    (run c listExecutions (.obj fields)).Takes (Called c (executionsCall (filters fields))) := by
  change (executionFilter (.obj fields) >>= c.listExecutions).Takes _
  rw [executionFilter_obj, pure_bind]
  exact called_listExecutions

/-- The call lists executions with one request, or its form is too long. -/
theorem list_executions_cases (hasks : c.Asks base query asked)
    (hlength : (c.baseUrl ++ "/executions").length ≤ Url.lengthLimit)
    (hpath : (base.path ++ "/executions").length ≤ Url.lengthLimit)
    (hspelt : (Json.obj (filters fields)).textFlaw? = none)
    (hfilters : ∀ key ∈ filterKeys, IsFilter (Json.getField key fields)) (l : Link) :
    let act := call c "list_executions" (.obj fields)
    let form := filterForm (filters fields)
    let place := executionsPlace base asked form
    (Url.formEncode form).length ≤ Url.lengthLimit ∧ (act.after l).requests =
        l.requests ++ [⟨.get, place.toText, c.apiKey, c.timeout, none⟩] ∨
      Url.lengthLimit < (Url.formEncode form).length ∧ (act.after l).requests = l.requests ∧
        act.answer l = .error (.url (.partTooLong "query")) := by
  intro act form place
  obtain ⟨steps, hrequests, -, -, raw, hanswer, hcalled⟩ :=
    takes_call_of_run (called_run c fields) l
  have hall : ∀ parameter ∈ filters fields, IsFilter parameter.2 :=
    List.forall_mem_map.mpr hfilters
  rcases hasks.prepare_executions hlength hpath hspelt hall with
    ⟨hshort, hprepare⟩ | ⟨hlong, hprepare⟩
  · refine .inl ⟨hshort, hrequests.trans ?_⟩
    rw [hcalled.sent hprepare]
  · obtain ⟨rfl, rfl⟩ := hcalled.unsent hprepare
    exact .inr ⟨hlong, hrequests.trans (List.append_nil _), hanswer⟩

/-- One request lists the executions. Its query holds the filters that are set, in order, and
they are read from it as they were given; a query that is too long is not asked at all, and
neither are filters that cannot be written out. -/
theorem list_executions_by_filters (hasks : c.Asks base query asked)
    (hlength : (c.baseUrl ++ "/executions").length ≤ Url.lengthLimit)
    (hpath : (base.path ++ "/executions").length ≤ Url.lengthLimit)
    (hfilters : ∀ key ∈ filterKeys, IsFilter (Json.getField key fields)) (l : Link) :
    let act := call c "list_executions" (.obj fields)
    let form := filterForm (filters fields)
    let place := executionsPlace base asked form
    Url.formDecode (place.query.getD "").toList = some form ∧
      ((Json.obj (filters fields)).textFlaw? = none →
        ((Url.formEncode form).length ≤ Url.lengthLimit → (act.after l).requests =
          l.requests ++ [⟨.get, place.toText, c.apiKey, c.timeout, none⟩]) ∧
        (Url.lengthLimit < (Url.formEncode form).length → (act.after l).requests = l.requests ∧
          act.answer l = .error (.url (.partTooLong "query")))) ∧
      ∀ flaw, (Json.obj (filters fields)).textFlaw? = some flaw →
        (act.after l).requests = l.requests ∧ act.answer l = .error (.unwritable flaw) := by
  intro act form place
  refine ⟨Url.formDecode_formQuery form, fun hspelt => ⟨fun hshort => ?_, fun hlong => ?_⟩,
    fun flaw hflaw => ?_⟩
  · rcases list_executions_cases hasks hlength hpath hspelt hfilters l with ⟨-, hsent⟩ | ⟨hlong, -⟩
    · exact hsent
    · exact absurd hshort (Nat.not_le.mpr hlong)
  · rcases list_executions_cases hasks hlength hpath hspelt hfilters l with
      ⟨hshort, -⟩ | ⟨-, hunsent⟩
    · exact absurd hlong (Nat.not_lt.mpr hshort)
    · exact hunsent
  · obtain ⟨steps, hrequests, -, -, raw, hanswer, hcalled⟩ :=
      takes_call_of_run (called_run c fields) l
    obtain ⟨rfl, rfl⟩ := hcalled.unsent (hasks.prepare_executions_of_flaw hlength hpath hflaw)
    exact ⟨hrequests.trans (List.append_nil _), hanswer⟩

/-- A status may hold the marks of a form; a cursor that is unset is left out. -/
theorem list_executions_of_marked_status :
    let fields : List (String × Json) := [("cursor", .null), ("limit", .int 5),
      ("status", "a b&c=é"), ("includeData", .bool true)]
    let query := "includeData=true&status=a+b%26c%3D%C3%A9&limit=5"
    ((call Operation.hosted "list_executions" (.obj fields)).after ⟨[], [], []⟩).requests =
        [⟨.get, "http://n8n.test/api/v1/executions?" ++ query, "key", .int 30, none⟩] ∧
      Url.formDecode query.toList =
        some [("includeData", "true"), ("status", "a b&c=é"), ("limit", "5")] := by
  intro fields query
  have hfilters : ∀ key ∈ filterKeys, IsFilter (Json.getField key fields) := by
    simp only [filterKeys, List.forall_mem_cons]
    exact ⟨.flag true, .text _, .unset, .unset, .integer 5, .unset, nofun⟩
  let form := [("includeData", "true"), ("status", "a b&c=é"), ("limit", "5")]
  have hform : filterForm (filters fields) = form := rfl
  have hquery : Url.formQuery form = some query := by cbv
  have hshort : (Url.formEncode form).length ≤ Url.lengthLimit := by decide +kernel
  have hplace : Url.toText (executionsPlace ⟨"http", "", "n8n.test", none, "/api/v1", none, none⟩
      ⟨"http", "", "n8n.test", none, "/api/v1", some "includeData=true", none⟩ form) =
        "http://n8n.test/api/v1/executions?" ++ query := by cbv
  have hspelt : (Json.obj (filters fields)).textFlaw? = none := by decide
  obtain ⟨hdecode, hsent, -⟩ := list_executions_by_filters asks_hosted (by decide) (by decide)
    hfilters ⟨[], [], []⟩
  have hlisted := (hsent hspelt).1
  simp only [hform, hplace] at hdecode hlisted
  refine ⟨hlisted hshort, ?_⟩
  rwa [executionsPlace, hquery] at hdecode

/-- A status as long as a locator may be makes the form too long. -/
theorem list_executions_of_long_status {status : String} (h : status.length = Url.lengthLimit) :
    let fields : List (String × Json) := [("status", .str status)]
    (∀ key ∈ filterKeys, IsFilter (Json.getField key fields)) ∧
      ((call Operation.hosted "list_executions" (.obj fields)).after ⟨[], [], []⟩).requests = [] ∧
      (call Operation.hosted "list_executions" (.obj fields)).answer ⟨[], [], []⟩ =
        .error (.url (.partTooLong "query")) := by
  intro fields
  have hfilters : ∀ key ∈ filterKeys, IsFilter (Json.getField key fields) := by
    simp only [filterKeys, List.forall_mem_cons]
    exact ⟨.unset, .text status, .unset, .unset, .unset, .unset, nofun⟩
  have hform : filterForm (filters fields) = [("status", status)] := rfl
  have hlong : Url.lengthLimit < (Url.formEncode (filterForm (filters fields))).length := by
    have htext := Url.length_le_length_formText status
    simp only [hform, Url.formEncode, Url.formPair, List.length_append, List.length_cons]
    omega
  refine ⟨hfilters, ?_⟩
  rcases list_executions_cases asks_hosted (by decide) (by decide) rfl hfilters ⟨[], [], []⟩ with
    ⟨hshort, -⟩ | ⟨-, hunsent⟩
  · exact absurd hlong (Nat.not_lt.mpr hshort)
  · exact hunsent

/-- Executions are not asked for by a status of that many letters. -/
theorem list_executions_stops_at_long_status :
    let fields : List (String × Json) :=
      [("status", .str (String.ofList (List.replicate Url.lengthLimit 'a')))]
    (∀ key ∈ filterKeys, IsFilter (Json.getField key fields)) ∧
      ((call Operation.hosted "list_executions" (.obj fields)).after ⟨[], [], []⟩).requests = [] ∧
      (call Operation.hosted "list_executions" (.obj fields)).answer ⟨[], [], []⟩ =
        .error (.url (.partTooLong "query")) :=
  list_executions_of_long_status (by rw [String.length_ofList, List.length_replicate])

end Tool

end Flowgate
