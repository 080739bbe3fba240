import Flowgate.Proofs.Engine.Serving
import Flowgate.Proofs.Json.Tidy
import Flowgate.Proofs.Tool.ExecutionId
import Flowgate.Proofs.Tool.Replacement

/-! # Runs of what was fetched

A workflow is run as it was fetched: the engine is told the fields of it that matter for a run,
and the data to run it with. Data comes from the execution that is tried again, or it is the
input, put at the first node.
-/

namespace Flowgate

namespace Client

open Exchange Json

/-! ## What is told of a workflow -/

/-- The fields of a workflow that a run is told, each with what stands for it where the workflow
has none. -/
def runFields : List (String × Json) := [
  ("id", .null), ("name", .null), ("nodes", .arr []), ("connections", .obj []),
  ("active", .bool false), ("createdAt", .null), ("updatedAt", .null)]

/-- What a run is told of a workflow. -/
def toldFields (workflow : List (String × Json)) : List (String × Json) :=
  runFields.map fun field => (field.1, (workflow.lookup field.1).getD field.2)

/-- The body that runs a workflow with data; data that is unset is left out. -/
def replay (workflow : List (String × Json)) (data : Json) : Json :=
  .obj (("workflowData", .obj (toldFields workflow)) ::
    if data.truthy then [("runData", data)] else [])

/-- Where a workflow has nodes, they are objects with names. -/
def HasNamedNodes (workflow : List (String × Json)) : Prop :=
  (getField "nodes" workflow).truthy = true → ∃ nodes, getField "nodes" workflow = .arr nodes ∧
    ∀ node ∈ nodes, ∃ fields name, node = .obj fields ∧ fields.lookup "name" = some (.str name)

/-- The data that input is for a workflow: it goes to the first node, and without input or without
nodes there is none. -/
inductive Feeds (workflow : List (String × Json)) (input : Json) : Json → Prop
  | unset : input.truthy = false ∨ (getField "nodes" workflow).truthy = false →
      Feeds workflow input .null
  | first {fields : List (String × Json)} {rest : List Json} {name : String} :
      input.truthy = true → getField "nodes" workflow = .arr (.obj fields :: rest) →
      fields.lookup "name" = some (.str name) →
      Feeds workflow input (.obj [(name, .arr [.obj [("json", input)]])])

variable {workflow : List (String × Json)} {data input : Json}

theorem runPayload_obj (workflow : List (String × Json)) (data : Json) :
    runPayload (.obj workflow) data = .ok (replay workflow data) :=
  rfl

/-- A run of what can be sent can be sent. -/
theorem isSendable_replay (hworkflow : IsSendable (.obj workflow)) (hdata : data.IsSendable) :
    (replay workflow data).IsSendable := by
  have htold : IsSendable (.obj (toldFields workflow)) := by
    have hkeys : (toldFields workflow).map Prod.fst = runFields.map Prod.fst := List.map_map
    have hdefaults : ∀ field ∈ runFields, field.2.IsSendable := by
      simp only [runFields, List.forall_mem_cons]
      exact ⟨.null, .null, .arr nofun, .obj List.nodup_nil nofun, .bool false, .null, .null, nofun⟩
    refine .obj (by rw [hkeys]; decide) (List.forall_mem_map.mpr fun field hfield => ?_)
    exact hworkflow.getD_lookup field.1 (hdefaults field hfield)
  refine .obj ?_ ?_
  · split <;> simp
  · refine List.forall_mem_cons.mpr ⟨htold, ?_⟩
    split
    · exact List.forall_mem_singleton.mpr hdata
    · nofun

/-- Input for the first node is data. -/
theorem Feeds.isSendable {fed : Json} (h : Feeds workflow input fed) (hinput : input.IsSendable) :
    fed.IsSendable := by
  cases h with
  | unset => exact .null
  | first =>
      refine .obj (List.nodup_singleton _) (List.forall_mem_singleton.mpr ?_)
      refine .arr (List.forall_mem_singleton.mpr ?_)
      exact .obj (List.nodup_singleton _) (List.forall_mem_singleton.mpr hinput)

/-- The first node is found where there is input for it. -/
theorem exists_feeds (h : HasNamedNodes workflow) (input : Json) :
    Feeds workflow input .null ∧ inputData (.obj workflow) input = .ok none ∨
      ∃ name data, Feeds workflow input (.obj [(name, data)]) ∧
        inputData (.obj workflow) input = .ok (some (.str name, data)) := by
  unfold inputData
  cases hinput : input.truthy with
  | false => exact .inl ⟨.unset (.inl hinput), rfl⟩
  | true =>
      cases hset : (getField "nodes" workflow).truthy with
      | false =>
          refine .inl ⟨.unset (.inr hset), ?_⟩
          simp [Json.get, hset, Bind.bind, Except.bind, Pure.pure, Except.pure]
      | true =>
          obtain ⟨nodes, hnodes, hnamed⟩ := h hset
          cases nodes with
          | nil =>
              rw [hnodes] at hset
              cases hset
          | cons first rest =>
              obtain ⟨fields, name, rfl, hname⟩ := hnamed first List.mem_cons_self
              refine .inr ⟨name, _, .first hinput hnodes hname, ?_⟩
              simp [Json.get, hnodes, Json.truthy, Json.first, Json.require, hname, Json.asKey,
                Bind.bind, Except.bind, Pure.pure, Except.pure]

/-! ## Calls that are served -/

section Served

variable {c : Client} {url : Url} {r : Request} {l : Link} {v : Json} {outcome : Outcome}
  {left : List Outcome} {fields : List (String × Json)}

theorem yields_getWorkflow {id : Json} (hprepare : c.prepare (fetchCall id) = .ok (url, r))
    (habsolute : url.isAbsolute = true) (hserves : outcome.Serves v)
    (hscript : l.script = outcome :: left) : Yields (c.getWorkflow id) l (.ok v) [r] left :=
  .log_bind fun _ hm => yields_request hprepare habsolute hserves (hm.trans hscript)

theorem yields_getExecution {id : Json}
    (hprepare : c.prepare (executionCall id (.bool true)) = .ok (url, r))
    (habsolute : url.isAbsolute = true) (hserves : outcome.Serves (.obj fields))
    (hscript : l.script = outcome :: left) :
    Yields (c.getExecution id (.bool true)) l (.ok (.obj fields)) [r] left := by
  refine .log_bind fun m hm => ?_
  have hcall := yields_request hprepare habsolute hserves (hm.trans hscript)
  -- a hint may be logged for data that is missing, and nothing else is done
  refine hcall.bind (.shaped_bind rfl ?_)
  split
  · exact .log_bind fun _ hlogged => .pure _ (hlogged.trans hcall.script)
  · exact .pure _ hcall.script

/-- A run is sent where its body can be written. -/
theorem yields_run {text : String} (hprepare : c.prepare (runCall .null) = .ok (url, r))
    (habsolute : url.isAbsolute = true) (htext : (replay fields v).body = .ok text)
    {answer : Json} (hserves : outcome.Serves answer) (hscript : l.script = outcome :: left) :
    Yields (c.run (.obj fields) v) l (.ok answer) [{ r with body := some text }] left := by
  have hbody := prepare_body hprepare (rfl : (replay fields v).isNull = false) htext
  exact .shaped_bind (runPayload_obj fields v) (yields_request hbody habsolute hserves hscript)

end Served

/-- Why an execution cannot be tried again. -/
def noWorkflowId : EngineError :=
  ⟨"Cannot retry execution: missing workflow ID", none, none⟩

/-- An answer that is read from octets has each key once. -/
theorem uniqueKeys_of_serves {status : Int} {content : List UInt8} {v : Json}
    (h : Outcome.Serves v (.answer (.ofOctets status content))) : v.UniqueKeys :=
  h.2 ▸ (isTidy_body status content).keys

section Replays

variable {c : Client} {base asked : Url} {l : Link} {first second third : Outcome}
  {left : List Outcome} {execution workflow : List (String × Json)} {answer input : Json}
  {n : Int} {id : String}

/-- A client that can fetch executions and workflows and run these. -/
structure Replays (c : Client) (base asked : Url) : Prop where
  asks : c.Asks base "includeData=true" asked
  absolute : asked.isAbsolute = true
  room : (c.baseUrl ++ runPath).length ≤ Url.lengthLimit

/-- The request for an execution with its data. -/
def executionRequest (c : Client) (base asked : Url) (n : Int) : Request :=
  ⟨.get, Url.toText { asked with path := base.path ++ "/executions/" ++ toString n }, c.apiKey,
    c.timeout, none⟩

/-- The request for a workflow. -/
def workflowRequest (c : Client) (base : Url) (id : String) : Request :=
  ⟨.get, base.toText ++ "/workflows/" ++ id, c.apiKey, c.timeout, none⟩

/-- The request that runs a workflow. -/
def runRequest (c : Client) (base : Url) (text : String) : Request :=
  ⟨.post, base.toText ++ "/workflows/run", c.apiKey, c.timeout, some text⟩

theorem Replays.prepare_run (h : c.Replays base asked) : ∃ url, url.isAbsolute = true ∧
    c.prepare (runCall .null) = .ok (url, { runRequest c base "" with body := none }) := by
  have hparts : ∀ part ∈ ["workflows".toList, "run".toList], Url.IsFixed part := by
    refine List.forall_mem_cons.mpr ⟨Url.isFixed_workflows _ List.mem_cons_self,
      List.forall_mem_singleton.mpr ⟨by decide, by decide, by decide, by decide⟩⟩
  exact ⟨{ base with path := base.path ++ runPath }, h.asks.ready.absolute,
    h.asks.ready.prepare_endpoint (List.cons_ne_nil _ _) hparts (by simp [runPath, Url.joined])
      h.room .post rfl⟩

theorem Replays.prepare_execution (h : c.Replays base asked) (hshort : isShort n = true)
    (hlength : (c.baseUrl ++ "/executions/" ++ toString n).length ≤ Url.lengthLimit)
    (hpath : (base.path ++ "/executions/" ++ toString n).length ≤ Url.lengthLimit) :
    ∃ url, url.isAbsolute = true ∧ c.prepare (executionCall (.int n) (.bool true)) =
      .ok (url, executionRequest c base asked n) := by
  have hask : executionCall (.int n) (.bool true) = Tool.executionAsk .retryExecution [] n := rfl
  exact ⟨{ asked with path := base.path ++ "/executions/" ++ toString n }, h.absolute,
    hask ▸ Tool.prepare_executionAsk h.asks hshort hlength hpath⟩

theorem Replays.prepare_workflow (h : c.Replays base asked)
    (hletters : ∀ letter ∈ id.toList, letter.isAlphanum = true)
    (hlength : (c.baseUrl ++ "/workflows/" ++ id).length ≤ Url.lengthLimit) :
    ∃ url, url.isAbsolute = true ∧
      c.prepare (fetchCall (.str id)) = .ok (url, workflowRequest c base id) :=
  Tool.prepare_workflow h.asks.ready hletters hlength .get

/-- An execution without a workflow is fetched, and nothing else. -/
theorem yields_retryExecution_unset (h : c.Replays base asked) (hscript : l.script = first :: left)
    (hfirst : first.Serves (.obj execution)) (hshort : isShort n = true)
    (hlength : (c.baseUrl ++ "/executions/" ++ toString n).length ≤ Url.lengthLimit)
    (hpath : (base.path ++ "/executions/" ++ toString n).length ≤ Url.lengthLimit)
    (hunset : (getField "workflowId" execution).truthy = false) :
    Yields (c.retryExecution (.int n)) l (.error (.engine noWorkflowId))
      [executionRequest c base asked n] left := by
  obtain ⟨url, habsolute, hprepare⟩ := h.prepare_execution hshort hlength hpath
  refine .log_bind fun m hm => ?_
  have hfetch := yields_getExecution hprepare habsolute hfirst (hm.trans hscript)
  refine hfetch.bind (.shaped_bind rfl ?_)
  rw [if_neg (by rw [hunset]; nofun)]
  exact ⟨rfl, (List.append_nil _).symm, hfetch.script⟩

/-- A workflow can be run with any data, where both can be sent. -/
theorem Replays.run (h : c.Replays base asked) (hworkflow : IsSendable (.obj workflow))
    {data : Json} (hdata : data.IsSendable) :
    ∃ text, Encoding.utf8.read? (Utf8.encode text) = some (replay workflow data) ∧
      ∀ m : Link, ∀ {third left answer}, m.script = third :: left → third.Serves answer →
        Yields (c.run (.obj workflow) data) m (.ok answer) [runRequest c base text] left := by
  obtain ⟨text, htext, hread⟩ := (isSendable_replay hworkflow hdata).exists_body
  obtain ⟨url, habsolute, hprepare⟩ := h.prepare_run
  refine ⟨text, hread, fun m _ _ _ hscript hthird => ?_⟩
  exact yields_run hprepare habsolute htext hthird hscript

/-- An execution with a workflow is fetched, then the workflow, and the workflow is run with the
data of the execution. -/
theorem yields_retryExecution (h : c.Replays base asked)
    (hscript : l.script = first :: second :: third :: left)
    (hfirst : first.Serves (.obj execution)) (hsecond : second.Serves (.obj workflow))
    (hthird : third.Serves answer) (hexecution : IsSendable (.obj execution))
    (hworkflow : IsSendable (.obj workflow)) (hshort : isShort n = true)
    (hlength : (c.baseUrl ++ "/executions/" ++ toString n).length ≤ Url.lengthLimit)
    (hpath : (base.path ++ "/executions/" ++ toString n).length ≤ Url.lengthLimit)
    (hset : (getField "workflowId" execution).truthy = true)
    (hid : (getField "workflowId" execution).plain = id)
    (hletters : ∀ letter ∈ id.toList, letter.isAlphanum = true)
    (hlocator : (c.baseUrl ++ "/workflows/" ++ id).length ≤ Url.lengthLimit) :
    ∃ text, Encoding.utf8.read? (Utf8.encode text) =
        some (replay workflow (getField "data" execution)) ∧
      Yields (c.retryExecution (.int n)) l (.ok answer)
        [executionRequest c base asked n, workflowRequest c base id, runRequest c base text]
        left := by
  have hdata : (getField "data" execution).IsSendable := hexecution.getD_lookup "data" .null
  have hpasted : pasted (getField "workflowId" execution) = .ok id :=
    pasted_eq_ok.mpr
      ⟨textFlaw?_of_isWritable (hexecution.getD_lookup "workflowId" .null).writable, hid⟩
  obtain ⟨text, hread, hrun⟩ := h.run hworkflow hdata
  obtain ⟨place, hplace, hask⟩ := h.prepare_execution hshort hlength hpath
  obtain ⟨url, habsolute, hfetch⟩ := h.prepare_workflow hletters hlocator
  refine ⟨text, hread, .log_bind fun m hm => ?_⟩
  have hgot := yields_getExecution hask hplace hfirst (hm.trans hscript)
  refine hgot.bind (.shaped_bind rfl ?_)
  rw [if_pos hset, hpasted]
  refine .ofExcept_bind ?_
  have hfetched := yields_getWorkflow hfetch habsolute hsecond hgot.script
  exact hfetched.bind (.shaped_bind rfl (hrun _ hfetched.script hthird))

/-- A workflow is fetched and run with the input for its first node. -/
theorem yields_executeWorkflow (h : c.Replays base asked)
    (hscript : l.script = second :: third :: left) (hsecond : second.Serves (.obj workflow))
    (hthird : third.Serves answer) (hworkflow : IsSendable (.obj workflow))
    (hnodes : HasNamedNodes workflow) (hinput : input.IsSendable)
    (hletters : ∀ letter ∈ id.toList, letter.isAlphanum = true)
    (hlocator : (c.baseUrl ++ "/workflows/" ++ id).length ≤ Url.lengthLimit) :
    ∃ data text, Feeds workflow input data ∧
      Encoding.utf8.read? (Utf8.encode text) = some (replay workflow data) ∧
      Yields (c.executeWorkflow (.str id) input) l (.ok answer)
        [workflowRequest c base id, runRequest c base text] left := by
  obtain ⟨url, habsolute, hfetch⟩ := h.prepare_workflow hletters hlocator
  -- whatever the data is, the workflow is fetched and run with it
  have hruns {data : Json} (hfeeds : Feeds workflow input data) :
      ∃ text, Encoding.utf8.read? (Utf8.encode text) = some (replay workflow data) ∧
        ∀ m : Link, m.script = third :: left →
          Yields (c.run (.obj workflow) data) m (.ok answer) [runRequest c base text] left := by
    obtain ⟨text, hread, hrun⟩ := h.run hworkflow (hfeeds.isSendable hinput)
    exact ⟨text, hread, fun m hm => hrun m hm hthird⟩
  have hfetches (m : Link) (hm : m.script = l.script) :=
    yields_getWorkflow hfetch habsolute hsecond (hm.trans hscript)
  rcases exists_feeds hnodes input with ⟨hfeeds, hnone⟩ | ⟨name, data, hfeeds, hsome⟩
  · obtain ⟨text, hread, hrun⟩ := hruns hfeeds
    refine ⟨_, text, hfeeds, hread, .log_bind fun m hm => .log_bind fun m' hm' => ?_⟩
    have hfetched := hfetches m' (hm'.trans hm)
    exact hfetched.bind (.shaped_bind hnone (hrun _ hfetched.script))
  · obtain ⟨text, hread, hrun⟩ := hruns hfeeds
    refine ⟨_, text, hfeeds, hread, .log_bind fun m hm => .log_bind fun m' hm' => ?_⟩
    have hfetched := hfetches m' (hm'.trans hm)
    exact hfetched.bind (.shaped_bind hsome (hrun _ hfetched.script))

/-- What is run is what was fetched. An execution without a workflow is only fetched, and otherwise
the workflow is fetched as well and run with the data of the execution; a workflow that is to be
executed is fetched and run with the input for its first node. -/
theorem replays_what_was_fetched (h : c.Replays base asked) :
    (∀ n l first left execution, l.script = first :: left → first.Serves (.obj execution) →
      IsSendable (.obj execution) → isShort n = true →
      (c.baseUrl ++ "/executions/" ++ toString n).length ≤ Url.lengthLimit →
      (base.path ++ "/executions/" ++ toString n).length ≤ Url.lengthLimit →
      let workflowId := getField "workflowId" execution
      let id := workflowId.plain
      (workflowId.truthy = false →
        Yields (c.retryExecution (.int n)) l (.error (.engine noWorkflowId))
          [executionRequest c base asked n] left) ∧
      ∀ second third rest workflow answer, workflowId.truthy = true →
        left = second :: third :: rest → second.Serves (.obj workflow) → third.Serves answer →
        IsSendable (.obj workflow) → (∀ letter ∈ id.toList, letter.isAlphanum = true) →
        (c.baseUrl ++ "/workflows/" ++ id).length ≤ Url.lengthLimit →
        ∃ text, Encoding.utf8.read? (Utf8.encode text) =
            some (replay workflow (getField "data" execution)) ∧
          Yields (c.retryExecution (.int n)) l (.ok answer)
            [executionRequest c base asked n, workflowRequest c base id, runRequest c base text]
            rest) ∧
    ∀ id input l second third left workflow answer, l.script = second :: third :: left →
      second.Serves (.obj workflow) → third.Serves answer →
      IsSendable (.obj workflow) → HasNamedNodes workflow → input.IsSendable →
      (∀ letter ∈ id.toList, letter.isAlphanum = true) →
      (c.baseUrl ++ "/workflows/" ++ id).length ≤ Url.lengthLimit →
      ∃ data text, Feeds workflow input data ∧
        Encoding.utf8.read? (Utf8.encode text) = some (replay workflow data) ∧
        Yields (c.executeWorkflow (.str id) input) l (.ok answer)
          [workflowRequest c base id, runRequest c base text] left := by
  constructor
  · intro n l first left execution hscript hfirst hexecution hshort hlength hpath workflowId id
    refine ⟨yields_retryExecution_unset h hscript hfirst hshort hlength hpath, ?_⟩
    rintro second third rest workflow answer hset rfl hsecond hthird hworkflow hletters hlocator
    exact yields_retryExecution h hscript hfirst hsecond hthird hexecution hworkflow hshort hlength
      hpath hset rfl hletters hlocator
  · intro id input l second third left workflow answer hscript hsecond hthird hworkflow hnodes
      hinput hletters hlocator
    exact yields_executeWorkflow h hscript hsecond hthird hworkflow hnodes hinput hletters hlocator

end Replays

theorem replays_hosted : Operation.hosted.Replays
    ⟨"http", "", "n8n.test", none, "/api/v1", none, none⟩
    ⟨"http", "", "n8n.test", none, "/api/v1", some "includeData=true", none⟩ where
  asks := asks_hosted
  absolute := rfl
  room := by decide

/-- An execution of workflow seven is tried again, and a workflow is run with an input. -/
theorem replays_hosted_runs :
    let execution := Outcome.body "\x7b\"workflowId\":\"7\",\"data\":[\"x\"]\x7d"
    let fetched := Outcome.body "\x7b\"id\":\"7\",\"nodes\":[\x7b\"name\":\"Start\"\x7d]\x7d"
    let started := Outcome.body "\x7b\x7d"
    let told : Json := .obj [("id", "7"), ("name", .null),
      ("nodes", .arr [.obj [("name", "Start")]]), ("connections", .obj []),
      ("active", .bool false), ("createdAt", .null), ("updatedAt", .null)]
    let fetch : Request := ⟨.get, "http://n8n.test/api/v1/workflows/7", "key", .int 30, none⟩
    let run (text : String) : Request :=
      ⟨.post, "http://n8n.test/api/v1/workflows/run", "key", .int 30, some text⟩
    (∃ text, Encoding.utf8.read? (Utf8.encode text) =
        some (.obj [("workflowData", told), ("runData", .arr [.str "x"])]) ∧
      ((Operation.hosted.retryExecution (.int 5)).after
        ⟨[execution, fetched, started], [], []⟩).requests =
        [⟨.get, "http://n8n.test/api/v1/executions/5?includeData=true", "key", .int 30, none⟩,
          fetch, run text]) ∧
      ∃ text, Encoding.utf8.read? (Utf8.encode text) = some (.obj [("workflowData", told),
          ("runData", .obj [("Start", .arr [.obj [("json", .int 1)]])])]) ∧
        ((Operation.hosted.executeWorkflow "7" (.int 1)).after
          ⟨[fetched, started], [], []⟩).requests = [fetch, run text] := by
  intro execution fetched started told fetch run
  let workflow : List (String × Json) := [("id", "7"), ("nodes", .arr [.obj [("name", "Start")]])]
  have hexecution : execution.Serves (.obj [("workflowId", "7"), ("data", .arr [.str "x"])]) :=
    ⟨by decide, by cbv⟩
  have hfetched : fetched.Serves (.obj workflow) := ⟨by decide, by cbv⟩
  have hstarted : started.Serves (.obj []) := ⟨by decide, by cbv⟩
  have hletters : ∀ letter ∈ "7".toList, letter.isAlphanum = true :=
    List.all_eq_true.mp (by decide)
  have hnodes : HasNamedNodes workflow := fun _ =>
    ⟨_, rfl, List.forall_mem_singleton.mpr ⟨_, "Start", rfl, rfl⟩⟩
  have hask : executionRequest Operation.hosted
      ⟨"http", "", "n8n.test", none, "/api/v1", none, none⟩
      ⟨"http", "", "n8n.test", none, "/api/v1", some "includeData=true", none⟩ 5 =
      ⟨.get, "http://n8n.test/api/v1/executions/5?includeData=true", "key", .int 30, none⟩ := by
    cbv
  have hfetch : workflowRequest Operation.hosted
      ⟨"http", "", "n8n.test", none, "/api/v1", none, none⟩ "7" = fetch := by cbv
  have hrun (text : String) : runRequest Operation.hosted
      ⟨"http", "", "n8n.test", none, "/api/v1", none, none⟩ text = run text := by cbv
  have hworkflow : IsSendable (.obj workflow) := ⟨uniqueKeys_of_serves hfetched, by decide⟩
  obtain ⟨hretry, hexecute⟩ := replays_what_was_fetched replays_hosted
  constructor
  · obtain ⟨text, hread, hyields⟩ := (hretry 5 ⟨[execution, fetched, started], [], []⟩ _ _ _ rfl
      hexecution ⟨uniqueKeys_of_serves hexecution, by decide⟩ (by decide) (by decide)
        (by decide)).2 _ _ _ workflow _ rfl rfl hfetched hstarted hworkflow hletters (by decide)
    refine ⟨text, hread, ?_⟩
    rw [hyields.requests, hask, ← hrun, ← hfetch]
    rfl
  · obtain ⟨data, text, hfeeds, hread, hyields⟩ := hexecute "7" (.int 1)
      ⟨[fetched, started], [], []⟩ _ _ _ workflow _ rfl hfetched hstarted hworkflow hnodes
        ⟨.int 1, by decide⟩ hletters (by decide)
    have hdata : data = .obj [("Start", .arr [.obj [("json", .int 1)]])] := by
      cases hfeeds with
      | unset hnone => exact absurd hnone (by decide)
      | first _ hfirst hname =>
          cases hfirst
          cases hname
          rfl
    subst hdata
    refine ⟨text, hread, ?_⟩
    rw [hyields.requests, hfetch, hrun]
    rfl

/-- A workflow whose identifier is longer than a locator may be is not executed. -/
theorem execute_of_long_id {id : String} (hlength : id.length = Url.lengthLimit) (input : Json)
    (l : Link) :
    (Operation.hosted.executeWorkflow (.str id) input).answer l = .error (.url .tooLong) ∧
      ((Operation.hosted.executeWorkflow (.str id) input).after l).requests = l.requests := by
  have hrefused : Operation.hosted.prepare (fetchCall (.str id)) = .error (.url .tooLong) := by
    refine prepare_of_long rfl ?_
    simp only [fetchCall, Tool.workflowPath_str, String.length_append, hlength]
    have hbase : 0 < Operation.hosted.baseUrl.length := by decide
    omega
  have hstop : Yields (Operation.hosted.executeWorkflow (.str id) input) l
      (.error (.url .tooLong)) [] l.script := by
    refine .log_bind fun m hm => .log_bind fun m' hm' => .bind_error (.log_bind fun m'' hm'' => ?_)
    exact yields_request_of_error hrefused (hm''.trans (hm'.trans hm))
  exact ⟨hstop.answer, hstop.requests.trans (List.append_nil _)⟩

/-- The engine would serve a workflow and a run, and neither is asked for. -/
theorem execute_stops_at_long_id :
    let id := String.ofList (List.replicate Url.lengthLimit 'a')
    let served := Outcome.body "\x7b\x7d"
    let l : Link := ⟨[served, served], [], []⟩
    (∀ letter ∈ id.toList, letter.isAlphanum = true) ∧ served.Serves (.obj []) ∧
      HasNamedNodes [] ∧
      (Operation.hosted.executeWorkflow (.str id) .null).answer l = .error (.url .tooLong) ∧
      ((Operation.hosted.executeWorkflow (.str id) .null).after l).requests = [] := by
  have hlength : (String.ofList (List.replicate Url.lengthLimit 'a')).length = Url.lengthLimit := by
    rw [String.length_ofList, List.length_replicate]
  refine ⟨fun letter hletter => ?_, ⟨by decide, by cbv⟩, nofun, execute_of_long_id hlength _ _⟩
  rw [String.toList_ofList] at hletter
  rw [List.eq_of_mem_replicate hletter]
  decide

end Client

end Flowgate
