import Flowgate.Proofs.Engine.Course
import Flowgate.Proofs.Json.RoundTrip
import Flowgate.Proofs.Tool.Validation
import Flowgate.Proofs.Workflow.Payload

/-! # Sending what was judged valid

The workflow that comes with a valid verdict is what creating sends, in one request, as long
as its numbers can be written: a body cannot hold an infinity, and a version may be one; nor
can it hold an integer with too many digits. A body that is sent is read back as the workflow.
-/

namespace Flowgate

namespace Client

open Exchange

variable {c : Client} {workflow : Json}

/-- Creating a workflow sends the one request that is prepared, or it fails as the request
does. -/
theorem takes_createWorkflow {name : Json} (hname : workflow.get "name" = .ok name) :
    (c.createWorkflow workflow).Takes fun steps answer =>
      (∀ url r, c.prepare { method := .post, endpoint := "/workflows", body := workflow } =
        .ok (url, r) → steps.map Prod.fst = [r]) ∧
      ∀ failure, c.prepare { method := .post, endpoint := "/workflows", body := workflow } =
        .error failure → steps = [] ∧ answer = .error failure := by
  refine .shaped_bind (fun _ _ => .log_bind (takes_request_bind ?_ ?_)) fun fault hfault => ?_
  · rintro steps failure hcalled
    refine ⟨fun url r => hcalled.sent, fun other hother => ?_⟩
    obtain ⟨rfl, herror⟩ := hcalled.unsent hother
    cases herror
    exact ⟨rfl, rfl⟩
  · intro r response hcalled
    refine Takes.imp (p := fun steps _ => steps = []) ?_ fun steps answer hnone => ?_
    · refine .shaped_bind (fun id _ => ?_) fun _ _ => rfl
      exact .shaped_bind (fun _ _ => .log_bind (.pure _ rfl)) fun _ _ => rfl
    · subst hnone
      refine ⟨fun url other => hcalled.sent, fun failure hother => ?_⟩
      cases (hcalled.unsent hother).1
  · cases hname.symm.trans hfault

end Client

namespace Tool

open Exchange

variable {c : Client} {arguments workflow : Json} {l : Link}

/-- The graph behind a valid verdict: the workflow that comes with it is the one of the
graph, and it has every key once if the arguments have. -/
theorem graph_of_valid {verdict : Json}
    (hverdict : (call c "validate_workflow" arguments).answer l = .ok verdict)
    (hvalid : verdict.field? "valid" = some (.bool true)) :
    ∃ g spec, WorkflowSpec.ofJson (given arguments) = .ok spec ∧
      spec.compile defaultWorkflowName = .ok g ∧
      (∀ l, (compileArguments (given arguments)).answer l = .ok g) ∧
      verdict = validVerdict g := by
  rcases verdict_cases (given arguments) with
    ⟨g, hcompiled, hjudged⟩ | ⟨cause, later, -, hjudged⟩
  · cases (call_validate_eq c arguments l hjudged).symm.trans hverdict
    have hgraph := hcompiled l
    rw [answer_compileArguments] at hgraph
    split at hgraph
    next => cases hgraph
    next spec hspec => exact ⟨g, spec, hspec, mapError_eq_ok.mp hgraph, hcompiled, rfl⟩
  · cases (call_validate_eq c arguments l hjudged).symm.trans hverdict
    cases hvalid

theorem uniqueKeys_given (h : arguments.UniqueKeys) : (given arguments).UniqueKeys := by
  unfold given
  split
  · exact h
  · exact .obj (by simp) (by simp)

theorem uniqueKeys_of_valid {verdict : Json} (hkeys : arguments.UniqueKeys)
    (hverdict : (call c "validate_workflow" arguments).answer l = .ok verdict)
    (hvalid : verdict.field? "valid" = some (.bool true))
    (hworkflow : verdict.field? "workflow" = some workflow) : workflow.UniqueKeys := by
  obtain ⟨g, spec, hspec, hcompile, -, rfl⟩ := graph_of_valid hverdict hvalid
  obtain rfl : g.payload.toJson = workflow := Option.some.inj hworkflow
  exact Graph.uniqueKeys_payload (uniqueKeys_given hkeys) hspec hcompile

/-- Creating is one request with the text of the workflow, or none where there is no text. -/
theorem create_of_valid {verdict : Json} {url : Url} {r : Request}
    (hverdict : (call c "validate_workflow" arguments).answer l = .ok verdict)
    (hvalid : verdict.field? "valid" = some (.bool true))
    (hworkflow : verdict.field? "workflow" = some workflow)
    (hready : c.prepare { method := .post, endpoint := "/workflows" } = .ok (url, r)) :
    let created := call c "create_workflow" arguments
    (∀ text, workflow.body = .ok text →
      (created.after l).requests = l.requests ++ [{ r with body := some text }]) ∧
      ∀ flaw, workflow.bodyFlaw? = some flaw → (created.after l).requests = l.requests ∧
        created.answer l = .error (.unwritable flaw) := by
  intro created
  obtain ⟨g, -, -, -, hcompiled, rfl⟩ := graph_of_valid hverdict hvalid
  obtain rfl : g.payload.toJson = workflow := Option.some.inj hworkflow
  obtain ⟨handed, hrequests, -, hcreated, hafter⟩ := call_create_of_ok (c := c) (l := l) hcompiled
  have hname : g.payload.toJson.get "name" = .ok (.str g.name) := rfl
  obtain ⟨steps, hsent, -, -, hserved, hrefused⟩ :=
    Client.takes_createWorkflow (c := c) hname handed
  have hall : (created.after l).requests = l.requests ++ steps.map Prod.fst := by
    rw [hafter, hsent, hrequests]
  constructor
  · intro text hbody
    rw [hall, hserved _ _ (Client.prepare_body hready rfl hbody)]
  · intro flaw hflaw
    obtain ⟨rfl, hanswer⟩ := hrefused _ (Client.prepare_of_unwritten hready hflaw)
    refine ⟨by simpa using hall, ?_⟩
    rw [hcreated, hanswer]
    rfl

/-- Creating sends a workflow that was judged valid in one request, and nothing else, if its
numbers can be written, and what is sent is read back as the workflow. Otherwise nothing is
sent: the first number that cannot be written is told. -/
theorem create_sends_valid_workflow (c : Client) (arguments : Json) (l : Link)
    {verdict workflow : Json} {url : Url} {r : Request} (hkeys : arguments.UniqueKeys)
    (hverdict : (call c "validate_workflow" arguments).answer l = .ok verdict)
    (hvalid : verdict.field? "valid" = some (.bool true))
    (hworkflow : verdict.field? "workflow" = some workflow)
    (hready : c.prepare { method := .post, endpoint := "/workflows" } = .ok (url, r)) :
    let created := call c "create_workflow" arguments
    r.method = .post ∧ r.url = url.toText ∧
      (workflow.isWritable = true → ∃ text,
        (created.after l).requests = l.requests ++ [{ r with body := some text }] ∧
          Json.Encoding.utf8.read? (Utf8.encode text) = some workflow) ∧
      ∀ flaw, workflow.bodyFlaw? = some flaw → (created.after l).requests = l.requests ∧
        created.answer l = .error (.unwritable flaw) := by
  intro created
  obtain ⟨hsent, hwithheld⟩ := create_of_valid hverdict hvalid hworkflow hready
  have hunique := uniqueKeys_of_valid hkeys hverdict hvalid hworkflow
  refine ⟨Client.method_of_prepare hready, Client.url_of_prepare hready, fun hwritable => ?_,
    hwithheld⟩
  have hsendable : workflow.IsSendable := ⟨hunique, hwritable⟩
  obtain ⟨text, hbody, hread⟩ := hsendable.exists_body
  exact ⟨text, hsent text hbody, hread⟩

/-- One node with a version that is not whole: what is sent is read back. -/
theorem create_sends_real_version :
    let c : Client := ⟨"http://n8n.test/api/v1", "key", .int 30⟩
    let arguments : Json := .obj [("nodes", .arr [.obj [("name", "a"), ("type", "t"),
      ("typeVersion", .float ⟨false, 1023, 2251799813685248⟩)]])]
    ∃ verdict workflow text, (call c "validate_workflow" arguments).answer ⟨[], [], []⟩ =
        .ok verdict ∧ verdict.field? "workflow" = some workflow ∧
      ((call c "create_workflow" arguments).after ⟨[], [], []⟩).requests.map (·.body) =
        [some text] ∧ Json.Encoding.utf8.read? (Utf8.encode text) = some workflow := by
  intro c arguments
  have hkeys : arguments.UniqueKeys :=
    .record (by simp) (.arr (List.forall_mem_singleton.mpr
      (.record (by simp) ⟨.str _, .str _, .float _⟩)))
  let url : Url := ⟨"http", "", "n8n.test", none, "/api/v1/workflows", none, none⟩
  let r : Request := ⟨.post, "http://n8n.test/api/v1/workflows", "key", .int 30, none⟩
  have hready : c.prepare { method := .post, endpoint := "/workflows" } = .ok (url, r) := by cbv
  obtain ⟨verdict, workflow, hverdict, hvalid, hworkflow, hwritable⟩ : ∃ verdict workflow,
      (call c "validate_workflow" arguments).answer ⟨[], [], []⟩ = .ok verdict ∧
      verdict.field? "valid" = some (.bool true) ∧ verdict.field? "workflow" = some workflow ∧
      workflow.isWritable = true :=
    ⟨_, _, rfl, rfl, rfl, rfl⟩
  obtain ⟨-, -, hsent, -⟩ := create_sends_valid_workflow c arguments ⟨[], [], []⟩ hkeys hverdict
    hvalid hworkflow hready
  obtain ⟨text, hrequests, hread⟩ := hsent hwritable
  exact ⟨verdict, workflow, text, hverdict, hworkflow, by rw [hrequests]; rfl, hread⟩

/-- A version may be an infinity, and then the valid workflow is not sent. -/
theorem create_withholds_infinite_version :
    let c : Client := ⟨"http://n8n.test/api/v1", "key", .int 30⟩
    let arguments : Json := .obj [("nodes", .arr [.obj [("name", "a"), ("type", "t"),
      ("typeVersion", "inf")]])]
    (∃ verdict, (call c "validate_workflow" arguments).answer ⟨[], [], []⟩ = .ok verdict ∧
      verdict.field? "valid" = some (.bool true)) ∧
      ((call c "create_workflow" arguments).after ⟨[], [], []⟩).requests = [] ∧
      (call c "create_workflow" arguments).answer ⟨[], [], []⟩ =
        .error (.unwritable .special) := by
  intro c arguments
  let url : Url := ⟨"http", "", "n8n.test", none, "/api/v1/workflows", none, none⟩
  let r : Request := ⟨.post, "http://n8n.test/api/v1/workflows", "key", .int 30, none⟩
  have hready : c.prepare { method := .post, endpoint := "/workflows" } = .ok (url, r) := by cbv
  obtain ⟨verdict, workflow, hverdict, hvalid, hworkflow, hflaw⟩ : ∃ verdict workflow,
      (call c "validate_workflow" arguments).answer ⟨[], [], []⟩ = .ok verdict ∧
      verdict.field? "valid" = some (.bool true) ∧ verdict.field? "workflow" = some workflow ∧
      workflow.bodyFlaw? = some .special :=
    ⟨_, _, rfl, rfl, rfl, rfl⟩
  exact ⟨⟨verdict, hverdict, hvalid⟩,
    (create_of_valid hverdict hvalid hworkflow hready).2 _ hflaw⟩

end Tool

end Flowgate
