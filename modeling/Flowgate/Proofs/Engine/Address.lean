import Flowgate.Proofs.Engine.FirstFailure
import Flowgate.Proofs.Url.Address

/-! # What workflows are addressed by

An operation on one workflow puts the identifier into the path of its first request as it
stands. Identifiers without marks of a locator end up as one segment of the path that stands
for them, and no two of them as the same segment. Any other identifier is taken apart, and
the request goes elsewhere.
-/

namespace Flowgate

namespace Client

open Exchange

variable {α : Type} {c : Client} {call : Call}

/-- Below a base that names a host, an endpoint is located by what is read of both. -/
theorem parse_of_locate {base u : Url} {endpoint : String} (hbase : Url.parse c.baseUrl = .ok base)
    (habsolute : base.isAbsolute = true)
    (hmarks : ∀ mark ∈ c.baseUrl.toList, mark ≠ '?' ∧ mark ≠ '#')
    (hendpoint : endpoint.toList.head? = some '/') (h : c.locate endpoint = .ok u) :
    Url.parse (c.baseUrl ++ endpoint) = .ok u := by
  obtain ⟨read, hread, hrooted⟩ := bind_eq_ok.mp h
  obtain ⟨_, _, _, _, _, -, -, -, -, -, -, hparts⟩ :=
    Url.parse_append hbase habsolute hmarks hendpoint hread
  have hhost : read.isAbsolute = true := by
    rw [hparts]
    exact habsolute
  rw [Url.rooted, if_pos hhost] at hrooted
  rw [hread, hrooted]

/-- The first request is the one of a call. -/
def Opens (c : Client) (call : Call) : Course α := fun steps _ =>
  ∀ step ∈ steps.head?, ∃ url, c.prepare call = .ok (url, step.1)

theorem opens_request_bind {next : Json → Exchange α} {p : Course α}
    (hnext : ∀ v, (next v).Takes p) : (c.request call >>= next).Takes (Opens c call) := by
  refine takes_request_bind ?_ ?_
  · rintro steps failure (hprepare | hprepare | hprepare | hprepare | hprepare | hprepare)
      step hstep
    all_goals cases hstep
    all_goals exact ⟨_, by assumption⟩
  · intro r response hcalled
    refine (hnext _).imp fun steps answer _ step hstep => ?_
    cases hstep
    cases hcalled with
    | answered _ hprepare => exact ⟨_, hprepare⟩

theorem opens_request : (c.request call).Takes (Opens c call) := by
  have hbind : (c.request call >>= pure).Takes (Opens c call) :=
    opens_request_bind fun v => Takes.pure (p := fun _ _ => True) v trivial
  rwa [bind_pure] at hbind

end Client

namespace Operation

open Client Exchange

/-- The identifier of the one workflow that an operation is about, and what stands behind it
in the endpoint of the first request. -/
def subject? : Operation → Option (Json × String)
  | getWorkflow id => some (id, "")
  | updateWorkflow id _ => some (id, "")
  | deleteWorkflow id => some (id, "")
  | executeWorkflow id _ => some (id, "")
  | activateWorkflow id => some (id, "/activate")
  | deactivateWorkflow id => some (id, "/deactivate")
  | _ => none

/-- The first request of an operation on one workflow goes to the endpoint of the workflow,
and it has no parameters. -/
theorem opens_workflow {op : Operation} {id : Json} {suffix : String} (c : Client)
    (hsubject : op.subject? = some (id, suffix)) :
    ∃ method body, (op.run c).Takes (Opens c
      { method, endpoint := workflowPath id ++ suffix, identifier := id, body,
        parameters := none }) := by
  cases op <;> cases hsubject
  case activateWorkflow | deactivateWorkflow => exact ⟨_, _, .log_bind opens_request⟩
  all_goals rw [String.append_empty]
  case getWorkflow | deleteWorkflow => exact ⟨_, _, .log_bind opens_request⟩
  case updateWorkflow =>
    refine ⟨_, _, .log_bind (opens_request_bind (p := Prompt c never) fun updated => ?_)⟩
    exact prompt_bind prompt_log fun _ => prompt_pure
  case executeWorkflow =>
    refine ⟨.get, .null, .log_bind (.log_bind ?_)⟩
    rw [Client.getWorkflow, bind_assoc]
    refine .log_bind (opens_request_bind (p := Prompt c never) fun workflow => ?_)
    refine prompt_bind prompt_shaped fun data => ?_
    split
    · exact Client.prompt_run
    · exact prompt_bind (prompt_written fun _ => exists_flaw_of_keyText) fun _ => Client.prompt_run

/-- Behind an identifier there are fixed parts only. -/
theorem suffix_of_subject {op : Operation} {id : Json} {suffix : String}
    (hsubject : op.subject? = some (id, suffix)) :
    ∃ behind, (∀ part ∈ behind, Url.IsFixed part) ∧ suffix.toList = Url.joined behind := by
  have hfixed {part : List Char} (h : Url.IsFixed part) : ∀ other ∈ [part], Url.IsFixed other :=
    fun other hother => List.mem_singleton.mp hother ▸ h
  cases op <;> cases hsubject
  case activateWorkflow =>
    refine ⟨["activate".toList], hfixed ?_, by simp [Url.joined]⟩
    exact ⟨by decide, by decide, by decide, by decide⟩
  case deactivateWorkflow =>
    refine ⟨["deactivate".toList], hfixed ?_, by simp [Url.joined]⟩
    exact ⟨by decide, by decide, by decide, by decide⟩
  all_goals exact ⟨[], List.forall_mem_nil _, rfl⟩

/-- The first request of an operation on one workflow goes to the locator of the workflow
just where the identifier is plain; then it is the locator of no other workflow. -/
theorem first_request_addresses_iff (c : Client) (op : Operation) (l : Link) {base : Url}
    {s suffix : String} {r : Request} {rest : List Request}
    (hbase : Url.parse c.baseUrl = .ok base) (habsolute : base.isAbsolute = true)
    (hmarks : ∀ mark ∈ c.baseUrl.toList, mark ≠ '?' ∧ mark ≠ '#')
    (hsubject : op.subject? = some (.str s, suffix))
    (hsent : ((op.run c).after l).requests = l.requests ++ r :: rest) :
    (base.Addresses s suffix r.url ↔ Url.IsPlain s) ∧
      (Url.IsPlain s → ∀ t, base.Addresses t suffix r.url → t = s) := by
  obtain ⟨method, body, hopens⟩ := opens_workflow c hsubject
  obtain ⟨steps, hrequests, -, -, hfirst⟩ := hopens l
  rw [hsent, List.append_cancel_left_eq] at hrequests
  obtain ⟨step, more, rfl⟩ : ∃ step more, steps = step :: more :=
    List.exists_cons_of_ne_nil fun hnil => by rw [hnil] at hrequests; cases hrequests
  obtain ⟨hr, -⟩ := List.cons.inj hrequests
  obtain ⟨url, hprepare⟩ := hfirst step rfl
  rw [← hr] at hprepare
  obtain ⟨-, located, _, hlocated, hurl, -, -, -, hrequest⟩ := prepare_eq_ok.mp hprepare
  cases hurl
  rw [hrequest]
  obtain ⟨behind, hbehind, hsuffix⟩ := suffix_of_subject hsubject
  have hlocator : Url.parse (c.baseUrl ++ ("/workflows/" ++ s ++ suffix)) = .ok url :=
    parse_of_locate hbase habsolute hmarks (by simp) hlocated
  have hiff : base.Addresses s suffix url.toText ↔ Url.IsPlain s :=
    Url.addresses_parse_iff hbase habsolute hmarks hbehind hsuffix hlocator
  exact ⟨hiff, fun hplain t ht => ht.unique (hiff.mpr hplain)⟩

/-- A client whose base names a host. -/
def hosted : Client := ⟨"http://n8n.test/api/v1", "key", .int 30⟩

/-- An identifier with a blank is encoded, and it addresses its workflow. -/
theorem delete_addresses_plain : ∃ base r,
    Url.parse hosted.baseUrl = .ok base ∧
      (((deleteWorkflow (.str "a b")).run hosted).after ⟨[], [], []⟩).requests = [r] ∧
      r.url = "http://n8n.test/api/v1/workflows/a%20b" ∧ base.Addresses "a b" "" r.url := by
  have hplain : Url.IsPlain "a b" := by
    refine ⟨⟨by decide, ?_, by decide, by decide⟩, by simp⟩
    rintro ⟨_, _, -, -, hoctet⟩
    exact absurd (hoctet.subset List.mem_cons_self) (by decide)
  let base : Url := ⟨"http", "", "n8n.test", none, "/api/v1", none, none⟩
  let r : Request := ⟨.delete, "http://n8n.test/api/v1/workflows/a%20b", "key", .int 30, none⟩
  have hbase : Url.parse hosted.baseUrl = .ok base := by cbv
  have hsent : (((deleteWorkflow (.str "a b")).run hosted).after ⟨[], [], []⟩).requests = [r] := by
    cbv
  refine ⟨base, r, hbase, hsent, rfl, ?_⟩
  exact (first_request_addresses_iff hosted (deleteWorkflow (.str "a b")) ⟨[], [], []⟩ hbase
    (by decide) (by simp [hosted]) rfl hsent).1.mpr hplain

/-- An identifier with dot segments makes the deletion of a workflow the deletion of an
execution. -/
theorem delete_addresses_execution : ∃ r : Request,
    (((deleteWorkflow (.str "../executions/7")).run hosted).after ⟨[], [], []⟩).requests = [r] ∧
      (((deleteExecution (.int 7)).run hosted).after ⟨[], [], []⟩).requests = [r] ∧
      r.url = "http://n8n.test/api/v1/executions/7" :=
  ⟨⟨.delete, "http://n8n.test/api/v1/executions/7", "key", .int 30, none⟩, by cbv, by cbv, rfl⟩

end Operation

end Flowgate
