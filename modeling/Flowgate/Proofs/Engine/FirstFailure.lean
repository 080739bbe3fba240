import Flowgate.Proofs.Engine.Course

/-! # The first failure of the engine

An operation goes on as long as its requests are served. The first request that fails ends
it, and what is reported is that failure: the status and the body of the answer, or neither
where there was no answer.
-/

namespace Flowgate

namespace Response

variable {response : Response}

/-- What an answer says: nothing where its body is empty, the value that the body spells, or a
message with the text of the body. -/
inductive Says (response : Response) : Json → Prop
  | nothing : response.content = [] → Says response (.obj [])
  | json {v : Json} : response.content ≠ [] → response.json? = some v → Says response v
  | text : response.content ≠ [] → response.json? = none →
      Says response (.obj [("message", .str response.text)])

theorem says_body (response : Response) : response.Says response.body := by
  unfold body
  split
  next hempty => exact .nothing (List.isEmpty_iff.mp hempty)
  next hfull =>
    have hcontent : response.content ≠ [] := fun h => hfull (List.isEmpty_iff.mpr h)
    cases hjson : response.json? with
    | none => exact .text hcontent hjson
    | some v => exact .json hcontent hjson

end Response

namespace Outcome

/-- The engine was not reached, or it answered with a status from 400 on. -/
def Fails : Outcome → Prop
  | .answer response => 400 ≤ response.status
  | .unreachable _ => True
  | .aborted _ => False

/-- How a failed request is reported. -/
inductive Reported : Outcome → EngineError → Prop
  | unreachable (message : String) :
      Reported (.unreachable message) ⟨s!"HTTP error: {message}", none, none⟩
  | rejected {response : Response} {body : Json} : response.Says body →
      Reported (.answer response)
        ⟨s!"n8n API error: {response.status}", some response.status, some body⟩

end Outcome

namespace Client

open Exchange

variable {c : Client}

/-- The locator of every endpoint names a host. Endpoints begin with a slash. -/
def Hosted (c : Client) : Prop :=
  ∀ call url r, call.endpoint.toList.head? = some '/' → c.prepare call = .ok (url, r) →
    url.isAbsolute = true

/-- How an operation fails with the request that ended it. An answer from a locator without
a host is the only failure of a request that is not reported; a way to the engine that refuses
such a locator leaves it unreachable, and that is reported. -/
inductive Ended (c : Client) : Request × Outcome → Failure → Prop
  | reported {last : Request × Outcome} {error : EngineError} : last.2.Reported error →
      Ended c last (.engine error)
  | placeless {r : Request} {response : Response} : ¬ c.Hosted →
      Ended c (r, .answer response) (.placeless r.url)

/-- A course that goes on while requests are served and ends with the first that fails. An
error that no request gave needs an excuse. -/
inductive Prompt {α : Type} (c : Client)
    (excused : List (Request × Outcome) → EngineError → Prop) : Course α
  | served {steps : List (Request × Outcome)} {answer : Except Failure α} :
      (∀ step ∈ steps, ¬ step.2.Fails) →
      (∀ error, answer = .error (.engine error) → excused steps error) →
      Prompt c excused steps answer
  | stopped {earlier : List (Request × Outcome)} {last : Request × Outcome} {failure : Failure} :
      (∀ step ∈ earlier, ¬ step.2.Fails) → last.2.Fails → Ended c last failure →
      Prompt c excused (earlier ++ [last]) (.error failure)

/-- No error is excused. -/
def never : List (Request × Outcome) → EngineError → Prop := fun _ _ => False

section Sequence

variable {α β : Type} {x : Exchange α} {next : α → Exchange β}
  {excused : List (Request × Outcome) → EngineError → Prop}

namespace Prompt

theorem unfailing {steps : List (Request × Outcome)} {a : α}
    (h : Prompt c excused steps (.ok a)) : ∀ step ∈ steps, ¬ step.2.Fails := by
  cases h with
  | served hserved _ => exact hserved

theorem mono {more : List (Request × Outcome) → EngineError → Prop}
    (hle : ∀ steps error, excused steps error → more steps error)
    {steps : List (Request × Outcome)} {answer : Except Failure α}
    (h : Prompt c excused steps answer) : Prompt c more steps answer := by
  cases h with
  | served hserved hanswer =>
      exact .served hserved fun error herror => hle _ _ (hanswer error herror)
  | stopped hearlier hlast hended => exact .stopped hearlier hlast hended

/-- Requests that are served may stand in front. -/
theorem prepend {first second : List (Request × Outcome)} {answer : Except Failure α}
    (hfirst : ∀ step ∈ first, ¬ step.2.Fails) (h : Prompt c never second answer) :
    Prompt c excused (first ++ second) answer := by
  cases h with
  | served hserved hanswer =>
      exact .served (List.forall_mem_append.mpr ⟨hfirst, hserved⟩)
        fun error herror => (hanswer error herror).elim
  | stopped hearlier hlast hended =>
      rw [← List.append_assoc]
      exact .stopped (List.forall_mem_append.mpr ⟨hfirst, hearlier⟩) hlast hended

/-- A failure ends whatever was to come. -/
theorem of_error {steps : List (Request × Outcome)} {failure : Failure}
    (h : Prompt c never steps (.error failure : Except Failure α)) :
    Prompt c excused steps (.error failure : Except Failure β) := by
  cases h with
  | served hserved hanswer =>
      refine .served hserved fun error herror => ?_
      cases herror
      exact (hanswer error rfl).elim
  | stopped hearlier hlast hended => exact .stopped hearlier hlast hended

/-- The first request may be the one that fails. -/
theorem stopped_at_once {last : Request × Outcome} {failure : Failure} (hlast : last.2.Fails)
    (hended : Ended c last failure) :
    Prompt c excused [last] (.error failure : Except Failure α) := by
  rw [← List.nil_append [last]]
  exact .stopped nofun hlast hended

/-- A request that fails is the last one, and the failure is that of the request. -/
theorem last_of_fails {steps : List (Request × Outcome)} {answer : Except Failure α}
    (h : Prompt c excused steps answer) {k : Nat} (hk : k < steps.length)
    (hfails : (steps[k]).2.Fails) :
    k + 1 = steps.length ∧ ∃ failure, answer = .error failure ∧ Ended c steps[k] failure := by
  cases h with
  | served hserved _ => exact absurd hfails (hserved _ (List.getElem_mem hk))
  | @stopped earlier last failure hearlier hlast hended =>
      -- a failed request cannot be one of the earlier ones, which were served
      obtain rfl : k = earlier.length := by
        by_contra hne
        rw [List.length_append, List.length_singleton] at hk
        have hlt : k < earlier.length := by omega
        rw [List.getElem_append_left hlt] at hfails
        exact hearlier _ (List.getElem_mem hlt) hfails
      rw [List.getElem_concat_length rfl]
      exact ⟨by simp, failure, rfl, hended⟩

/-- An error is excused, or it reports the last request. -/
theorem cause_of_error {steps : List (Request × Outcome)} {error : EngineError}
    (h : Prompt c excused steps (.error (.engine error) : Except Failure α)) :
    excused steps error ∨ ∃ earlier last, steps = earlier ++ [last] ∧ last.2.Fails ∧
      last.2.Reported error := by
  generalize hfailed : (.error (.engine error) : Except Failure α) = answer at h
  cases h with
  | served _ hexcused => exact .inl (hexcused error hfailed.symm)
  | @stopped earlier last failure _ hlast hended =>
      cases hfailed
      cases hended with
      | reported hreported => exact .inr ⟨earlier, last, rfl, hlast, hreported⟩

end Prompt

theorem prompt_bind (hx : x.Takes (Prompt c never)) (hnext : ∀ a, (next a).Takes (Prompt c never)) :
    (x >>= next).Takes (Prompt c never) := by
  refine .bind (hx.imp fun steps answer h => ⟨?_, ?_⟩)
  · rintro failure rfl
    exact h.of_error
  · rintro a rfl
    exact (hnext a).imp fun _ _ => Prompt.prepend h.unfailing

theorem prompt_pure {a : α} : (pure a : Exchange α).Takes (Prompt c never) :=
  .pure a (.served nofun nofun)

theorem prompt_log {level : Log.Level} {name : String} {fields : List (String × Json)} :
    (log level name fields).Takes (Prompt c never) :=
  .unsent (fun _ => rfl) (fun _ => rfl) fun _ => .served nofun nofun

/-- What is settled off the link gives no error of the engine. -/
theorem prompt_fail {failure : Failure} (h : ∀ error, failure ≠ .engine error) :
    (fail failure : Exchange α).Takes (Prompt c never) := by
  refine .fail failure (.served nofun fun error herror => ?_)
  exact absurd (Except.error.inj herror) (h error)

theorem prompt_shaped {e : Except Fault α} : (shaped e).Takes (Prompt c never) := by
  cases e with
  | ok a => exact prompt_pure
  | error fault => exact prompt_fail nofun

end Sequence

/-! ## Calls -/

theorem prompt_of_called {call : Call} (hroot : call.endpoint.toList.head? = some '/')
    {steps : List (Request × Outcome)} {answer : Except Failure Json}
    (h : Called c call steps answer) : Prompt c never steps answer := by
  cases h with
  | refused hprepare =>
      refine .served nofun fun error herror => ?_
      cases herror
      cases unsent_of_prepare hprepare
  | unreachable message hprepare =>
      exact .stopped_at_once trivial (.reported (.unreachable message))
  | aborted reason hprepare =>
      refine .served (by simp [Outcome.Fails]) fun error herror => ?_
      cases reason <;> cases herror
  | @placeless url r response hprepare habsolute =>
      by_cases hstatus : 400 ≤ response.status
      · have hunhosted : ¬ c.Hosted := fun hhosted => by
          rw [hhosted call url r hroot hprepare] at habsolute
          cases habsolute
        exact .stopped_at_once hstatus (url_of_prepare hprepare ▸ .placeless hunhosted)
      · exact .served (by simpa [Outcome.Fails] using hstatus) nofun
  | rejected response hprepare habsolute hstatus =>
      exact .stopped_at_once hstatus (.reported (.rejected response.says_body))
  | answered response hprepare habsolute hstatus =>
      exact .served (by simpa [Outcome.Fails] using hstatus) nofun

theorem prompt_request {call : Call} (hroot : call.endpoint.toList.head? = some '/') :
    (c.request call).Takes (Prompt c never) :=
  (takes_request c call).imp fun _ _ => prompt_of_called hroot

/-! ## Operations -/

theorem prompt_getWorkflow {id : Json} : (c.getWorkflow id).Takes (Prompt c never) :=
  prompt_bind prompt_log fun _ => prompt_request (by simp)

theorem prompt_listWorkflows {limit cursor active tags : Json} :
    (c.listWorkflows limit cursor active tags).Takes (Prompt c never) :=
  prompt_bind prompt_shaped fun _ => prompt_request (by simp)

/-- A page that fails is the last one, however many there are. -/
theorem prompt_pagesFrom {pageSize : Json} (fuel : Nat) (cursor : Json) (gathered : List Json) :
    (c.pagesFrom pageSize fuel cursor gathered).Takes (Prompt c never) := by
  induction fuel generalizing cursor gathered with
  | zero => exact prompt_pure
  | succ fuel ih =>
      refine prompt_bind prompt_listWorkflows fun page => ?_
      split
      next items => exact prompt_pure
      next page _ =>
        refine prompt_bind prompt_shaped fun data => ?_
        refine prompt_bind prompt_shaped fun items => ?_
        refine prompt_bind prompt_shaped fun next => ?_
        split
        · exact ih _ _
        · exact prompt_pure

theorem prompt_listAllWorkflows {pageSize : Json} :
    (c.listAllWorkflows pageSize).Takes (Prompt c never) := by
  refine .get_bind fun link => ?_
  refine prompt_bind (prompt_pagesFrom _ _ _) fun workflows => ?_
  exact prompt_bind prompt_log fun _ => prompt_pure

theorem prompt_run {workflow runData : Json} : (c.run workflow runData).Takes (Prompt c never) :=
  prompt_bind prompt_shaped fun _ => prompt_request (by simp [runPath])

/-- What is written or not off the link gives no error of the engine. -/
theorem prompt_written {e : Except Failure α}
    (h : ∀ failure, e = .error failure → ∃ flaw, failure = .unwritable flaw) :
    (MonadExcept.ofExcept e : Exchange α).Takes (Prompt c never) := by
  cases e with
  | ok a => exact prompt_pure
  | error failure =>
      obtain ⟨flaw, rfl⟩ := h failure rfl
      exact prompt_fail nofun

theorem prompt_executeWorkflow {id input : Json} :
    (c.executeWorkflow id input).Takes (Prompt c never) := by
  refine prompt_bind prompt_log fun _ => prompt_bind prompt_log fun _ => ?_
  refine prompt_bind prompt_getWorkflow fun workflow => ?_
  refine prompt_bind prompt_shaped fun data => ?_
  split
  next => exact prompt_run
  next name data =>
    exact prompt_bind (prompt_written fun _ => exists_flaw_of_keyText) fun _ => prompt_run

/-- What was fetched is what the one request was answered. -/
def Fetched (steps : List (Request × Outcome)) (v : Json) : Prop :=
  ∃ r response, steps = [(r, .answer response)] ∧ response.status < 400 ∧ v = response.body

theorem prompt_getExecution {id includeData : Json} :
    (c.getExecution id includeData).Takes fun steps answer =>
      Prompt c never steps answer ∧ ∀ v, answer = .ok v → Fetched steps v := by
  refine .log_bind (takes_request_bind ?_ ?_)
  · exact fun steps failure hcalled => ⟨prompt_of_called (by simp) hcalled, nofun⟩
  · rintro r response (_ | _ | _ | _ | _ | ⟨_, -, -, hstatus⟩)
    have hserved : Prompt c never [(r, .answer response)] (.ok response.body) :=
      .served (by simpa [Outcome.Fails] using hstatus) nofun
    have hfault (fault : Fault) : Prompt c never [(r, .answer response)]
        (.error (.fault fault) : Except Failure Json) := .served hserved.unfailing nofun
    have hfetched (v : Json) (h : (.ok response.body : Except Failure Json) = .ok v) :
        Fetched [(r, .answer response)] v :=
      ⟨r, response, rfl, hstatus, (Except.ok.inj h).symm⟩
    dsimp only
    split
    · refine .shaped_bind (fun data _ => ?_) fun fault _ => ⟨hfault fault, nofun⟩
      split
      · exact .log_bind (.pure _ ⟨hserved, hfetched⟩)
      · exact .pure _ ⟨hserved, hfetched⟩
    · exact .pure _ ⟨hserved, hfetched⟩

/-- The one excuse: an execution was fetched that belongs to no workflow. -/
def Orphaned (steps : List (Request × Outcome)) (error : EngineError) : Prop :=
  ∃ fields, Fetched steps (.obj fields) ∧
    (Json.getField "workflowId" fields).truthy = false ∧
    error = ⟨"Cannot retry execution: missing workflow ID", none, none⟩

theorem prompt_retryExecution {id : Json} :
    (c.retryExecution id).Takes (Prompt c Orphaned) := by
  refine .log_bind (.bind (prompt_getExecution.imp ?_))
  rintro first answer ⟨hprompt, hfetched⟩
  refine ⟨fun failure herror => ?_, fun execution hok => ?_⟩
  · subst herror
    exact hprompt.of_error
  subst hok
  refine .shaped_bind (fun workflowId hfield => ?_) fun fault _ => ?_
  · split
    next hset =>
      refine Takes.imp (prompt_bind (prompt_written fun _ => ?_) fun pasted => ?_) fun _ _ =>
        Prompt.prepend hprompt.unfailing
      · intro hpasted
        obtain ⟨flaw, -, heq⟩ := pasted_eq_error.mp hpasted
        exact ⟨flaw, heq.symm⟩
      · refine prompt_bind prompt_getWorkflow fun workflow => ?_
        exact prompt_bind prompt_shaped fun data => prompt_run
    next hunset =>
      refine .fail _ (.served (by simpa using hprompt.unfailing) fun error herror => ?_)
      cases execution with
      | obj fields =>
          cases hfield
          cases herror
          exact ⟨fields, by simpa using hfetched _ rfl, by simpa using hunset, rfl⟩
      | _ => cases hfield
  · exact .served (by simpa using hprompt.unfailing) nofun

theorem prompt_createWorkflow {workflow : Json} :
    (c.createWorkflow workflow).Takes (Prompt c never) := by
  refine prompt_bind prompt_shaped fun name => prompt_bind prompt_log fun _ => ?_
  refine prompt_bind (prompt_request (by simp)) fun created => ?_
  refine prompt_bind prompt_shaped fun id => prompt_bind prompt_shaped fun name => ?_
  exact prompt_bind prompt_log fun _ => prompt_pure

theorem prompt_updateWorkflow {id workflow : Json} :
    (c.updateWorkflow id workflow).Takes (Prompt c never) := by
  refine prompt_bind prompt_log fun _ => prompt_bind (prompt_request (by simp)) fun updated => ?_
  exact prompt_bind prompt_log fun _ => prompt_pure

end Client

namespace Operation

open Client Exchange

/-- Every operation stops at the first failure; only one has an error of its own. -/
theorem prompt_run (c : Client) (op : Operation) :
    (op.run c).Takes
      (Prompt c fun steps error => (∃ id, op = retryExecution id) ∧ Orphaned steps error) := by
  have hserved {x : Exchange Json} (h : x.Takes (Prompt c never)) :
      x.Takes
        (Prompt c fun steps error => (∃ id, op = retryExecution id) ∧ Orphaned steps error) :=
    h.imp fun _ _ => .mono fun _ _ => False.elim
  cases op with
  | createWorkflow workflow => exact hserved prompt_createWorkflow
  | updateWorkflow id workflow => exact hserved prompt_updateWorkflow
  | getWorkflow id => exact hserved prompt_getWorkflow
  | listWorkflows limit cursor active tags => exact hserved prompt_listWorkflows
  | listAllWorkflows pageSize =>
      exact hserved (prompt_bind prompt_listAllWorkflows fun workflows => prompt_pure)
  | deleteWorkflow id =>
      exact hserved (prompt_bind prompt_log fun _ => prompt_request (by simp))
  | activateWorkflow id =>
      exact hserved (prompt_bind prompt_log fun _ => prompt_request (by simp))
  | deactivateWorkflow id =>
      exact hserved (prompt_bind prompt_log fun _ => prompt_request (by simp))
  | listExecutions filter =>
      exact hserved (prompt_bind prompt_log fun _ => prompt_request (by simp))
  | getExecution id includeData =>
      exact hserved (prompt_getExecution.imp fun _ _ h => h.1)
  | deleteExecution id =>
      exact hserved (prompt_bind prompt_log fun _ => prompt_request (by simp))
  | executeWorkflow id input => exact hserved prompt_executeWorkflow
  | retryExecution id =>
      exact prompt_retryExecution.imp fun _ _ => .mono fun _ _ h => ⟨⟨id, rfl⟩, h⟩

/-- The first request that fails is the last one, and the operation fails with it. The error
that is raised reports that request: the status with what the body says, or neither where
the engine was not reached. Only what is answered from a locator without a host is told
otherwise. The error has no other cause than a failed request, but for an execution that was
fetched to be retried and belongs to no workflow. -/
theorem first_failure_ends (c : Client) (op : Operation) (l : Link) :
    ∃ sent : List Request, ((op.run c).after l).requests = l.requests ++ sent ∧
      (∀ k r, sent[k]? = some r → (l.outcome k).Fails → k + 1 = sent.length ∧
        ((∃ error, (op.run c).answer l = .error (.engine error) ∧
            (l.outcome k).Reported error) ∨
          (op.run c).answer l = .error (.placeless r.url) ∧ ¬ c.Hosted ∧
            ∃ response, l.outcome k = .answer response)) ∧
      ∀ error, (op.run c).answer l = .error (.engine error) →
        (∃ k, k + 1 = sent.length ∧ (l.outcome k).Fails ∧ (l.outcome k).Reported error) ∨
          ∃ id response fields, op = retryExecution id ∧ sent.length = 1 ∧
            l.outcome 0 = .answer response ∧ response.status < 400 ∧
            response.Says (.obj fields) ∧
            (Json.getField "workflowId" fields).truthy = false := by
  obtain ⟨steps, hrequests, -, houtcomes, hprompt⟩ := prompt_run c op l
  have houtcome := Link.outcome_eq_getElem houtcomes
  refine ⟨steps.map Prod.fst, hrequests, ?_, ?_⟩
  · intro k r hsent hfails
    obtain ⟨hk, hr⟩ := List.getElem?_eq_some_iff.mp hsent
    rw [List.length_map] at hk ⊢
    rw [List.getElem_map] at hr
    rw [houtcome k hk] at hfails ⊢
    obtain ⟨hlast, failure, hanswer, hended⟩ := hprompt.last_of_fails hk hfails
    refine ⟨hlast, ?_⟩
    rw [hanswer]
    generalize steps[k] = step at hr hended
    cases hended with
    | reported hreported => exact .inl ⟨_, rfl, hreported⟩
    | placeless hunhosted => exact .inr ⟨by rw [← hr], hunhosted, _, rfl⟩
  · intro error herror
    rw [herror] at hprompt
    rcases hprompt.cause_of_error with hexcused | ⟨earlier, last, rfl, hfails, hreported⟩
    · obtain ⟨⟨id, hid⟩, fields, ⟨r, response, rfl, hstatus, hread⟩, hfalsy, -⟩ := hexcused
      refine .inr ⟨id, response, fields, hid, rfl, houtcome 0 (by simp), hstatus, ?_, hfalsy⟩
      rw [hread]
      exact response.says_body
    · have hplace := houtcome earlier.length (by simp)
      rw [List.getElem_concat_length rfl] at hplace
      rw [← hplace] at hfails hreported
      exact .inl ⟨earlier.length, by simp, hfails, hreported⟩

/-- A client whose base has no scheme: all of it is taken for a path. -/
def hostless : Client := ⟨"n8n.test/api/v1", "key", .int 30⟩

/-- A link whose way to the engine leads somewhere even without a host, where the first request
is answered with status 500 and no body. -/
def rejecting : Link := ⟨[.answer ⟨500, [], none, ""⟩], [], []⟩

/-- Without a host an answer of status 500 ends the operation but is not reported. -/
theorem unreported_without_host :
    (((getWorkflow (.str "1")).run hostless).after rejecting).requests.length = 1 ∧
      (rejecting.outcome 0).Fails ∧
      ∀ error, ((getWorkflow (.str "1")).run hostless).answer rejecting ≠
        .error (.engine error) := by
  have hanswer : ((getWorkflow (.str "1")).run hostless).answer rejecting =
      .error (.placeless "/n8n.test/api/v1/workflows/1") := by cbv
  refine ⟨by cbv, (by decide : (400 : Int) ≤ 500), fun error => ?_⟩
  rw [hanswer]
  intro heq
  cases heq

end Operation

end Flowgate
