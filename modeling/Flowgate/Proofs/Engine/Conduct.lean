import Flowgate.Proofs.Engine.Course

/-! # What the client sends

No request of the client ends in a refusal of what was asked. Operations that look at the
engine only read, and those that change it do so with their last request.
-/

namespace Flowgate

namespace Client

open Conduct Exchange

variable {c : Client} {p : Conduct}

/-! ## Requests -/

theorem not_isRefusal_of_prepare {call : Call} {failure : Failure}
    (h : c.prepare call = .error failure) : ¬ failure.IsRefusal := by
  cases unsent_of_prepare h <;> exact id

/-- A call is one request, with nothing but quiet steps around it. -/
theorem keeps_request (hp : p.Roomy) {call : Call}
    (hsend : ∀ r, r.method = call.method → p [r] none) : (c.request call).Keeps p := by
  have hsent {url : Url} {r : Request} (h : c.prepare call = .ok (url, r)) : p [r] none :=
    hsend r (method_of_prepare h)
  refine (takes_request c call).keeps (fun steps v hcalled => ?_) fun steps failure hcalled => ?_
  · cases hcalled with
    | answered _ hprepare => exact hsent hprepare
  · cases hcalled with
    | refused hprepare => exact hp.fails (not_isRefusal_of_prepare hprepare)
    | unreachable _ hprepare => exact hp.fails_behind (hsent hprepare) id
    | aborted reason hprepare =>
        exact hp.fails_behind (hsent hprepare) (by cases reason <;> exact id)
    | placeless _ hprepare => exact hp.fails_behind (hsent hprepare) id
    | rejected _ hprepare => exact hp.fails_behind (hsent hprepare) id

theorem reading_request {call : Call} (h : call.method = .get) :
    (c.request call).Keeps .reading :=
  keeps_request roomy_reading fun r hr => by simp [reading, hr, h]

theorem orderly_request {call : Call} : (c.request call).Keeps .orderly :=
  keeps_request roomy_orderly fun r _ => orderly_single r

/-! ## Operations that read -/

theorem reading_getWorkflow {id : Json} : (c.getWorkflow id).Keeps .reading :=
  .after_quiet roomy_reading quiet_log fun _ => reading_request rfl

theorem reading_listWorkflows {limit cursor active tags : Json} :
    (c.listWorkflows limit cursor active tags).Keeps .reading :=
  .after_quiet roomy_reading quiet_shaped fun _ => reading_request rfl

/-- However many pages are fetched, each is read. -/
theorem reading_pagesFrom {pageSize : Json} (fuel : Nat) (cursor : Json) (gathered : List Json) :
    (c.pagesFrom pageSize fuel cursor gathered).Keeps .reading := by
  induction fuel generalizing cursor gathered with
  | zero => exact .pure gathered (by simp [reading])
  | succ fuel ih =>
      refine reading_bind reading_listWorkflows fun page => ?_
      split
      next items => exact .pure _ (by simp [reading])
      next page _ =>
        refine .after_quiet roomy_reading quiet_shaped fun data => ?_
        refine .after_quiet roomy_reading quiet_shaped fun items => ?_
        refine .after_quiet roomy_reading quiet_shaped fun next => ?_
        split
        · exact ih _ _
        · exact .pure _ (by simp [reading])

theorem reading_listAllWorkflows {pageSize : Json} :
    (c.listAllWorkflows pageSize).Keeps .reading := by
  refine .after_quiet roomy_reading quiet_get fun link => ?_
  refine .before_quiet roomy_reading (reading_pagesFrom _ _ _) fun workflows => ?_
  exact quiet_bind quiet_log fun _ => quiet_pure

theorem reading_listExecutions {filter : ExecutionFilter} :
    (c.listExecutions filter).Keeps .reading :=
  .after_quiet roomy_reading quiet_log fun _ => reading_request rfl

theorem reading_getExecution {id includeData : Json} :
    (c.getExecution id includeData).Keeps .reading := by
  refine .after_quiet roomy_reading quiet_log fun _ => ?_
  refine .before_quiet roomy_reading (reading_request rfl) fun execution => ?_
  dsimp only
  split
  · refine quiet_bind quiet_shaped fun data => ?_
    split
    · exact quiet_bind quiet_log fun _ => quiet_pure
    · exact quiet_pure
  · exact quiet_pure

/-! ## Operations that change -/

theorem keeps_createWorkflow (hp : p.Roomy) (hsend : ∀ r, p [r] none) {workflow : Json} :
    (c.createWorkflow workflow).Keeps p := by
  refine .after_quiet hp quiet_shaped fun name => ?_
  refine .after_quiet hp quiet_log fun _ => ?_
  refine .before_quiet hp (keeps_request hp fun r _ => hsend r) fun created => ?_
  refine quiet_bind quiet_shaped fun id => ?_
  refine quiet_bind quiet_shaped fun name => ?_
  exact quiet_bind quiet_log fun _ => quiet_pure

theorem orderly_updateWorkflow {id workflow : Json} :
    (c.updateWorkflow id workflow).Keeps .orderly := by
  refine .after_quiet roomy_orderly quiet_log fun _ => ?_
  refine .before_quiet roomy_orderly orderly_request fun updated => ?_
  exact quiet_bind quiet_log fun _ => quiet_pure

theorem orderly_deleteWorkflow {id : Json} : (c.deleteWorkflow id).Keeps .orderly :=
  .after_quiet roomy_orderly quiet_log fun _ => orderly_request

theorem orderly_activateWorkflow {id : Json} : (c.activateWorkflow id).Keeps .orderly :=
  .after_quiet roomy_orderly quiet_log fun _ => orderly_request

theorem orderly_deactivateWorkflow {id : Json} : (c.deactivateWorkflow id).Keeps .orderly :=
  .after_quiet roomy_orderly quiet_log fun _ => orderly_request

theorem orderly_deleteExecution {id : Json} : (c.deleteExecution id).Keeps .orderly :=
  .after_quiet roomy_orderly quiet_log fun _ => orderly_request

theorem orderly_run {workflow runData : Json} : (c.run workflow runData).Keeps .orderly :=
  .after_quiet roomy_orderly quiet_shaped fun _ => orderly_request

theorem not_isRefusal_of_keyText {v : Json} {failure : Failure}
    (h : keyText v = .error failure) : ¬ failure.IsRefusal := by
  obtain ⟨flaw, rfl⟩ := exists_flaw_of_keyText h
  exact id

theorem quiet_pasted {v : Json} :
    (MonadExcept.ofExcept (pasted v) : Exchange String).Keeps .quiet := by
  cases hpasted : pasted v with
  | ok text => exact quiet_pure
  | error failure =>
      obtain ⟨flaw, -, rfl⟩ := pasted_eq_error.mp hpasted
      exact quiet_fail id

/-- The workflow is read before it is run. -/
theorem orderly_executeWorkflow {id input : Json} :
    (c.executeWorkflow id input).Keeps .orderly := by
  refine .after_quiet roomy_orderly quiet_log fun _ => ?_
  refine .after_quiet roomy_orderly quiet_log fun _ => ?_
  refine orderly_bind reading_getWorkflow fun workflow => ?_
  refine .after_quiet roomy_orderly quiet_shaped fun data => ?_
  split
  next => exact orderly_run
  next name data =>
    refine .ofExcept_bind (fun _ _ => orderly_run) fun failure herror => ?_
    exact roomy_orderly.fails (not_isRefusal_of_keyText herror)

/-- The execution and its workflow are read before the workflow is run. -/
theorem orderly_retryExecution {id : Json} : (c.retryExecution id).Keeps .orderly := by
  refine .after_quiet roomy_orderly quiet_log fun _ => ?_
  refine orderly_bind reading_getExecution fun execution => ?_
  refine .after_quiet roomy_orderly quiet_shaped fun workflowId => ?_
  split
  · refine .after_quiet roomy_orderly quiet_pasted fun id => ?_
    refine orderly_bind reading_getWorkflow fun workflow => ?_
    exact .after_quiet roomy_orderly quiet_shaped fun data => orderly_run
  · exact .fail _ (roomy_orderly.fails fun h => h)

end Client

end Flowgate
