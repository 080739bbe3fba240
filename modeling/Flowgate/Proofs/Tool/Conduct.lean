import Flowgate.Proofs.Engine.Conduct
import Flowgate.Tool.Call

/-! # What tools send

A tool looks at its arguments, reads from the engine and makes one change at most, which
comes last. What an agent is refused has changed nothing.
-/

namespace Flowgate

open Conduct Exchange

/-! ## Compiling -/

namespace Exchange

theorem silent_compile (defaultName : Option String) (spec : WorkflowSpec) :
    (compile defaultName spec).Keeps .silent := by
  unfold compile
  refine .after_quiet roomy_silent quiet_log fun _ => ?_
  split
  · exact .after_quiet roomy_silent quiet_log fun _ => .fail _ rfl
  · dsimp only
    split
    · exact .after_quiet roomy_silent (quiet_fail id) fun _ =>
        .after_quiet roomy_silent quiet_log fun _ => .pure _ rfl
    · exact .after_quiet roomy_silent quiet_log fun _ => .pure _ rfl

theorem silent_compileJson (defaultName : Option String) (v : Json) :
    (compileJson defaultName v).Keeps .silent := by
  refine silent_bind ?_ (silent_compile defaultName)
  unfold readSpec
  split
  · exact .pure _ rfl
  · exact .fail _ rfl

end Exchange

namespace Tool

variable {c : Client} {arguments : Json}

theorem quiet_part {key : String} : (part key arguments).Keeps .quiet := quiet_shaped

theorem reading_workflowId : (workflowId arguments).Keeps .reading :=
  .before_quiet roomy_reading reading_ofExcept fun _ =>
    quiet_bind Client.quiet_pasted fun _ => quiet_pure

theorem reading_executionId : (executionId arguments).Keeps .reading :=
  .before_quiet roomy_reading reading_ofExcept fun _ => quiet_pure

theorem quiet_executionFilter : (executionFilter arguments).Keeps .quiet := by
  unfold executionFilter
  refine quiet_bind quiet_part fun includeData => ?_
  refine quiet_bind quiet_part fun status => ?_
  refine quiet_bind quiet_part fun workflowId => ?_
  refine quiet_bind quiet_part fun projectId => ?_
  refine quiet_bind quiet_part fun limit => ?_
  exact quiet_bind quiet_part fun cursor => quiet_pure

theorem reading_compileArguments : (compileArguments arguments).Keeps .reading :=
  (silent_compileJson _ _).imp silent_le_reading

theorem silent_runValidate : (runValidate arguments).Keeps .silent := by
  unfold runValidate
  split
  · exact .pure _ rfl
  · split
    · exact silent_bind (silent_compile _ _) fun _ => .pure _ rfl
    · exact .pure _ rfl

theorem reading_runListWorkflows : (runListWorkflows c arguments).Keeps .reading := by
  refine reading_bind Client.reading_listAllWorkflows fun workflows => ?_
  refine .after_quiet roomy_reading quiet_part fun search => ?_
  refine .after_quiet roomy_reading quiet_part fun active => ?_
  refine .after_quiet roomy_reading quiet_part fun tags => ?_
  refine reading_bind reading_ofExcept fun offset => ?_
  refine reading_bind reading_ofExcept fun limit => ?_
  exact .after_quiet roomy_reading quiet_shaped fun page => .pure _ (by simp [reading])

theorem orderly_runUpdate : (runUpdate c arguments).Keeps .orderly := by
  refine orderly_bind reading_workflowId fun id => ?_
  refine orderly_bind reading_compileArguments fun g => ?_
  refine .after_quiet roomy_orderly quiet_part fun name => ?_
  split
  · exact Client.orderly_updateWorkflow
  · refine orderly_bind Client.reading_getWorkflow fun existing => ?_
    exact .after_quiet roomy_orderly quiet_shaped fun name => Client.orderly_updateWorkflow

/-- The tools that leave the engine as it is. -/
def readers : List Tool :=
  [listWorkflows, validateWorkflow, getWorkflow, listExecutions, getExecution]

theorem reading_run {tool : Tool} (h : tool ∈ readers) : (run c tool arguments).Keeps .reading := by
  simp only [readers, List.mem_cons, List.not_mem_nil, or_false] at h
  rcases h with rfl | rfl | rfl | rfl | rfl
  · exact reading_runListWorkflows
  · exact silent_runValidate.imp silent_le_reading
  · exact reading_bind reading_workflowId fun id => Client.reading_getWorkflow
  · exact .after_quiet roomy_reading quiet_executionFilter fun filter =>
      Client.reading_listExecutions
  · refine reading_bind reading_executionId fun id => ?_
    exact .after_quiet roomy_reading quiet_part fun includeData => Client.reading_getExecution

theorem orderly_run (tool : Tool) : (run c tool arguments).Keeps .orderly := by
  by_cases hreader : tool ∈ readers
  · exact (reading_run hreader).imp reading_le_orderly
  · cases tool with
    | executeWorkflow =>
        refine orderly_bind reading_workflowId fun id => ?_
        exact .after_quiet roomy_orderly quiet_part fun input => Client.orderly_executeWorkflow
    | retryExecution =>
        exact orderly_bind reading_executionId fun id => Client.orderly_retryExecution
    | createWorkflow =>
        exact orderly_bind reading_compileArguments fun g =>
          Client.keeps_createWorkflow roomy_orderly orderly_single
    | updateWorkflow => exact orderly_runUpdate
    | deleteWorkflow =>
        exact orderly_bind reading_workflowId fun id => Client.orderly_deleteWorkflow
    | activateWorkflow =>
        exact orderly_bind reading_workflowId fun id => Client.orderly_activateWorkflow
    | deactivateWorkflow =>
        exact orderly_bind reading_workflowId fun id => Client.orderly_deactivateWorkflow
    | deleteExecution =>
        exact orderly_bind reading_executionId fun id => Client.orderly_deleteExecution
    | _ => exact absurd (by decide) hreader

/-! ## Calls -/

theorem isRefusal_forAgent {failure : Failure} :
    (forAgent failure).IsRefusal ↔ failure.IsRefusal := by
  cases failure <;> rfl

theorem ofName?_name (tool : Tool) : ofName? tool.name = some tool := by
  cases tool <;> decide

theorem name_of_ofName? {name : String} {tool : Tool} (h : ofName? name = some tool) :
    tool.name = name := by
  simpa using List.find?_some h

theorem name_injective {first second : Tool} (h : first.name = second.name) : first = second := by
  have hfirst := ofName?_name first
  rw [h, ofName?_name] at hfirst
  exact (Option.some.inj hfirst).symm

theorem mem_readers_of_name {tool : Tool}
    (h : tool.name ∈ ["list_workflows", "get_workflow", "list_executions", "get_execution"]) :
    tool ∈ readers := by
  revert h
  cases tool <;> decide

/-- A call sends what its tool sends. -/
theorem keeps_call {p : Conduct} (hp : p.Roomy) {tool : Tool}
    (htold : ∀ sent failure, p sent failure → p sent (failure.map forAgent))
    (hrun : ∀ arguments, (run c tool arguments).Keeps p) :
    (call c tool.name arguments).Keeps p := by
  unfold call
  rw [ofName?_name]
  exact .after_quiet hp quiet_log fun _ => (hrun _).adapt forAgent htold

theorem silent_call_unknown (c : Client) {name : String} (arguments : Json)
    (h : ofName? name = none) :
    (call c name arguments).Keeps .silent := by
  unfold call
  rw [h]
  exact .fail _ rfl

theorem silent_call_validate (c : Client) (arguments : Json) :
    (call c "validate_workflow" arguments).Keeps .silent := by
  change (call c validateWorkflow.name arguments).Keeps .silent
  exact keeps_call roomy_silent (fun _ _ h => h) fun _ => silent_runValidate

theorem reading_call (c : Client) {tool : Tool} (arguments : Json) (h : tool ∈ readers) :
    (call c tool.name arguments).Keeps .reading :=
  keeps_call roomy_reading (fun _ _ h => h) fun _ => reading_run h

theorem orderly_call (c : Client) (tool : Tool) (arguments : Json) :
    (call c tool.name arguments).Keeps .orderly := by
  refine keeps_call roomy_orderly ?_ fun _ => orderly_run tool
  rintro sent failure ⟨reads, changes, hsent, hreads, hchanges, hlength, hrefused⟩
  refine ⟨reads, changes, hsent, hreads, hchanges, hlength, fun hne told htold => ?_⟩
  obtain ⟨cause, hcause, rfl⟩ := Option.map_eq_some_iff.mp htold
  exact isRefusal_forAgent.not.mpr (hrefused hne cause hcause)

/-- Every call reads first and changes the engine once at most, with its last request.
Tools that only look change nothing, a definition is judged without a request, and what an
agent is refused has changed nothing. -/
theorem call_reads_first (c : Client) (name : String) (arguments : Json) (l : Link) :
    ∃ reads changes,
      ((call c name arguments).after l).requests = l.requests ++ reads ++ changes ∧
      (∀ r ∈ reads, r.method = .get) ∧ (∀ r ∈ changes, r.method ≠ .get) ∧
      changes.length ≤ 1 ∧
      (name ∈ ["list_workflows", "get_workflow", "list_executions", "get_execution"] →
        changes = []) ∧
      (name = "validate_workflow" ∨ (∀ tool : Tool, tool.name ≠ name) →
        reads = [] ∧ changes = []) ∧
      ((∃ refusal, (call c name arguments).answer l = .error (.refusal refusal)) →
        changes = []) := by
  cases hname : ofName? name with
  | none =>
      obtain ⟨sent, hrequests, -, rfl⟩ := silent_call_unknown c arguments hname l
      exact ⟨[], [], by simpa using hrequests, by simp⟩
  | some tool =>
      obtain rfl := name_of_ofName? hname
      by_cases hvalidate : tool = validateWorkflow
      · subst hvalidate
        obtain ⟨sent, hrequests, -, rfl⟩ := silent_call_validate c arguments l
        exact ⟨[], [], hrequests.trans (List.append_nil _).symm, by simp⟩
      have hknown :
          ¬ (tool.name = "validate_workflow" ∨ ∀ other : Tool, other.name ≠ tool.name) := by
        rintro (h | h)
        · exact hvalidate (name_injective h)
        · exact h tool rfl
      -- all that a reader sends are reads; the other tools are in order
      by_cases hreader : tool ∈ readers
      · obtain ⟨sent, hrequests, -, hsent⟩ := reading_call c arguments hreader l
        exact ⟨sent, [], by simpa using hrequests, hsent, by simp, by simp, by simp,
          fun h => absurd h hknown, by simp⟩
      · obtain ⟨sent, hrequests, -, reads, changes, rfl, hreads, hchanges, hlength, hrefused⟩ :=
          orderly_call c tool arguments l
        refine ⟨reads, changes, by rw [hrequests, List.append_assoc], hreads, hchanges, hlength,
          fun h => absurd (mem_readers_of_name h) hreader, fun h => absurd h hknown, ?_⟩
        rintro ⟨refusal, hanswer⟩
        by_contra hne
        refine hrefused hne (.refusal refusal) ?_ trivial
        rw [failure?, hanswer]
        rfl

end Tool

end Flowgate
