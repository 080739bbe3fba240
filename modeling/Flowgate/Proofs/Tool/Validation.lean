import Flowgate.Proofs.Tool.Conduct
import Flowgate.Proofs.Workflow.Check

/-! # Judging a definition before it is created

A definition is judged as it would be compiled: the verdict is that of the compiler, and the
workflow that comes with it is the one that would be created.
-/

namespace Flowgate.Tool

open Conduct Exchange

variable {c : Client} {arguments : Json} {l : Link}

/-- The arguments that a tool is given. -/
def given (arguments : Json) : Json := if arguments.truthy then arguments else .obj []

theorem given_obj (fields : List (String × Json)) : given (.obj fields) = .obj fields := by
  cases fields <;> rfl

/-- A call logs itself and goes on as its tool does. -/
theorem call_eq_run (c : Client) (tool : Tool) (arguments : Json) (l : Link) :
    ∃ logged : Link, logged.requests = l.requests ∧ logged.script = l.script ∧
      (call c tool.name arguments).answer l =
        ((run c tool (given arguments)).answer logged).mapError forAgent ∧
      (call c tool.name arguments).after l = (run c tool (given arguments)).after logged := by
  refine ⟨(log .info "tool_call" [("tool", .str tool.name)]).after l, rfl, rfl, ?_⟩
  unfold call
  rw [ofName?_name]
  exact bind_of_ok _ rfl

/-- Compiling is not led by the link. -/
theorem answer_compileArguments (l : Link) :
    (compileArguments arguments).answer l =
      match WorkflowSpec.ofJson arguments with
      | .error cause => .error (.definition cause)
      | .ok spec => (spec.compile defaultWorkflowName).mapError .definition := by
  unfold compileArguments
  rw [answer_compileJson]
  cases WorkflowSpec.ofJson arguments with
  | error cause => rfl
  | ok spec => exact answer_compile_some ..

/-- The verdict on a definition is that of the compiler. -/
theorem verdict_cases (arguments : Json) :
    (∃ g, (∀ l, (compileArguments arguments).answer l = .ok g) ∧
      ∀ l, (runValidate arguments).answer l = .ok (validVerdict g)) ∨
    ∃ cause later, (∀ l, (compileArguments arguments).answer l = .error (.definition cause)) ∧
      ∀ l, (runValidate arguments).answer l = .ok (invalidVerdict (cause :: later)) := by
  simp only [answer_compileArguments]
  unfold runValidate
  cases WorkflowSpec.ofJson arguments with
  | error cause => exact .inr ⟨cause, [], fun _ => rfl, fun _ => rfl⟩
  | ok spec =>
      -- compiling stops with the head of the errors that the verdict lists
      have hfirst := spec.compile_failsFirst defaultWorkflowName
      dsimp only
      cases hcompile : spec.compile defaultWorkflowName with
      | ok g =>
          rw [hfirst.exists_ok_iff.mp ⟨g, hcompile⟩]
          refine .inl ⟨g, fun _ => rfl, fun l => ?_⟩
          have hanswer := answer_compile_some defaultWorkflowName spec l
          rw [hcompile] at hanswer
          exact (bind_of_ok _ hanswer).1
      | error cause =>
          rw [hcompile] at hfirst
          generalize spec.check = errors at hfirst ⊢
          cases hfirst with
          | fails cause later => exact .inr ⟨cause, later, fun _ => rfl, fun _ => rfl⟩

/-- What compiles is handed to the client. -/
theorem call_create_of_ok {g : Graph}
    (h : ∀ l, (compileArguments (given arguments)).answer l = .ok g) :
    ∃ handed : Link, handed.requests = l.requests ∧ handed.script = l.script ∧
      (call c "create_workflow" arguments).answer l =
        ((c.createWorkflow g.payload.toJson).answer handed).mapError forAgent ∧
      (call c "create_workflow" arguments).after l =
        (c.createWorkflow g.payload.toJson).after handed := by
  obtain ⟨logged, hrequests, hscript, hcall, hafter⟩ := call_eq_run c createWorkflow arguments l
  obtain ⟨sent, hrequests', hscript', rfl⟩ :=
    silent_compileJson (some defaultWorkflowName) (given arguments) logged
  obtain ⟨hrun, hrunAfter⟩ :=
    bind_of_ok (fun g : Graph => c.createWorkflow g.payload.toJson) (h logged)
  refine ⟨(compileArguments (given arguments)).after logged, ?_, ?_, ?_, hafter.trans hrunAfter⟩
  · exact hrequests'.trans ((List.append_nil _).trans hrequests)
  · exact hscript'.trans hscript
  · exact hcall.trans (congrArg (Except.mapError forAgent) hrun)

/-- What does not compile is refused, and nothing is sent. -/
theorem call_create_of_error {cause : CompileError}
    (h : ∀ l, (compileArguments (given arguments)).answer l = .error (.definition cause)) :
    (call c "create_workflow" arguments).answer l = .error (.refusal (refusalOf cause)) ∧
      ((call c "create_workflow" arguments).after l).requests = l.requests := by
  obtain ⟨logged, hrequests, -, hcall, hafter⟩ := call_eq_run c createWorkflow arguments l
  obtain ⟨sent, hrequests', -, rfl⟩ :=
    silent_compileJson (some defaultWorkflowName) (given arguments) logged
  obtain ⟨hrun, hrunAfter⟩ :=
    bind_of_error (fun g : Graph => c.createWorkflow g.payload.toJson) (h logged)
  refine ⟨hcall.trans (congrArg (Except.mapError forAgent) hrun), ?_⟩
  exact (congrArg Link.requests (hafter.trans hrunAfter)).trans
    (hrequests'.trans ((List.append_nil _).trans hrequests))

theorem call_validate_eq (c : Client) (arguments : Json) (l : Link) {verdict : Json}
    (h : ∀ l, (runValidate (given arguments)).answer l = .ok verdict) :
    (call c "validate_workflow" arguments).answer l = .ok verdict := by
  obtain ⟨logged, -, -, hcall, -⟩ := call_eq_run c validateWorkflow arguments l
  exact hcall.trans (congrArg (Except.mapError forAgent) (h logged))

/-- Nothing that becomes of a definition that is handed to the client is a refusal. -/
theorem createWorkflow_ne_refusal {workflow : Json} (refusal : Refusal) :
    ((c.createWorkflow workflow).answer l).mapError forAgent ≠ .error (.refusal refusal) := by
  intro hrefused
  have hkeeps : (c.createWorkflow workflow).Keeps .unrefused :=
    Client.keeps_createWorkflow roomy_unrefused fun _ => nofun
  obtain ⟨sent, -, -, hunrefused⟩ := hkeeps l
  unfold failure? at hunrefused
  cases hanswer : (c.createWorkflow workflow).answer l with
  | ok created =>
      rw [hanswer] at hrefused
      cases hrefused
  | error failure =>
      rw [hanswer] at hrefused hunrefused
      have htold : forAgent failure = .refusal refusal := Except.error.inj hrefused
      refine hunrefused failure rfl (isRefusal_forAgent.mp ?_)
      rw [htold]
      trivial

/-- Judging a definition sends nothing and tells how creating the workflow will go. It is
valid just if it would be compiled, and comes with the workflow that would be handed to the
client. It is not valid just if it would be refused, without a request and for the first of
the errors. -/
theorem validate_predicts_create (c : Client) (arguments : Json) (l : Link) :
    let validated := call c "validate_workflow" arguments
    let created := call c "create_workflow" arguments
    let compiled := compileArguments (given arguments)
    (validated.after l).requests = l.requests ∧
      ((∃ verdict, validated.answer l = .ok verdict ∧
          verdict.field? "valid" = some (.bool true)) ↔ ∃ g, compiled.answer l = .ok g) ∧
      (∀ g, compiled.answer l = .ok g →
        validated.answer l = .ok (.obj [("valid", .bool true), ("errors", .arr []),
          ("workflow", g.payload.toJson)]) ∧
        ∃ handed : Link, handed.requests = l.requests ∧ handed.script = l.script ∧
          created.answer l =
            ((c.createWorkflow g.payload.toJson).answer handed).mapError forAgent ∧
          created.after l = (c.createWorkflow g.payload.toJson).after handed) ∧
      ((∃ verdict, validated.answer l = .ok verdict ∧
          verdict.field? "valid" = some (.bool false)) ↔
        ∃ refusal, created.answer l = .error (.refusal refusal) ∧
          refusal.code = .invalidParams) ∧
      ∀ refusal, created.answer l = .error (.refusal refusal) →
        (∃ first later, refusal.data = some first ∧
          validated.answer l =
            .ok (.obj [("valid", .bool false), ("errors", .arr (first :: later))])) ∧
        (created.after l).requests = l.requests := by
  intro validated created compiled
  obtain ⟨sent, hsilent, -, rfl⟩ := silent_call_validate c arguments l
  refine ⟨hsilent.trans (List.append_nil _), ?_⟩
  rcases verdict_cases (given arguments) with
    ⟨g, hcompiled, hverdict⟩ | ⟨cause, later, hcompiled, hverdict⟩
  · have hvalidated : validated.answer l = .ok (validVerdict g) := call_validate_eq c _ l hverdict
    obtain ⟨handed, hrequests, hscript, hcreated, hafter⟩ :=
      call_create_of_ok (c := c) (l := l) hcompiled
    have hserved (refusal : Refusal) : created.answer l ≠ .error (.refusal refusal) := by
      intro hrefused
      exact createWorkflow_ne_refusal refusal (hcreated.symm.trans hrefused)
    refine ⟨iff_of_true ⟨_, hvalidated, rfl⟩ ⟨g, hcompiled l⟩, ?_, iff_of_false ?_ ?_, ?_⟩
    · intro other hother
      cases (hcompiled l).symm.trans hother
      exact ⟨hvalidated, handed, hrequests, hscript, hcreated, hafter⟩
    · rintro ⟨verdict, hverdict, hvalid⟩
      cases hvalidated.symm.trans hverdict
      cases hvalid
    · rintro ⟨refusal, hrefused, -⟩
      exact hserved refusal hrefused
    · exact fun refusal hrefused => absurd hrefused (hserved refusal)
  · have hvalidated : validated.answer l = .ok (invalidVerdict (cause :: later)) :=
      call_validate_eq c _ l hverdict
    obtain ⟨hcreated, hrequests⟩ := call_create_of_error (c := c) (l := l) hcompiled
    have hunread (g : Graph) : compiled.answer l ≠ .ok g := by
      intro hread
      cases (hcompiled l).symm.trans hread
    refine ⟨iff_of_false ?_ ?_, ?_, iff_of_true ⟨_, hvalidated, rfl⟩ ⟨_, hcreated, rfl⟩, ?_⟩
    · rintro ⟨verdict, hverdict, hvalid⟩
      cases hvalidated.symm.trans hverdict
      cases hvalid
    · exact fun ⟨g, hread⟩ => hunread g hread
    · exact fun g hread => absurd hread (hunread g)
    · intro refusal hrefused
      cases hcreated.symm.trans hrefused
      exact ⟨⟨_, _, rfl, hvalidated⟩, hrequests⟩

end Flowgate.Tool
