import Flowgate.Proofs.Course
import Flowgate.Proofs.Tool.Validation

/-! # How calls of tools go

The course of a call is that of its tool, and the course of a tool is told step by step: what it
takes from its arguments is there or refused, and a definition compiles or is refused.
-/

namespace Flowgate.Tool

open Exchange

variable {α : Type} {c : Client} {tool : Tool} {fields : List (String × Json)} {id : String}
  {p : Course α}

/-- A call goes as its tool does, and failures are told to an agent. -/
theorem takes_call_of_run {p : Course Json} (h : (run c tool (.obj fields)).Takes p) :
    (call c tool.name (.obj fields)).Takes fun steps answer =>
      ∃ raw, answer = raw.mapError forAgent ∧ p steps raw := by
  unfold call
  rw [ofName?_name]
  apply Takes.log_bind
  apply Takes.adapt
  change (run c tool (given (.obj fields))).Takes _
  rw [given_obj]
  exact h.imp fun steps raw hp => ⟨raw, rfl, hp⟩

/-! ## Definitions -/

/-- The compiler alone decides what becomes of a definition in the arguments. -/
theorem answer_compileArguments_eq (arguments : Json) (l : Link) :
    (compileArguments arguments).answer l =
      (Json.compile defaultWorkflowName arguments).mapError .definition := by
  rw [answer_compileArguments, Json.compile]
  cases WorkflowSpec.ofJson arguments <;> rfl

theorem takes_compileArguments_bind {arguments : Json} {next : Graph → Exchange α}
    (hok : ∀ g, Json.compile defaultWorkflowName arguments = .ok g → (next g).Takes p)
    (herror : ∀ cause, Json.compile defaultWorkflowName arguments = .error cause →
      p [] (.error (.definition cause))) :
    (compileArguments arguments >>= next).Takes p := by
  have hsilent : (compileArguments arguments).Takes fun steps answer => steps = [] ∧
      answer = (Json.compile defaultWorkflowName arguments).mapError .definition := by
    refine .unsent ?_ ?_ fun l => ⟨rfl, answer_compileArguments_eq arguments l⟩
    · intro l
      obtain ⟨sent, hrequests, -, rfl⟩ := silent_compileJson (some defaultWorkflowName) arguments l
      exact hrequests.trans (List.append_nil _)
    · intro l
      obtain ⟨sent, -, hscript, rfl⟩ := silent_compileJson (some defaultWorkflowName) arguments l
      exact hscript
  refine .bind (hsilent.imp ?_)
  rintro _ _ ⟨rfl, rfl⟩
  cases hcompile : Json.compile defaultWorkflowName arguments with
  | ok g =>
      refine ⟨nofun, fun _ h => ?_⟩
      cases h
      exact hok g hcompile
  | error cause =>
      refine ⟨fun _ h => ?_, nofun⟩
      cases h
      exact herror cause hcompile

/-! ## Identifiers -/

theorem takes_workflowId_bind {next : Json → Exchange α}
    (hid : fields.lookup "id" = some (.str id)) (hne : id ≠ "") (hnext : (next (.str id)).Takes p) :
    (workflowId (.obj fields) >>= next).Takes p := by
  have hgiven : Argument.requireId "Workflow" (.obj fields) = .ok (.str id) := by
    simp [Argument.requireId, Json.get, Json.getField, hid, hne, Argument.isGiven, Except.mapError,
      Bind.bind, Except.bind, Pure.pure, Except.pure]
  unfold workflowId
  rw [hgiven, bind_assoc]
  refine .ofExcept_bind ?_ nofun
  rintro given ⟨⟩
  -- a text is pasted as it stands
  rw [bind_assoc]
  refine .ofExcept_bind ?_ nofun
  rintro text ⟨⟩
  rw [pure_bind]
  exact hnext

end Flowgate.Tool
