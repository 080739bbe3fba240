import Flowgate.Tool.Compilation

/-! # Answers of computations on the link

A computation on the link gives an answer and leaves a link. Compiling sends nothing
and is not led by the link, so its answer is that of the compiler alone.
-/

namespace Flowgate.Exchange

/-- What a computation answers when it starts on a link. -/
def answer {α : Type} (x : Exchange α) (l : Link) : Except Failure α := (x.run.run l).1

/-- The link that a computation leaves behind when it starts on a link. -/
def after {α : Type} (x : Exchange α) (l : Link) : Link := (x.run.run l).2

section Sequence

variable {α β : Type} {x : Exchange α} {l : Link}

/-- Where the first step succeeds the next goes on from what it leaves behind. -/
theorem bind_of_ok {a : α} (next : α → Exchange β) (h : x.answer l = .ok a) :
    (x >>= next).answer l = (next a).answer (x.after l) ∧
      (x >>= next).after l = (next a).after (x.after l) := by
  unfold answer after ExceptT.run StateT.run at *
  simp only [bind, ExceptT.bind, ExceptT.mk, StateT.bind, ExceptT.bindCont]
  cases hx : x l with
  | mk result left =>
      rw [hx] at h
      cases h
      exact ⟨rfl, rfl⟩

/-- Where the first step fails the whole does, and no other step is made. -/
theorem bind_of_error {failure : Failure} (next : α → Exchange β)
    (h : x.answer l = .error failure) :
    (x >>= next).answer l = .error failure ∧ (x >>= next).after l = x.after l := by
  unfold answer after ExceptT.run StateT.run at *
  simp only [bind, ExceptT.bind, ExceptT.mk, StateT.bind, ExceptT.bindCont]
  cases hx : x l with
  | mk result left =>
      rw [hx] at h
      cases h
      exact ⟨rfl, rfl⟩

/-- A value may be put otherwise in the end. -/
theorem bind_pure_eq (f : α → β) :
    (x >>= fun a => pure (f a)).answer l = (x.answer l).map f ∧
      (x >>= fun a => pure (f a)).after l = x.after l := by
  cases hx : x.answer l with
  | ok a => exact bind_of_ok _ hx
  | error failure => exact bind_of_error _ hx

/-- Telling failures otherwise changes nothing on the link. -/
theorem adapt_eq (tell : Failure → Failure) :
    answer (ExceptT.adapt tell x) l = (x.answer l).mapError tell ∧
      after (ExceptT.adapt tell x) l = x.after l :=
  ⟨rfl, rfl⟩

/-- What succeeds is no matter of a handler. -/
theorem tryCatch_of_ok {a : α} (handler : Failure → Exchange α) (h : x.answer l = .ok a) :
    (tryCatch x handler).answer l = .ok a ∧ (tryCatch x handler).after l = x.after l := by
  unfold answer after ExceptT.run StateT.run at *
  simp only [tryCatch, tryCatchThe, MonadExceptOf.tryCatch, ExceptT.tryCatch, ExceptT.mk,
    bind, StateT.bind]
  cases hx : x l with
  | mk result left =>
      rw [hx] at h
      cases h
      exact ⟨rfl, rfl⟩

/-- A failure of the engine is left to the handler, which goes on from where it came up.
Anything else is no matter of the handler. -/
theorem recover_cases (x : Exchange α) (handler : EngineError → Exchange α) (l : Link) :
    (∃ error, x.answer l = .error (.engine error) ∧
      (recover x handler).answer l = (handler error).answer (x.after l) ∧
      (recover x handler).after l = (handler error).after (x.after l)) ∨
    (∀ error, x.answer l ≠ .error (.engine error)) ∧
      (recover x handler).answer l = x.answer l ∧ (recover x handler).after l = x.after l := by
  unfold answer after ExceptT.run StateT.run
  simp only [recover, tryCatch, tryCatchThe, MonadExceptOf.tryCatch, ExceptT.tryCatch, ExceptT.mk,
    bind, StateT.bind]
  cases hx : x l with
  | mk result left =>
      cases result with
      | ok a => exact .inr ⟨nofun, rfl, rfl⟩
      | error failure =>
          cases failure with
          | engine error => exact .inl ⟨error, rfl, rfl, rfl⟩
          | _ => exact .inr ⟨nofun, rfl, rfl⟩

end Sequence

/-- Logging does not change what the compiler answers. Only a workflow that is left
without any name fails after it has been compiled. -/
theorem answer_compile (defaultName : Option String) (spec : WorkflowSpec) (l : Link) :
    (compile defaultName spec).answer l =
      match spec.compile (defaultName.getD "") with
      | .error cause => .error (.definition cause)
      | .ok g =>
          if (spec.title defaultName some).isNone then
            .error (.issues [⟨[.key "name"], .notText⟩])
          else .ok g := by
  unfold compile
  cases hcompile : spec.compile (defaultName.getD "") with
  | error cause => rfl
  | ok g =>
      cases htitle : spec.title defaultName some with
      | none => rfl
      | some title => rfl

/-- With a default name the compiler alone decides. -/
theorem answer_compile_some (defaultName : String) (spec : WorkflowSpec) (l : Link) :
    (compile (some defaultName) spec).answer l =
      (spec.compile defaultName).mapError .definition := by
  have htitle : (spec.title (some defaultName) some).isNone = false := by
    unfold WorkflowSpec.title
    split
    · split <;> rfl
    · rfl
  rw [answer_compile, htitle, Option.getD_some]
  cases spec.compile defaultName <;> rfl

/-- A value that is no definition is refused before anything is compiled. -/
theorem answer_compileJson (defaultName : Option String) (v : Json) (l : Link) :
    (compileJson defaultName v).answer l =
      match WorkflowSpec.ofJson v with
      | .error cause => .error (.definition cause)
      | .ok spec => (compile defaultName spec).answer l := by
  unfold compileJson readSpec
  cases WorkflowSpec.ofJson v with
  | error cause => rfl
  | ok spec => rfl

/-- What is compiled was a definition. -/
theorem spec_of_compileJson {defaultName : Option String} {v : Json} {l : Link} {g : Graph}
    (h : (compileJson defaultName v).answer l = .ok g) :
    ∃ spec, WorkflowSpec.ofJson v = .ok spec ∧ (compile defaultName spec).answer l = .ok g := by
  rw [answer_compileJson] at h
  cases hspec : WorkflowSpec.ofJson v with
  | error cause =>
      rw [hspec] at h
      cases h
  | ok spec =>
      rw [hspec] at h
      exact ⟨spec, rfl, h⟩

end Flowgate.Exchange
