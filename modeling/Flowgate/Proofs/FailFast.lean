import Mathlib.Data.List.Forall2

/-! # Failing fast and collecting

One computation stops at its first refusal, another collects every refusal of the
same input. They agree when the first stops with the head of what the second
collects. Agreement is kept in sequence and along lists.
-/

namespace Flowgate

variable {ε α β γ : Type}

/-- A computation passes where nothing is collected, and fails with the head of what
is collected otherwise. -/
inductive FailsFirst : Except ε α → List ε → Prop
  | passes (value : α) : FailsFirst (.ok value) []
  | fails (cause : ε) (later : List ε) : FailsFirst (.error cause) (cause :: later)

namespace FailsFirst

variable {run : Except ε α} {causes : List ε}

theorem exists_ok_iff (h : FailsFirst run causes) :
    (∃ value, run = .ok value) ↔ causes = [] := by
  cases h with
  | passes value => simp
  | fails cause later => simp

theorem head?_of_error (h : FailsFirst run causes) {cause : ε} (hrun : run = .error cause) :
    causes.head? = some cause := by
  subst hrun
  cases h
  rfl

/-- A second step adds its causes behind those of the first, and needs to agree only
on what the first gives. -/
theorem bind {next : α → Except ε β} {later : List ε} (h : FailsFirst run causes)
    (hnext : ∀ value, run = .ok value → FailsFirst (next value) later) :
    FailsFirst (run >>= next) (causes ++ later) := by
  cases h with
  | passes value => exact hnext value rfl
  | fails cause rest => exact .fails cause (rest ++ later)

theorem map (f : α → β) (h : FailsFirst run causes) : FailsFirst (run.map f) causes := by
  cases h with
  | passes value => exact .passes (f value)
  | fails cause rest => exact .fails cause rest

theorem mapError {δ : Type} (f : ε → δ) (h : FailsFirst run causes) :
    FailsFirst (run.mapError f) (causes.map f) := by
  cases h with
  | passes value => exact .passes value
  | fails cause rest => exact .fails (f cause) (rest.map f)

/-- Agreement along a list: the inputs of the steps may be made from other items, in
the same order, than those whose causes are collected. -/
theorem mapM {step : β → Except ε α} {collect : γ → List ε} {items : List γ} {inputs : List β}
    (h : List.Forall₂ (fun item input => FailsFirst (step input) (collect item)) items inputs) :
    FailsFirst (inputs.mapM step) (items.flatMap collect) := by
  induction h with
  | nil => exact .passes []
  | cons hhead _ ih =>
      rw [List.mapM_cons, List.flatMap_cons]
      apply hhead.bind
      intro value _
      rw [bind_pure_comp]
      exact ih.map (value :: ·)

end FailsFirst

end Flowgate
