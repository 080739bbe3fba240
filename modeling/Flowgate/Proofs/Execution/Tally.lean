import Flowgate.Execution.Summary
import Flowgate.Proofs.Itemwise

/-! # Tallies of execution records

A record is counted by what it says of itself. Whether it can be counted does not hang on the
records before it, so that a run of records is counted just if each of them can be, and its
counts are those of the records one by one.
-/

namespace Flowgate.Execution

variable {record : Json} {records : List Json} {fields : List (String × Json)}

/-! ## What a record says of itself -/

/-- The status of the record tells of a failure, or its mode does. -/
def HasFailed (record : Json) : Prop :=
  record.field? "status" = some (.str "error") ∨ record.field? "mode" = some (.str "error")

/-- The record has a value for being finished that counts as set. -/
def IsFinished (record : Json) : Prop :=
  ∃ v, record.field? "finished" = some v ∧ v.truthy = true

theorem isErrorWord_iff {v : Json} : v.isErrorWord = true ↔ v = .str "error" := by
  cases v <;> simp [Json.isErrorWord]

theorem isErrorWord_getField (key : String) (fields : List (String × Json)) :
    (Json.getField key fields).isErrorWord = true ↔
      (Json.obj fields).field? key = some (.str "error") := by
  rw [isErrorWord_iff, Json.getField, Json.field?]
  cases fields.lookup key <;> simp

theorem truthy_getField (key : String) (fields : List (String × Json)) :
    (Json.getField key fields).truthy = true ↔
      ∃ v, (Json.obj fields).field? key = some v ∧ v.truthy = true := by
  rw [Json.getField, Json.field?]
  cases fields.lookup key <;> simp [Json.truthy]

instance : DecidablePred HasFailed := fun r =>
  decidable_of_iff ((r.field? "status").any Json.isErrorWord ∨
    (r.field? "mode").any Json.isErrorWord)
    (by simp only [HasFailed, Option.any_eq_true, isErrorWord_iff, exists_eq_right])

instance : DecidablePred IsFinished := fun r =>
  decidable_of_iff ((r.field? "finished").any Json.truthy)
    (by simp only [IsFinished, Option.any_eq_true])

theorem isFailed_obj (fields : List (String × Json)) :
    isFailed (.obj fields) = .ok (decide (HasFailed (.obj fields))) := by
  have hstatus := isErrorWord_getField "status" fields
  have hmode := isErrorWord_getField "mode" fields
  have hsettled : isFailed (.obj fields) =
      .ok ((Json.getField "status" fields).isErrorWord ||
        (Json.getField "mode" fields).isErrorWord) := by
    simp only [isFailed, Json.get, Bind.bind, Except.bind]
    cases (Json.getField "status" fields).isErrorWord <;> rfl
  rw [hsettled]
  congr 1
  rw [Bool.eq_iff_iff, Bool.or_eq_true, hstatus, hmode, decide_eq_true_iff, HasFailed]

/-! ## One record -/

/-- A record that a tally takes: an object, with a duration or without one if it is finished. -/
def IsCountable (record : Json) : Prop :=
  (∃ fields, record = .obj fields) ∧
    (IsFinished record → ∃ duration, duration? record = .ok duration)

/-- The duration that is counted for a record. -/
def counted (record : Json) : Option Micros :=
  match duration? record with
  | .ok duration => if IsFinished record then duration else none
  | .error _ => none

/-- A tally with one more record. -/
def Tally.plus (t : Tally) (record : Json) : Tally :=
  (t.count (decide (IsFinished record)) (decide (HasFailed record))).time (counted record)

/-- What a tally becomes with a record, and which records it takes. -/
theorem Tally.record_eq_ok_iff (t : Tally) (record : Json) (next : Tally) :
    t.record record = .ok next ↔ IsCountable record ∧ t.plus record = next := by
  cases record with
  | obj fields =>
      have hfinished : (Json.getField "finished" fields).truthy =
          decide (IsFinished (.obj fields)) := by
        rw [Bool.eq_iff_iff, truthy_getField, decide_eq_true_iff, IsFinished]
      simp only [Tally.record, Json.get, isFailed_obj, hfinished, Bind.bind, Except.bind,
        IsCountable, Tally.plus, counted]
      by_cases hdone : IsFinished (.obj fields)
      · cases duration? (.obj fields) <;> simp [hdone, Pure.pure, Except.pure]
      · cases duration? (.obj fields) <;> simp [hdone, Pure.pure, Except.pure, Tally.time]
  | _ => simp [Tally.record, Json.get, Bind.bind, Except.bind, IsCountable]

/-! ## All records -/

/-- Records are summarized just if each of them can be counted. -/
theorem summarize_eq_ok_iff {summary : Summary} :
    summarize records = .ok summary ↔
      (∀ record ∈ records, IsCountable record) ∧
        .ofTally (records.foldl Tally.plus .zero) = summary := by
  have hfold := @foldlM_eq_ok_iff _ _ _ _ _ _ Tally.record_eq_ok_iff records .zero
  rw [summarize]
  cases hrun : records.foldlM Tally.record .zero with
  | error fault =>
      have hrefused : ¬ ∀ record ∈ records, IsCountable record := by
        intro hall
        cases hrun.symm.trans (hfold.mpr ⟨hall, rfl⟩)
      simp [Except.map, hrefused]
  | ok t =>
      obtain ⟨hall, rfl⟩ := hfold.mp hrun
      simp only [Except.map, Except.ok.injEq]
      exact ⟨fun hsummary => ⟨hall, hsummary⟩, fun h => h.2⟩

theorem exists_summarize_iff :
    (∃ summary, summarize records = .ok summary) ↔ ∀ record ∈ records, IsCountable record := by
  simp [summarize_eq_ok_iff]

/-- What records cannot be summarized for is what one of them is refused for. -/
theorem exists_of_summarize_eq_error {fault : Fault} (h : summarize records = .error fault) :
    ∃ record ∈ records, ∃ t : Tally, t.record record = .error fault := by
  rw [summarize] at h
  cases hrun : records.foldlM Tally.record .zero with
  | ok t =>
      rw [hrun] at h
      cases h
  | error cause =>
      rw [hrun] at h
      cases h
      exact exists_of_foldlM_eq_error hrun

end Flowgate.Execution
