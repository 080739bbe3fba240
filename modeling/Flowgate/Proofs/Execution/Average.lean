import Flowgate.Proofs.Execution.Moments

/-! # The average of a summary

The average of a summary is that of the durations that its records have, in order. A record
without a duration, for whatever reason it has none, may stand anywhere among the others: it is
counted, and the average stays as it is to the last bit.
-/

namespace Flowgate.Execution

open Listing

variable {fields : List (String × Json)} {records : List Json} {summary : Summary}

/-! ## Durations alone -/

/-- What a tally knows of durations: their sum in seconds, and how many there are. -/
structure Clocked where
  seconds : Binary64
  timed : Nat

/-- Add a duration. -/
def Clocked.add (k : Clocked) (micros : Micros) : Clocked :=
  ⟨k.seconds.add (.ofIntRatio micros 1000000), k.timed + 1⟩

/-- The durations of a tally. -/
def Tally.clocked (t : Tally) : Clocked := ⟨t.seconds, t.timed⟩

/-- Counting a record is no matter of the durations. -/
theorem Tally.clocked_plus (t : Tally) (record : Json) :
    (t.plus record).clocked = match counted record with
      | some micros => t.clocked.add micros
      | none => t.clocked := by
  rw [Tally.plus]
  cases counted record <;> rfl

theorem Tally.clocked_foldl (t : Tally) (records : List Json) :
    (records.foldl Tally.plus t).clocked =
      (records.filterMap counted).foldl Clocked.add t.clocked := by
  induction records generalizing t with
  | nil => rfl
  | cons record rest ih =>
      rw [List.foldl_cons, ih, Tally.clocked_plus, List.filterMap_cons]
      cases counted record <;> rfl

theorem Tally.average_congr {t u : Tally} (h : t.clocked = u.clocked) : t.average = u.average := by
  obtain ⟨hseconds, htimed⟩ := Clocked.mk.inj h
  rw [Tally.average, Tally.average, hseconds, htimed]

/-- Records with the same durations in the same order have the same average, whatever else they
hold and whatever records without a duration stand among them. -/
theorem average_of_summarize {others : List Json} {other : Summary}
    (h : summarize records = .ok summary) (hother : summarize others = .ok other)
    (hdurations : records.filterMap counted = others.filterMap counted) :
    summary.average = other.average := by
  obtain ⟨-, rfl⟩ := summarize_eq_ok_iff.mp h
  obtain ⟨-, rfl⟩ := summarize_eq_ok_iff.mp hother
  apply Tally.average_congr
  rw [Tally.clocked_foldl, Tally.clocked_foldl, hdurations]

/-! ## Records without a duration -/

/-- A finished record whose start and whose end are both told. -/
def IsTimed (record : Json) : Prop :=
  IsFinished record ∧ (momentOf (fieldOf "startedAt" record)).isSome = true ∧
    (momentOf (fieldOf "stoppedAt" record)).isSome = true

/-- A record that is not timed and that no other record is refused for: if it is finished, its
start and its end are texts or unset, and one of them tells no moment. -/
structure IsUntimed (record : Json) : Prop where
  started : IsFinished record → IsTextOrUnset (fieldOf "startedAt" record)
  stopped : IsFinished record → IsTextOrUnset (fieldOf "stoppedAt" record)
  untold : ¬ IsTimed record

theorem between_of_untold {started stopped : Option Timestamp}
    (h : ¬ (started.isSome = true ∧ stopped.isSome = true)) :
    between started stopped = .ok none := by
  cases started with
  | none => rfl
  | some first =>
      cases stopped with
      | none => rfl
      | some last => exact absurd ⟨rfl, rfl⟩ h

theorem IsUntimed.duration? (h : IsUntimed (.obj fields)) (hfinished : IsFinished (.obj fields)) :
    Execution.duration? (.obj fields) = .ok none := by
  apply duration?_eq_ok_iff.mpr
  refine ⟨h.started hfinished, h.stopped hfinished, between_of_untold fun htold => ?_⟩
  exact h.untold ⟨hfinished, htold⟩

theorem IsUntimed.isCountable (h : IsUntimed (.obj fields)) : IsCountable (.obj fields) :=
  ⟨⟨fields, rfl⟩, fun hfinished => ⟨none, h.duration? hfinished⟩⟩

theorem IsUntimed.counted (h : IsUntimed (.obj fields)) :
    Execution.counted (.obj fields) = none := by
  unfold Execution.counted
  split
  next duration hduration =>
    split
    next hfinished => exact Except.ok.inj (hduration.symm.trans (h.duration? hfinished))
    next => rfl
  next => rfl

/-- A record that a tally takes has no duration unless it is timed. -/
theorem counted_of_not_isTimed {record : Json} (hcountable : IsCountable record)
    (h : ¬ IsTimed record) : counted record = none := by
  obtain ⟨fields, rfl⟩ := hcountable.1
  by_cases hfinished : IsFinished (.obj fields)
  · have htimeable := isCountable_obj_iff.mp hcountable hfinished
    exact IsUntimed.counted ⟨fun _ => htimeable.started, fun _ => htimeable.stopped, h⟩
  · exact IsUntimed.counted ⟨fun hdone => absurd hdone hfinished,
      fun hdone => absurd hdone hfinished, h⟩

/-- What one record adds to the counts. -/
theorem countsOf_singleton (record : Json) : countsOf [record] =
    ⟨1, if IsFinished record ∧ ¬ HasFailed record then 1 else 0,
      if HasFailed record then 1 else 0, if IsFinished record then 0 else 1⟩ := by
  by_cases hfinished : IsFinished record <;> by_cases hfailed : HasFailed record <;>
    simp [countsOf, hfinished, hfailed]

/-- A record without a duration is counted wherever it is put among others, and the average does
not change. Where no record is timed the average is zero. -/
theorem average_by_timed_records :
    (∀ before behind fields summary, summarize (before ++ behind) = .ok summary →
      IsUntimed (.obj fields) →
      ∃ larger, summarize (before ++ .obj fields :: behind) = .ok larger ∧
        larger.average = summary.average ∧ larger.averageText = summary.averageText ∧
        larger.total = summary.total + 1 ∧
        larger.succeeded = summary.succeeded +
          (if IsFinished (.obj fields) ∧ ¬ HasFailed (.obj fields) then 1 else 0) ∧
        larger.failed = summary.failed + (if HasFailed (.obj fields) then 1 else 0) ∧
        larger.waiting = summary.waiting + (if IsFinished (.obj fields) then 0 else 1)) ∧
    ∀ records summary, summarize records = .ok summary →
      (∀ record ∈ records, ¬ IsTimed record) → summary.averageText = "0.00s" := by
  constructor
  · intro before behind fields summary hsummary huntimed
    have hcountable := exists_summarize_iff.mp ⟨summary, hsummary⟩
    rw [List.forall_mem_append] at hcountable
    obtain ⟨larger, hlarger⟩ : ∃ larger,
        summarize (before ++ .obj fields :: behind) = .ok larger := by
      apply exists_summarize_iff.mpr
      rw [List.forall_mem_append, List.forall_mem_cons]
      exact ⟨hcountable.1, huntimed.isCountable, hcountable.2⟩
    have haverage : larger.average = summary.average := by
      apply average_of_summarize hlarger hsummary
      rw [List.filterMap_append, List.filterMap_append, List.filterMap_cons, huntimed.counted]
    have hcounts : larger.counts = summary.counts + countsOf [.obj fields] := by
      rw [counts_of_summarize hlarger, counts_of_summarize hsummary, ← countsOf_append]
      apply countsOf_perm
      rw [List.append_assoc]
      exact (List.perm_append_singleton _ _).symm.append_left before
    rw [countsOf_singleton] at hcounts
    obtain ⟨htotal, hsucceeded, hfailed, hwaiting⟩ := Counts.mk.inj hcounts
    exact ⟨larger, hlarger, haverage, by rw [Summary.averageText, haverage, Summary.averageText],
      htotal, hsucceeded, hfailed, hwaiting⟩
  · intro records summary hsummary huntimed
    have hcountable := exists_summarize_iff.mp ⟨summary, hsummary⟩
    have hnone : records.filterMap counted = ([] : List Json).filterMap counted :=
      List.filterMap_eq_nil_iff.mpr fun record hmem =>
        counted_of_not_isTimed (hcountable record hmem) (huntimed record hmem)
    have hzero : summary.average = .zero false :=
      average_of_summarize hsummary (rfl : summarize [] = .ok (.ofTally .zero)) hnone
    rw [Summary.averageText, hzero]
    decide +kernel

/-- A finished record without an end stands before a timed one of two seconds. -/
theorem average_beside_open_end :
    let timed : Json := .obj [("finished", .bool true),
      ("startedAt", .str "2024-05-01T10:00:00Z"), ("stoppedAt", .str "2024-05-01T10:00:02Z")]
    let openEnd : List (String × Json) :=
      [("finished", .bool true), ("startedAt", .str "2024-05-01T10:00:00Z")]
    ∃ larger, summarize [.obj openEnd, timed] = .ok larger ∧ larger.averageText = "2.00s" ∧
      larger.counts = ⟨2, 2, 0, 0⟩ := by
  intro timed openEnd
  obtain ⟨summary, hsummary, htext, hcounts⟩ : ∃ summary, summarize [timed] = .ok summary ∧
      summary.averageText = "2.00s" ∧ summary.counts = ⟨1, 1, 0, 0⟩ :=
    ⟨_, rfl, by decide +kernel, rfl⟩
  have huntimed : IsUntimed (.obj openEnd) := by
    refine ⟨fun _ _ => ⟨_, rfl⟩, fun _ => nofun, fun htimed => ?_⟩
    exact absurd htimed.2.2 (by decide)
  obtain ⟨larger, hlarger, -, haverage, htotal, hsucceeded, hfailed, hwaiting⟩ :=
    average_by_timed_records.1 [] [timed] openEnd summary hsummary huntimed
  obtain ⟨htotal', hsucceeded', hfailed', hwaiting'⟩ := Counts.mk.inj hcounts
  refine ⟨larger, hlarger, haverage.trans htext, ?_⟩
  rw [Summary.counts, htotal, hsucceeded, hfailed, hwaiting, htotal', hsucceeded', hfailed',
    hwaiting']
  decide

end Flowgate.Execution
