import Flowgate.Proofs.Execution.Tally
import Mathlib.Data.List.Perm.Basic

/-! # The counts of a summary

Each count of a summary is the number of the records of a kind, and what a record is counted
for hangs on the record alone. A record that failed without being finished is counted twice, so
that the counts of the outcomes exceed the total by the number of such records.
-/

namespace Flowgate.Execution

variable {records : List Json} {summary : Summary}

/-- The counts of a summary, without the average. -/
structure Counts where
  total : Nat
  succeeded : Nat
  failed : Nat
  waiting : Nat
  deriving DecidableEq

namespace Counts

instance : Add Counts where
  add a b :=
    ⟨a.total + b.total, a.succeeded + b.succeeded, a.failed + b.failed, a.waiting + b.waiting⟩

theorem add_def (a b : Counts) :
    a + b = ⟨a.total + b.total, a.succeeded + b.succeeded, a.failed + b.failed,
      a.waiting + b.waiting⟩ :=
  rfl

theorem add_assoc (a b c : Counts) : a + b + c = a + (b + c) := by
  simp only [add_def, Nat.add_assoc]

end Counts

/-- The counts of a tally. -/
def Tally.counts (t : Tally) : Counts := ⟨t.total, t.succeeded, t.failed, t.waiting⟩

/-- The counts of a summary. -/
def Summary.counts (s : Summary) : Counts := ⟨s.total, s.succeeded, s.failed, s.waiting⟩

/-- How many records there are of each kind. -/
def countsOf (records : List Json) : Counts where
  total := records.length
  succeeded := records.countP fun r => IsFinished r ∧ ¬ HasFailed r
  failed := records.countP fun r => HasFailed r
  waiting := records.countP fun r => ¬ IsFinished r

/-! ## Adding up -/

theorem countsOf_append (first second : List Json) :
    countsOf (first ++ second) = countsOf first + countsOf second := by
  simp only [countsOf, Counts.add_def, List.length_append, List.countP_append]

theorem countsOf_perm {others : List Json} (h : records.Perm others) :
    countsOf records = countsOf others := by
  simp only [countsOf, h.length_eq, h.countP_eq]

@[simp]
theorem Tally.counts_time (t : Tally) (duration : Option Micros) :
    (t.time duration).counts = t.counts := by
  cases duration <;> rfl

/-- One more record adds the counts of that record. -/
theorem Tally.counts_plus (t : Tally) (record : Json) :
    (t.plus record).counts = t.counts + countsOf [record] := by
  rw [Tally.plus, Tally.counts_time]
  by_cases hfinished : IsFinished record <;> by_cases hfailed : HasFailed record <;>
    simp [Tally.count, Tally.counts, countsOf, Counts.add_def, hfinished, hfailed]

theorem Tally.counts_foldl (t : Tally) (records : List Json) :
    (records.foldl Tally.plus t).counts = t.counts + countsOf records := by
  induction records generalizing t with
  | nil => rfl
  | cons record rest ih =>
      rw [List.foldl_cons, ih, Tally.counts_plus, Counts.add_assoc, ← countsOf_append,
        List.singleton_append]

theorem counts_of_summarize (h : summarize records = .ok summary) :
    summary.counts = countsOf records := by
  obtain ⟨-, rfl⟩ := summarize_eq_ok_iff.mp h
  change (records.foldl Tally.plus .zero).counts = _
  rw [Tally.counts_foldl]
  simp [Tally.counts, Tally.zero, Counts.add_def, countsOf]

/-! ## Records that are counted twice -/

theorem countsOf_balance (records : List Json) :
    (countsOf records).succeeded + (countsOf records).failed + (countsOf records).waiting =
      (countsOf records).total + records.countP fun r => ¬ IsFinished r ∧ HasFailed r := by
  induction records with
  | nil => rfl
  | cons record rest ih =>
      simp only [countsOf, List.countP_cons, List.length_cons] at ih ⊢
      by_cases hfinished : IsFinished record <;> by_cases hfailed : HasFailed record <;>
        simp only [hfinished, hfailed, not_true_eq_false, not_false_eq_true, and_true, and_false,
          decide_true, decide_false, if_true, Bool.false_eq_true, if_false] <;> omega

/-- The counts of a summary are the numbers of records of each kind, and only records that failed
without being finished are in two of them. A list of records is summarized just if its parts
are, with the sums of their counts, and so is every reordering of it, with the same counts. -/
theorem counts_are_additive :
    (∀ records summary, summarize records = .ok summary →
      summary.total = records.length ∧
      summary.failed = records.countP (fun r => HasFailed r) ∧
      summary.waiting = records.countP (fun r => ¬ IsFinished r) ∧
      summary.succeeded = records.countP (fun r => IsFinished r ∧ ¬ HasFailed r) ∧
      summary.succeeded + summary.failed + summary.waiting =
        summary.total + records.countP (fun r => ¬ IsFinished r ∧ HasFailed r) ∧
      summary.succeeded ≤ summary.total ∧ summary.failed ≤ summary.total ∧
        summary.waiting ≤ summary.total) ∧
    (∀ first second,
      ((∃ whole, summarize (first ++ second) = .ok whole) ↔
        (∃ one, summarize first = .ok one) ∧ ∃ other, summarize second = .ok other) ∧
      ∀ whole one other, summarize (first ++ second) = .ok whole →
        summarize first = .ok one → summarize second = .ok other →
        whole.counts = one.counts + other.counts) ∧
    ∀ records others summary, records.Perm others → summarize records = .ok summary →
      ∃ other, summarize others = .ok other ∧ other.counts = summary.counts := by
  refine ⟨?_, ?_, ?_⟩
  · intro records summary h
    have hcounts := counts_of_summarize h
    obtain ⟨htotal, hsucceeded, hfailed, hwaiting⟩ := Counts.mk.inj hcounts
    have hbalance := countsOf_balance records
    rw [← hcounts] at hbalance
    refine ⟨htotal, hfailed, hwaiting, hsucceeded, hbalance, ?_, ?_, ?_⟩
    · rw [hsucceeded, htotal]
      exact List.countP_le_length
    · rw [hfailed, htotal]
      exact List.countP_le_length
    · rw [hwaiting, htotal]
      exact List.countP_le_length
  · intro first second
    constructor
    · simp only [exists_summarize_iff, List.forall_mem_append]
    · intro whole one other hwhole hone hother
      rw [counts_of_summarize hwhole, counts_of_summarize hone, counts_of_summarize hother,
        countsOf_append]
  · intro records others summary hperm h
    have hothers : ∀ record ∈ others, IsCountable record := by
      intro record hmem
      exact exists_summarize_iff.mp ⟨_, h⟩ record (hperm.mem_iff.mpr hmem)
    obtain ⟨other, hother⟩ := exists_summarize_iff.mpr hothers
    refine ⟨other, hother, ?_⟩
    rw [counts_of_summarize hother, counts_of_summarize h, countsOf_perm hperm]

/-- Records of each kind: done, failed and not finished, waiting, failed in an older form. -/
def recordsOfEachKind : List Json := [
  .obj [("finished", .bool true), ("status", .str "success")],
  .obj [("finished", .bool false), ("status", .str "error"), ("mode", .str "manual")],
  .obj [("finished", .bool false), ("status", .str "waiting")],
  .obj [("finished", .bool true), ("mode", .str "error")]]

/-- One of the four records is counted as failed and as waiting. -/
theorem counts_of_each_kind : ∃ summary, summarize recordsOfEachKind = .ok summary ∧
    summary.counts = ⟨4, 1, 2, 2⟩ ∧
    summary.succeeded + summary.failed + summary.waiting = summary.total + 1 := by
  have hrun : summarize recordsOfEachKind = .ok (.ofTally ⟨4, 1, 2, 2, .zero false, 0⟩) := rfl
  obtain ⟨-, -, -, -, hbalance, -⟩ := counts_are_additive.1 _ _ hrun
  exact ⟨_, hrun, rfl, hbalance⟩

end Flowgate.Execution
