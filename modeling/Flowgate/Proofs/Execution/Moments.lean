import Flowgate.Proofs.Execution.Counts
import Flowgate.Proofs.Json.Fields
import Flowgate.Proofs.Listing.Matches
import Flowgate.Proofs.Time.Offset

/-! # Records with odd moments

The start and the end of a record do not change what it is counted for. They are passed over
where they are unset or cannot be read, and of records that are not finished they are not looked
at. A finished record is refused, and all others with it, for a start or an end that is set and
no text, and for moments of which just one has an offset.
-/

namespace Flowgate.Execution

open Listing

variable {record v : Json} {records : List Json} {fault : Fault} {fields : List (String × Json)}

/-! ## Durations -/

/-- The moment that a value tells. What is no text tells none, nor does a text that cannot be
read. -/
def momentOf : Json → Option Timestamp
  | .str s => Timestamp.ofText? (spellOffset s)
  | _ => none

theorem timestamp?_eq_ok_iff {moment : Option Timestamp} :
    timestamp? v = .ok moment ↔ IsTextOrUnset v ∧ momentOf v = moment := by
  unfold IsTextOrUnset timestamp?
  cases v with
  | str s =>
      by_cases hs : s = ""
      · have hnone : Timestamp.ofText? (spellOffset "") = none := by decide
        simp [Json.truthy, momentOf, hs, hnone]
      · simp [Json.truthy, momentOf, hs]
  | _ => split <;> simp_all [momentOf]

theorem fault_of_timestamp? (h : timestamp? v = .error fault) :
    fault = .noMember v.kind "replace" := by
  unfold timestamp? at h
  split at h
  · split at h
    · cases h
    · cases h
      rfl
  · cases h

/-- The time from one moment to another, where both are told. -/
def between (started stopped : Option Timestamp) : Except Fault (Option Micros) :=
  match started, stopped with
  | some first, some last =>
      match last.since? first with
      | some micros => .ok (some micros)
      | none => .error .unlike
  | _, _ => .ok none

theorem exists_between_iff {started stopped : Option Timestamp} :
    (∃ duration, between started stopped = .ok duration) ↔
      ∀ first ∈ started, ∀ last ∈ stopped, first.offset.isSome = last.offset.isSome := by
  cases started with
  | none => simp [between]
  | some first =>
      cases stopped with
      | none => simp [between]
      | some last =>
          simp only [Option.mem_some_iff, forall_eq', ← Timestamp.isSome_since?_iff, between]
          cases last.since? first <;> simp

theorem fault_of_between {started stopped : Option Timestamp}
    (h : between started stopped = .error fault) : fault = .unlike := by
  unfold between at h
  split at h
  · split at h
    · cases h
    · cases h
      rfl
  · cases h

theorem duration?_obj (fields : List (String × Json)) :
    duration? (.obj fields) = (do
      let started ← timestamp? (Json.getField "startedAt" fields)
      let stopped ← timestamp? (Json.getField "stoppedAt" fields)
      between started stopped) :=
  rfl

/-- A record has a duration, or none, where its start and its end are texts or unset and the time
between them can be told. -/
theorem duration?_eq_ok_iff {duration : Option Micros} :
    duration? (.obj fields) = .ok duration ↔
      IsTextOrUnset (Json.getField "startedAt" fields) ∧
      IsTextOrUnset (Json.getField "stoppedAt" fields) ∧
      between (momentOf (Json.getField "startedAt" fields))
        (momentOf (Json.getField "stoppedAt" fields)) = .ok duration := by
  simp only [duration?_obj, bind_eq_ok, timestamp?_eq_ok_iff, and_assoc, exists_and_left,
    exists_eq_left']

theorem fault_of_duration? (h : duration? (.obj fields) = .error fault) :
    fault = .unlike ∨ ∃ kind, fault = .noMember kind "replace" := by
  rw [duration?_obj, bind_eq_error] at h
  rcases h with hstarted | ⟨started, -, h⟩
  · exact .inr ⟨_, fault_of_timestamp? hstarted⟩
  · rcases bind_eq_error.mp h with hstopped | ⟨stopped, -, hbetween⟩
    · exact .inr ⟨_, fault_of_timestamp? hstopped⟩
    · exact .inl (fault_of_between hbetween)

/-! ## Records -/

/-- A start and an end that a duration can be taken of, or that are passed over: each is a text
or unset, and if both tell moments, both of these have an offset or none has. -/
structure IsTimeable (record : Json) : Prop where
  started : IsTextOrUnset (fieldOf "startedAt" record)
  stopped : IsTextOrUnset (fieldOf "stoppedAt" record)
  alike : ∀ first ∈ momentOf (fieldOf "startedAt" record),
    ∀ last ∈ momentOf (fieldOf "stoppedAt" record), first.offset.isSome = last.offset.isSome

theorem isCountable_obj_iff :
    IsCountable (.obj fields) ↔ (IsFinished (.obj fields) → IsTimeable (.obj fields)) := by
  rw [IsCountable, and_iff_right ⟨fields, rfl⟩]
  apply imp_congr_right
  intro _
  simp only [duration?_eq_ok_iff, exists_and_left, exists_between_iff]
  constructor
  · rintro ⟨hstarted, hstopped, halike⟩
    exact ⟨hstarted, hstopped, halike⟩
  · rintro ⟨hstarted, hstopped, halike⟩
    exact ⟨hstarted, hstopped, halike⟩

theorem fault_of_record {t : Tally} (h : t.record (.obj fields) = .error fault) :
    fault = .unlike ∨ ∃ kind, fault = .noMember kind "replace" := by
  simp only [Tally.record, Json.get, isFailed_obj, Bind.bind, Except.bind] at h
  split at h
  · refine fault_of_duration? (?_ : duration? (.obj fields) = .error fault)
    cases hduration : duration? (.obj fields) with
    | error other =>
        rw [hduration] at h
        cases h
        rfl
    | ok duration =>
        rw [hduration] at h
        cases h
  · cases h

/-! ## Records without moments -/

/-- A record without its start and its end. -/
def untimed (record : Json) : Json := record.without ["startedAt", "stoppedAt"]

theorem field?_untimed {key : String} (h : key ∉ ["startedAt", "stoppedAt"]) (record : Json) :
    (untimed record).field? key = record.field? key := by
  rw [untimed, Json.field?_without, if_neg h]

theorem isFinished_untimed (record : Json) : IsFinished (untimed record) ↔ IsFinished record := by
  have hfinished : "finished" ∉ ["startedAt", "stoppedAt"] := by decide
  simp only [IsFinished, field?_untimed hfinished]

theorem hasFailed_untimed (record : Json) : HasFailed (untimed record) ↔ HasFailed record := by
  have hstatus : "status" ∉ ["startedAt", "stoppedAt"] := by decide
  have hmode : "mode" ∉ ["startedAt", "stoppedAt"] := by decide
  simp only [HasFailed, field?_untimed hstatus, field?_untimed hmode]

theorem countsOf_untimed (records : List Json) :
    countsOf (records.map untimed) = countsOf records := by
  simp only [countsOf, List.length_map, List.countP_map, Function.comp_def, isFinished_untimed,
    hasFailed_untimed]

theorem isTimeable_untimed (record : Json) : IsTimeable (untimed record) := by
  have hunset : ∀ key ∈ ["startedAt", "stoppedAt"], fieldOf key (untimed record) = .null := by
    intro key hkey
    rw [fieldOf, untimed, Json.field?_without, if_pos hkey]
    rfl
  have hstarted := hunset "startedAt" (by decide)
  have hstopped := hunset "stoppedAt" (by decide)
  refine ⟨?_, ?_, ?_⟩
  · simp [hstarted, IsTextOrUnset, Json.truthy]
  · simp [hstopped, IsTextOrUnset, Json.truthy]
  · simp [hstarted, momentOf]

/-- Records without moments can always be summarized. The records themselves can be just if every
finished one of them has a start and an end that a duration can be taken of or that are passed
over, and then the counts are the same. -/
theorem summary_by_moments (h : ∀ record ∈ records, ∃ fields, record = .obj fields) :
    ∃ bare, summarize (records.map untimed) = .ok bare ∧
      ((∀ record ∈ records, IsFinished record → IsTimeable record) →
        ∃ summary, summarize records = .ok summary ∧ summary.counts = bare.counts) ∧
      ∀ record ∈ records, IsFinished record → ¬ IsTimeable record →
        ∃ fault, summarize records = .error fault ∧
          (fault = .unlike ∨ ∃ kind, fault = .noMember kind "replace") := by
  have hbare : ∀ record ∈ records.map untimed, IsCountable record := by
    intro bare hmem
    obtain ⟨record, hrecord, rfl⟩ := List.mem_map.mp hmem
    obtain ⟨fields, rfl⟩ := h record hrecord
    exact isCountable_obj_iff.mpr fun _ => isTimeable_untimed (.obj fields)
  obtain ⟨bare, hsummary⟩ := exists_summarize_iff.mpr hbare
  refine ⟨bare, hsummary, ?_, ?_⟩
  · intro htimeable
    have hcountable : ∀ record ∈ records, IsCountable record := by
      intro record hmem
      obtain ⟨fields, rfl⟩ := h record hmem
      exact isCountable_obj_iff.mpr (htimeable _ hmem)
    obtain ⟨summary, hrun⟩ := exists_summarize_iff.mpr hcountable
    refine ⟨summary, hrun, ?_⟩
    rw [counts_of_summarize hrun, counts_of_summarize hsummary, countsOf_untimed]
  · intro record hmem hfinished hodd
    obtain ⟨fields, rfl⟩ := h record hmem
    cases hrun : summarize records with
    | ok summary =>
        have hcountable := exists_summarize_iff.mp ⟨summary, hrun⟩ _ hmem
        exact absurd (isCountable_obj_iff.mp hcountable hfinished) hodd
    | error fault =>
        refine ⟨fault, rfl, ?_⟩
        obtain ⟨other, hother, t, ht⟩ := exists_of_summarize_eq_error hrun
        obtain ⟨fields, rfl⟩ := h other hother
        exact fault_of_record ht

/-- A start that cannot be read is passed over, and so is a number in a record that waits. -/
theorem summary_of_odd_moments :
    let done : Json := .obj [("finished", .bool true), ("startedAt", .str "soon"),
      ("stoppedAt", .str "2024-05-01T10:00:02Z")]
    let waiting : Json := .obj [("finished", .bool false), ("startedAt", .int 5)]
    ∃ summary, summarize [done, waiting] = .ok summary ∧ summary.counts = ⟨2, 1, 0, 1⟩ := by
  intro done waiting
  have hobjects : ∀ record ∈ [done, waiting], ∃ fields, record = .obj fields := by
    simp [done, waiting]
  have htimeable : ∀ record ∈ [done, waiting], IsFinished record → IsTimeable record := by
    simp only [List.forall_mem_cons]
    refine ⟨?_, ?_, nofun⟩
    · intro _
      have hunread : momentOf (fieldOf "startedAt" done) = none := by decide
      refine ⟨fun _ => ⟨_, rfl⟩, fun _ => ⟨_, rfl⟩, ?_⟩
      rw [hunread]
      exact nofun
    · intro hfinished
      exact absurd hfinished (by decide)
  obtain ⟨bare, hbare, hsame, -⟩ := summary_by_moments hobjects
  obtain ⟨summary, hsummary, hcounts⟩ := hsame htimeable
  refine ⟨summary, hsummary, ?_⟩
  rw [hcounts, counts_of_summarize hbare]
  decide

/-- A number for the start is a fault, and so are moments of which one has an offset. -/
theorem summary_fails_on_odd_moments :
    summarize [.obj [("finished", .bool true), ("startedAt", .int 5)]] =
        .error (.noMember .int "replace") ∧
      summarize [.obj [("finished", .bool true), ("startedAt", .str "2024-05-01T10:00:00"),
        ("stoppedAt", .str "2024-05-01T10:00:02Z")]] = .error .unlike :=
  ⟨rfl, rfl⟩

end Flowgate.Execution
