import Flowgate.Proofs.Execution.Tally
import Flowgate.Proofs.Time.Stamp

/-! # Durations and instants

The instant of a stamp is the count of the microseconds that have passed in universal time, days
counted one by one by the calendar. The duration of a finished record between two stamps is the
count from the one instant to the other, wherever on earth they were written.
-/

namespace Flowgate.Stamp

open Calendar (Date)

/-- The microseconds that have passed in universal time since the first day of year one began. -/
def instant (s : Stamp) : Micros :=
  (((s.date.elapsed * 24 + s.hour) * 60 + s.minute - s.zone.minutes) * 60 + s.second) * 1000000 +
    s.fraction.value

/-- The days of a timestamp have the numbers of the calendar, which count from one. -/
theorem localMicros_timestamp {s : Stamp} (h : s.Exists) :
    s.timestamp.localMicros - s.zone.minutes * 60000000 = s.instant + 86400000000 := by
  have hday : s.date.ordinal = s.date.elapsed + 1 := Date.ordinal_eq_elapsed h.date
  simp only [Timestamp.localMicros, timestamp, hday, Clock.micros, clock, instant]
  unfold Micros
  omega

theorem since?_timestamp {started stopped : Stamp} (hstarted : started.Exists)
    (hstopped : stopped.Exists) :
    stopped.timestamp.since? started.timestamp = some (stopped.instant - started.instant) := by
  have hspan : stopped.timestamp.since? started.timestamp =
      some ((stopped.timestamp.localMicros - stopped.zone.minutes * 60000000) -
        (started.timestamp.localMicros - started.zone.minutes * 60000000)) := rfl
  rw [hspan, localMicros_timestamp hstarted, localMicros_timestamp hstopped]
  exact congrArg some (add_sub_add_right_eq_sub _ _ _)

end Flowgate.Stamp

namespace Flowgate.Execution

/-- A finished record whose start and whose end are told by two stamps of moments that exist. -/
structure IsStamped (started stopped : Stamp) (record : Json) : Prop where
  finished : IsFinished record
  start : record.field? "startedAt" = some (.str started.text)
  stop : record.field? "stoppedAt" = some (.str stopped.text)
  startExists : started.Exists
  stopExists : stopped.Exists

namespace IsStamped

variable {started stopped : Stamp} {record : Json}

theorem duration? (h : IsStamped started stopped record) :
    Execution.duration? record = .ok (some (stopped.instant - started.instant)) := by
  obtain ⟨v, hv, -⟩ := h.finished
  cases record with
  | obj fields =>
      have hstart : Json.getField "startedAt" fields = .str started.text :=
        congrArg (·.getD .null) h.start
      have hstop : Json.getField "stoppedAt" fields = .str stopped.text :=
        congrArg (·.getD .null) h.stop
      simp only [Execution.duration?, Json.get, hstart, hstop, Stamp.timestamp?_text,
        if_pos h.startExists, if_pos h.stopExists, Bind.bind, Except.bind,
        Stamp.since?_timestamp h.startExists h.stopExists]
      rfl
  | _ => cases hv

theorem counted (h : IsStamped started stopped record) :
    Execution.counted record = some (stopped.instant - started.instant) := by
  rw [Execution.counted, h.duration?]
  exact if_pos h.finished

/-- A tally times the record. -/
theorem tallied (h : IsStamped started stopped record) (t : Tally) :
    ∃ next, t.record record = .ok next ∧ next.timed = t.timed + 1 ∧
      next.seconds = t.seconds.add (.ofIntRatio (stopped.instant - started.instant) 1000000) := by
  have hcountable : IsCountable record := by
    obtain ⟨v, hv, -⟩ := h.finished
    cases record with
    | obj fields => exact ⟨⟨fields, rfl⟩, fun _ => ⟨_, h.duration?⟩⟩
    | _ => cases hv
  refine ⟨t.plus record, (t.record_eq_ok_iff record _).mpr ⟨hcountable, rfl⟩, ?_⟩
  rw [Tally.plus, h.counted]
  exact ⟨rfl, rfl⟩

end IsStamped

/-- A stamp is read field by field where it exists, and not at all where it does not. A finished
record between two stamps has the microseconds between their instants for its duration, and a
tally adds just these. Stamps of the same instants, whatever their offsets, give it the same
duration. -/
theorem duration_between_instants :
    (∀ s : Stamp,
      timestamp? (.str s.text) = .ok (if s.Exists then some s.timestamp else none)) ∧
    (∀ started stopped record, IsStamped started stopped record →
      duration? record = .ok (some (stopped.instant - started.instant)) ∧
      ∀ t : Tally, ∃ next, t.record record = .ok next ∧ next.timed = t.timed + 1 ∧
        next.seconds = t.seconds.add (.ofIntRatio (stopped.instant - started.instant) 1000000)) ∧
    ∀ started stopped record started' stopped' record', IsStamped started stopped record →
      IsStamped started' stopped' record' → started'.instant = started.instant →
      stopped'.instant = stopped.instant → duration? record' = duration? record := by
  refine ⟨Stamp.timestamp?_text, fun _ _ _ h => ⟨h.duration?, h.tallied⟩, ?_⟩
  intro started stopped record started' stopped' record' h h' hstarted hstopped
  rw [h.duration?, h'.duration?, hstarted, hstopped]

/-- Half an hour before midnight on a leap day, one hour behind universal time, and three
quarters of a second later; the start is told once more in universal time. -/
theorem duration_across_leap_day :
    let away : Stamp := ⟨2024, 2, 29, 23, 30, 0, .millis 500, .offset true 60⟩
    let home : Stamp := ⟨2024, 3, 1, 0, 30, 0, .micros 500000, .universal⟩
    let stopped : Stamp := ⟨2024, 3, 1, 0, 30, 1, .millis 250, .universal⟩
    let record (started : Stamp) : Json := .obj [("finished", .bool true),
      ("startedAt", .str started.text), ("stoppedAt", .str stopped.text)]
    away.text = "2024-02-29T23:30:00.500-01:00" ∧
      duration? (record away) = .ok (some 750000) ∧
      duration? (record home) = duration? (record away) := by
  intro away home stopped record
  have haway : away.Exists := by decide
  have hhome : home.Exists := by decide
  have hstopped : stopped.Exists := by decide
  have hspan : stopped.instant - away.instant = 750000 := Option.some.inj <|
    (Stamp.since?_timestamp haway hstopped).symm.trans (by decide)
  have hsame : home.instant - away.instant = 0 := Option.some.inj <|
    (Stamp.since?_timestamp haway hhome).symm.trans (by decide)
  have hstamped (started : Stamp) (h : started.Exists) :
      IsStamped started stopped (record started) :=
    ⟨⟨.bool true, rfl, rfl⟩, rfl, rfl, h, hstopped⟩
  refine ⟨by decide, ?_, ?_⟩
  · rw [← hspan]
    exact (duration_between_instants.2.1 away stopped _ (hstamped away haway)).1
  · exact duration_between_instants.2.2 away stopped _ home stopped _ (hstamped away haway)
      (hstamped home hhome) (Int.sub_eq_zero.mp hsame) rfl

end Flowgate.Execution
