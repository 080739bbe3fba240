import Flowgate.Fault
import Flowgate.Number.Places
import Flowgate.Time.Timestamp

/-! # Execution statistics

Execution records are counted by outcome. The durations of finished executions
with both timestamps are averaged; a record without them only counts.
-/

namespace Flowgate

/-- The text that stands for failure in a record. -/
def Json.isErrorWord : Json → Bool
  | .str s => s == "error"
  | _ => false

namespace Execution

/-- An execution failed if its status says so, or its mode in older records. -/
def isFailed (record : Json) : Except Fault Bool := do
  if (← record.get "status").isErrorWord then return true
  return (← record.get "mode").isErrorWord

/-- A text with the mark `Z` of universal time spelled as an offset. -/
def spellOffset (s : String) : String :=
  String.ofList (s.toList.flatMap fun c => if c = 'Z' then "+00:00".toList else [c])

/-- The timestamp of a field. An unset or unreadable one is none; universal time
may be marked by a `Z`. -/
def timestamp? (v : Json) : Except Fault (Option Timestamp) :=
  if v.truthy then
    match v with
    | .str s => .ok (Timestamp.ofText? (spellOffset s))
    | v => .error (.noMember v.kind "replace")
  else .ok none

/-- The duration of a record, in microseconds, if it has both timestamps. -/
def duration? (record : Json) : Except Fault (Option Micros) := do
  let started ← timestamp? (← record.get "startedAt")
  let stopped ← timestamp? (← record.get "stoppedAt")
  match started, stopped with
  | some started, some stopped =>
      match stopped.since? started with
      | some micros => return some micros
      | none => .error .unlike
  | _, _ => return none

/-- What the records so far amount to. -/
structure Tally where
  total : Nat
  succeeded : Nat
  failed : Nat
  waiting : Nat
  /-- The seconds of all timed records, added in order. -/
  seconds : Binary64
  timed : Nat
  deriving DecidableEq

namespace Tally

/-- Before the first record. -/
def zero : Tally := ⟨0, 0, 0, 0, .zero false, 0⟩

/-- Count a record by its outcome. -/
def count (t : Tally) (finished failed : Bool) : Tally :=
  { t with
    total := t.total + 1
    succeeded := t.succeeded + (finished && !failed).toNat
    failed := t.failed + failed.toNat
    waiting := t.waiting + (!finished).toNat }

/-- Add the duration of a record, where it has one. -/
def time (t : Tally) : Option Micros → Tally
  | some micros =>
      { t with seconds := t.seconds.add (.ofIntRatio micros 1000000), timed := t.timed + 1 }
  | none => t

/-- Add a record. Only finished records are timed. -/
def record (t : Tally) (r : Json) : Except Fault Tally := do
  let finished := (← r.get "finished").truthy
  let t := t.count finished (← isFailed r)
  if finished then return t.time (← duration? r) else return t

/-- The average of the timed records, zero where there is none. -/
def average (t : Tally) : Binary64 :=
  if t.timed = 0 then .zero false else t.seconds.divNat t.timed

end Tally

/-- Counts and the average duration, and why they could not be had. -/
structure Summary where
  total : Nat
  succeeded : Nat
  failed : Nat
  waiting : Nat
  average : Binary64
  error : Option String

namespace Summary

/-- The summary of counted records. -/
def ofTally (t : Tally) : Summary :=
  ⟨t.total, t.succeeded, t.failed, t.waiting, t.average, none⟩

/-- Zeros, and the reason for them. -/
def unavailable (reason : String) : Summary := { ofTally .zero with error := some reason }

/-- The average in seconds, with two places. -/
def averageText (s : Summary) : String := s.average.toCents ++ "s"

/-- A summary as an object; the reason is left out where there is none. -/
def toJson (s : Summary) : Json :=
  .obj ([("total", .nat s.total), ("succeeded", .nat s.succeeded), ("failed", .nat s.failed),
    ("waiting", .nat s.waiting), ("avgExecutionTime", .str s.averageText)] ++
    (s.error.map fun reason => ("error", Json.str reason)).toList)

end Summary

/-- Summarize execution records in order. -/
def summarize (records : List Json) : Except Fault Summary :=
  (records.foldlM Tally.record .zero).map .ofTally

/-- Summarize the items of a value. -/
def summarizeItems (v : Json) : Except Fault Summary := do summarize (← v.items)

end Execution

end Flowgate
