import Flowgate.Proofs.Execution.Moments

/-! # Execution records as the engine writes them

The engine writes moments in universal time, to the millisecond and with a `Z` at the end.
Records with such moments, or with none, can always be summarized.
-/

namespace Flowgate

namespace Execution

open Listing

/-- The form of a moment before its `Z`; a zero stands for a digit. -/
def momentForm : List Char := "0000-00-00T00:00:00.000".toList

/-- A text in the form in which the engine writes moments. -/
def IsMoment (s : String) : Prop := ∃ front, s.toList = front ++ ['Z'] ∧
  List.Forall₂ (fun place c => if place = '0' then c.isDigit = true else c = place)
    momentForm front

/-- An object whose start and whose end are moments or null. -/
def IsRecord : Json → Prop
  | .obj fields => ∀ key ∈ ["startedAt", "stoppedAt"],
      Json.getField key fields = .null ∨
        ∃ s, Json.getField key fields = .str s ∧ IsMoment s
  | _ => False

/-! ## Moments -/

theorem octets_append (first second : List Char) :
    Timestamp.octets (String.ofList (first ++ second)) =
      Timestamp.octets (String.ofList first) ++ Timestamp.octets (String.ofList second) := by
  simp only [Timestamp.octets, Utf8.encode, String.toList_ofList, List.flatMap_append,
    List.map_append]

theorem length_le_octets (cs : List Char) :
    cs.length ≤ (Timestamp.octets (String.ofList cs)).length := by
  rw [Timestamp.octets, Utf8.encode, String.toList_ofList, List.length_map]
  refine length_le_flatMap (fun c => ?_) cs
  rw [String.length_utf8EncodeChar]
  exact c.utf8Size_pos

/-- If a moment is read at all, its timestamp has an offset. -/
theorem offset_of_isMoment {s : String} {t : Timestamp} (hs : IsMoment s)
    (ht : Timestamp.ofText? (spellOffset s) = some t) : t.offset.isSome = true := by
  obtain ⟨front, hsplit, hform⟩ := hs
  refine Timestamp.offset_of_ofText? ht ⟨'+', ?_, rfl⟩
  rw [spellOffset, hsplit, List.flatMap_append, octets_append]
  -- spelling out an offset and encoding only make a text longer
  have hlong : 11 ≤ (Timestamp.octets (String.ofList
      (front.flatMap fun c => if c = 'Z' then "+00:00".toList else [c]))).length := by
    calc 11
      _ ≤ momentForm.length := by decide
      _ = front.length := hform.length_eq
      _ ≤ _ := length_le_flatMap (fun c => by split <;> simp) front
      _ ≤ _ := length_le_octets _
  rw [List.drop_append_of_le_length hlong]
  exact List.mem_append_right _ (by decide)

/-! ## Records -/

variable {fields : List (String × Json)} {records : List Json}

theorem offset_of_isRecord {key : String} (h : IsRecord (.obj fields))
    (hkey : key ∈ ["startedAt", "stoppedAt"]) :
    IsTextOrUnset (fieldOf key (.obj fields)) ∧
      ∀ t ∈ momentOf (fieldOf key (.obj fields)), t.offset.isSome = true := by
  change IsTextOrUnset (Json.getField key fields) ∧ ∀ t ∈ momentOf (Json.getField key fields), _
  rcases h key hkey with hnull | ⟨s, htext, hs⟩
  · rw [hnull]
    exact ⟨nofun, nofun⟩
  · rw [htext]
    exact ⟨fun _ => ⟨s, rfl⟩, fun t ht => offset_of_isMoment hs ht⟩

/-- Moments of universal time can be compared. -/
theorem isTimeable_of_isRecord (h : IsRecord (.obj fields)) : IsTimeable (.obj fields) := by
  obtain ⟨hstarted, hfrom⟩ := @offset_of_isRecord fields "startedAt" h (by decide)
  obtain ⟨hstopped, hto⟩ := @offset_of_isRecord fields "stoppedAt" h (by decide)
  refine ⟨hstarted, hstopped, ?_⟩
  intro first hfirst last hlast
  rw [hfrom first hfirst, hto last hlast]

/-- Whatever records the engine writes, they can be summarized. -/
theorem exists_summarize (h : ∀ record ∈ records, IsRecord record) :
    ∃ summary, summarize records = .ok summary := by
  apply exists_summarize_iff.mpr
  intro record hmem
  have hrecord := h record hmem
  cases record with
  | obj fields => exact isCountable_obj_iff.mpr fun _ => isTimeable_of_isRecord hrecord
  | _ => exact hrecord.elim

end Execution

end Flowgate
