import Flowgate.Text.Part
import Mathlib.Data.List.TakeDrop
import Mathlib.Data.List.TakeWhile

/-! # Where texts are cut

A text is cut at the first character of a set. What stands in front of such a character and
holds none of them goes to the first part.
-/

namespace Flowgate.Text

variable {p : Char → Bool} {cs more : List Char}

theorem cutAt_of_none (h : ∀ c ∈ cs, p c = false) : cutAt p cs = (cs, none) := by
  have hdrop : cs.dropWhile (!p ·) = [] := by
    rw [List.dropWhile_eq_nil_iff]
    exact fun c hc => by simp [h c hc]
  rw [cutAt, hdrop]

/-- What holds no mark stays in front of the cut. -/
theorem cutAt_append (h : ∀ c ∈ cs, p c = false) (more : List Char) :
    cutAt p (cs ++ more) = (cs ++ (cutAt p more).1, (cutAt p more).2) := by
  have hall : ∀ c ∈ cs, (!p c) = true := fun c hc => by simp [h c hc]
  unfold cutAt
  rw [List.dropWhile_append_of_pos hall, List.takeWhile_append_of_pos hall]
  cases more.dropWhile (!p ·) <;> rfl

theorem cutAt_snd_eq_none : (cutAt p cs).2 = none ↔ ∀ c ∈ cs, p c = false := by
  unfold cutAt
  split
  next hdrop => simpa using hdrop
  next c rest hdrop =>
    refine iff_of_false nofun fun h => ?_
    rw [List.dropWhile_eq_nil_iff.mpr fun c hc => by simp [h c hc]] at hdrop
    cases hdrop

theorem cutAt_of_snd (h : (cutAt p cs).2 = none) : cutAt p cs = (cs, none) :=
  cutAt_of_none (cutAt_snd_eq_none.mp h)

/-- Characters of a set are taken as far as they go. -/
theorem span_append (h : ∀ c ∈ cs, p c = true) (hmore : ∀ c ∈ more.head?, p c = false) :
    (cs ++ more).span p = (cs, more) := by
  rw [List.span_eq_takeWhile_dropWhile, List.takeWhile_append_of_pos h,
    List.dropWhile_append_of_pos h]
  cases more with
  | nil => simp
  | cons c rest => simp [hmore c rfl]

end Flowgate.Text
