import Flowgate.Time.Timestamp
import Mathlib.Data.List.TakeWhile

/-! # Timestamps with an offset

A sign that begins an offset, standing behind the date, gives a timestamp with an offset if
the text is read at all. Two timestamps can be compared if both have an offset, or none has.
-/

namespace Flowgate.Timestamp

/-- However a date is written, it takes no more than ten signs. -/
theorem dateLength_le (cs : List Char) : dateLength cs ≤ 10 := by
  unfold dateLength
  grind

theorem offset_of_readTime? {cs : List Char} {clock : Clock} {offset : Option Micros}
    (h : readTime? cs = some (clock, offset)) (hmark : ∃ c ∈ cs, isOffsetMark c = true) :
    offset.isSome = true := by
  unfold readTime? at h
  split at h
  next hnone =>
    obtain ⟨c, hc, hmark⟩ := hmark
    have hall := List.dropWhile_eq_nil_iff.mp hnone c hc
    rw [hmark] at hall
    cases hall
  next mark rest hsome =>
    simp only [Option.bind_eq_bind, Option.bind_eq_some_iff] at h
    obtain ⟨⟨_, _⟩, -, _, -, hpair⟩ := h
    cases hpair
    rfl

/-- A mark is no octet that continues a character. -/
theorem mem_dropWhile_of_mark {c : Char} {cs : List Char} (hc : c ∈ cs)
    (hmark : isOffsetMark c = true) : c ∈ cs.dropWhile isContinuation := by
  rw [← List.takeWhile_append_dropWhile (p := isContinuation) (l := cs)] at hc
  rcases List.mem_append.mp hc with htaken | hleft
  · have hcontinues := List.mem_takeWhile_imp htaken
    simp only [isOffsetMark, Bool.or_eq_true, beq_iff_eq] at hmark
    rcases hmark with rfl | rfl <;> exact absurd hcontinues (by decide)
  · exact hleft

/-- The date and the sign behind it are no more than eleven octets, so a mark beyond them
stands in the time. -/
theorem offset_of_ofText? {s : String} {t : Timestamp} (h : ofText? s = some t)
    (hmark : ∃ c ∈ (octets s).drop 11, isOffsetMark c = true) : t.offset.isSome = true := by
  obtain ⟨c, hc, hmark⟩ := hmark
  -- one sign, whichever it is, stands between the date and the time
  have hbehind : c ∈ ((octets s).drop (dateLength (octets s))).tail := by
    rw [List.tail_drop]
    refine List.mem_of_mem_drop (i := 10 - dateLength (octets s)) ?_
    rw [List.drop_drop]
    have hplace := dateLength_le (octets s)
    rwa [show dateLength (octets s) + 1 + (10 - dateLength (octets s)) = 11 by omega]
  unfold ofText? at h
  split at h
  next => cases h
  next =>
    simp only [Option.bind_eq_bind, Option.bind_eq_some_iff] at h
    obtain ⟨date, -, h⟩ := h
    split at h
    next hnone =>
      rw [hnone] at hbehind
      cases hbehind
    next between time hsome =>
      rw [hsome, List.tail_cons] at hbehind
      obtain ⟨⟨clock, offset⟩, htime, h⟩ := Option.bind_eq_some_iff.mp h
      have hoffset := offset_of_readTime? htime ⟨c, mem_dropWhile_of_mark hbehind hmark, hmark⟩
      split at h
      · cases h
        exact hoffset
      · cases h

/-- There is a span of time between two timestamps with an offset, and between two without. -/
theorem isSome_since?_iff {stopped started : Timestamp} :
    (stopped.since? started).isSome = true ↔ started.offset.isSome = stopped.offset.isSome := by
  unfold since?
  cases stopped.offset <;> cases started.offset <;> simp

end Flowgate.Timestamp
