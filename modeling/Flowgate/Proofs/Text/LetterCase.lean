import Flowgate.Proofs.Text.Lowercase

/-! # The case of ASCII letters

The small and the capital letter of ASCII become the same in lower case, and they are alike as
neighbours of a capital sigma: both have case, and neither is ignored. So texts that differ in no
more than the case of such letters become the same, whatever else is in them.
-/

namespace Flowgate.Text

variable {s t : String}

/-- Two texts that differ in no more than the case of letters in ASCII. -/
def SameLetters (s t : String) : Prop := s.toList.map Char.toLower = t.toList.map Char.toLower

instance (s t : String) : Decidable (SameLetters s t) := inferInstanceAs (Decidable (_ = _))

/-! ## Characters -/

theorem toLower_of_le {c : Char} (h : 128 ≤ c.toNat) : c.toLower = c := by
  unfold Char.toLower
  rw [dif_neg]
  rintro ⟨-, hle⟩
  have hcode : c.toNat ≤ 'Z'.toNat := UInt32.le_iff_toNat_le.mp hle
  exact absurd (h.trans hcode) (by decide)

/-- Only the capitals in ASCII have another small letter there. -/
theorem toLower_cases (c : Char) :
    c.toLower = c ∨ ∃ n < 26, c = Char.ofNat (0x41 + n) ∧ c.toLower = Char.ofNat (0x61 + n) := by
  have hascii : ∀ code < 128, (Char.ofNat code).toLower = Char.ofNat code ∨ ∃ n < 26,
      Char.ofNat code = Char.ofNat (0x41 + n) ∧
        (Char.ofNat code).toLower = Char.ofNat (0x61 + n) := by
    decide +kernel
  by_cases hc : c.toNat < 128
  · simpa only [Char.ofNat_toNat] using hascii c.toNat hc
  · exact .inl (toLower_of_le (Nat.le_of_not_lt hc))

/-- What is the same for the two forms of each letter is so for all characters. -/
theorem apply_toLower {α : Type} {f : Char → α}
    (hletters : ∀ n < 26, f (Char.ofNat (0x61 + n)) = f (Char.ofNat (0x41 + n))) (c : Char) :
    f c.toLower = f c := by
  rcases toLower_cases c with hsame | ⟨n, hn, hc, hlower⟩
  · rw [hsame]
  · rw [hlower, hc]
    exact hletters n hn

theorem lowerChar_toLower (c : Char) : lowerChar c.toLower = lowerChar c :=
  apply_toLower (by decide +kernel) c

theorem isCased_toLower (c : Char) : isCased c.toLower = isCased c :=
  apply_toLower (by decide +kernel) c

/-- The letters in ASCII are told by the ends of the ranges, none of which reaches among them. -/
theorem isCaseIgnorable_letter {code : Nat}
    (h : 0x41 ≤ code ∧ code ≤ 0x5a ∨ 0x61 ≤ code ∧ code ≤ 0x7a) :
    isCaseIgnorable (Char.ofNat code) = false := by
  have hranges : ∀ range ∈ caseIgnorableRanges,
      range.2 < 0x41 ∨ 0x5a < range.1 ∧ range.2 < 0x61 ∨ 0x7a < range.1 := by
    decide +kernel
  have hascii : ∀ code < 128, (Char.ofNat code).toNat = code := by decide
  have hcode : (Char.ofNat code).toNat = code := hascii code (by omega)
  rw [isCaseIgnorable, inRanges, List.any_eq_false]
  rintro ⟨first, last⟩ hrange
  have hplace := hranges _ hrange
  simp only [hcode, Bool.and_eq_true, decide_eq_true_eq]
  omega

theorem isCaseIgnorable_toLower (c : Char) : isCaseIgnorable c.toLower = isCaseIgnorable c := by
  refine apply_toLower ?_ c
  intro n hn
  rw [isCaseIgnorable_letter (by omega), isCaseIgnorable_letter (by omega)]

theorem toLower_eq_sigma_iff (c : Char) : c.toLower = 'Σ' ↔ c = 'Σ' := by
  have hsigma := @apply_toLower Bool (fun d => d = 'Σ') (by decide +kernel) c
  simpa using hsigma

/-! ## Texts -/

theorem meetsCased_map_toLower (cs : List Char) :
    meetsCased (cs.map Char.toLower) = meetsCased cs := by
  induction cs with
  | nil => rfl
  | cons c rest ih =>
      by_cases hc : isCaseIgnorable c
      · simpa [meetsCased, isCaseIgnorable_toLower, hc] using ih
      · simp [meetsCased, isCaseIgnorable_toLower, isCased_toLower, hc]

/-- A text becomes the same in lower case as with small letters for the capitals in ASCII. -/
theorem lowerFrom_map_toLower (before cs : List Char) :
    lowerFrom (before.map Char.toLower) (cs.map Char.toLower) = lowerFrom before cs := by
  induction cs generalizing before with
  | nil => rfl
  | cons c rest ih =>
      have hrest := ih (c :: before)
      rw [List.map_cons] at hrest
      simp only [List.map_cons, lowerFrom, toLower_eq_sigma_iff, meetsCased_map_toLower,
        lowerChar_toLower, hrest]

theorem lowercase_eq_of_sameLetters (h : SameLetters s t) : lowercase s = lowercase t := by
  have hlower : lowerFrom [] s.toList = lowerFrom [] t.toList := by
    calc lowerFrom [] s.toList
      _ = lowerFrom [] (s.toList.map Char.toLower) := (lowerFrom_map_toLower [] s.toList).symm
      _ = lowerFrom [] (t.toList.map Char.toLower) := by rw [h]
      _ = lowerFrom [] t.toList := lowerFrom_map_toLower [] t.toList
  rw [lowercase, lowercase, hlower]

theorem eq_empty_iff_of_sameLetters (h : SameLetters s t) : s = "" ↔ t = "" := by
  rw [← String.toList_eq_nil_iff, ← String.toList_eq_nil_iff]
  calc s.toList = []
    _ ↔ s.toList.map Char.toLower = [] := List.map_eq_nil_iff.symm
    _ ↔ t.toList.map Char.toLower = [] := by rw [h]
    _ ↔ t.toList = [] := List.map_eq_nil_iff

end Flowgate.Text
