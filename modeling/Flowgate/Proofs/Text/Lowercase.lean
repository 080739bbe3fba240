import Flowgate.Text.Lowercase
import Mathlib.Data.List.Infix

/-! # Lower case within a text

What a part of a text becomes in lower case hangs on what is written around it by the capital
sigma alone, which tells the end of a word. A capital sigma is settled within a text where the
text has the neighbours that decide; a text of which each one is settled becomes the same
wherever it is written, and every other text becomes something else beside some letter.
-/

namespace Flowgate.Text

variable {before after other others xs ys : List Char} {c : Char}

/-! ## Lower-casing a part -/

/-- A capital sigma between two texts ends a word. The text before is told from its end. -/
def endsWord (before after : List Char) : Bool := meetsCased before && !meetsCased after

/-- The lower case of a character between two texts. -/
def lowerAt (before after : List Char) (c : Char) : List Char :=
  if c = 'Σ' then [if endsWord before after then 'ς' else 'σ'] else lowerChar c

/-- The lower case of a part of a text, with what is before it and after it. -/
def lowerWithin (before after : List Char) : List Char → List Char
  | [] => []
  | c :: rest => lowerAt before (rest ++ after) c ++ lowerWithin (c :: before) after rest

theorem lowerFrom_eq_lowerWithin (before cs : List Char) :
    lowerFrom before cs = lowerWithin before [] cs := by
  induction cs generalizing before with
  | nil => rfl
  | cons c rest ih => simp [lowerFrom, lowerWithin, lowerAt, endsWord, ih]

theorem lowerWithin_append (before after xs ys : List Char) :
    lowerWithin before after (xs ++ ys) =
      lowerWithin before (ys ++ after) xs ++ lowerWithin (xs.reverse ++ before) after ys := by
  induction xs generalizing before with
  | nil => rfl
  | cons c rest ih => simp [lowerWithin, ih]

/-- A part of a text has in it the lower case of the part there. -/
theorem lowerFrom_append_append (front part back : List Char) :
    lowerFrom [] (front ++ part ++ back) =
      lowerWithin [] (part ++ back) front ++ lowerWithin front.reverse back part ++
        lowerWithin (part.reverse ++ front.reverse) [] back := by
  simp [lowerFrom_eq_lowerWithin, lowerWithin_append]

/-! ## Texts around a part -/

theorem length_lowerAt (before after other others : List Char) (c : Char) :
    (lowerAt before after c).length = (lowerAt other others c).length := by
  unfold lowerAt
  split <;> rfl

theorem lowerAt_eq_iff :
    lowerAt before after c = lowerAt other others c ↔
      (c = 'Σ' → endsWord before after = endsWord other others) := by
  unfold lowerAt
  by_cases hc : c = 'Σ'
  · cases endsWord before after <;> cases endsWord other others <;> simp [hc]
  · simp [hc]

theorem length_lowerWithin (before after other others cs : List Char) :
    (lowerWithin before after cs).length = (lowerWithin other others cs).length := by
  induction cs generalizing before other with
  | nil => rfl
  | cons c rest ih =>
      simp only [lowerWithin, List.length_append]
      rw [length_lowerAt before _ other (rest ++ others) c, ih]

/-- A part becomes the same within two texts if each capital sigma in it ends a word in both of
them or in none. -/
theorem lowerWithin_eq_iff {cs : List Char} :
    lowerWithin before after cs = lowerWithin other others cs ↔
      ∀ front back, cs = front ++ 'Σ' :: back →
        endsWord (front.reverse ++ before) (back ++ after) =
          endsWord (front.reverse ++ other) (back ++ others) := by
  induction cs generalizing before other with
  | nil => simp [lowerWithin]
  | cons c rest ih =>
      -- a character becomes as long everywhere, so that the two can be compared one by one
      have hsplit : lowerWithin before after (c :: rest) = lowerWithin other others (c :: rest) ↔
          lowerAt before (rest ++ after) c = lowerAt other (rest ++ others) c ∧
            lowerWithin (c :: before) after rest = lowerWithin (c :: other) others rest := by
        simp only [lowerWithin]
        constructor
        · intro h
          exact List.append_inj h (length_lowerAt _ _ _ _ c)
        · rintro ⟨hhead, hrest⟩
          rw [hhead, hrest]
      rw [hsplit, lowerAt_eq_iff, ih]
      constructor
      · rintro ⟨hhead, hrest⟩ front back hcs
        cases front with
        | nil =>
            obtain ⟨rfl, rfl⟩ := List.cons.inj hcs
            exact hhead rfl
        | cons d front =>
            obtain ⟨rfl, rfl⟩ := List.cons.inj hcs
            simpa using hrest front back rfl
      · intro h
        constructor
        · rintro rfl
          exact h [] rest rfl
        · rintro front back rfl
          simpa using h (c :: front) back rfl

/-! ## Neighbours -/

/-- The first character that is not ignored for casing. -/
def neighbour? (cs : List Char) : Option Char := cs.find? (!isCaseIgnorable ·)

theorem meetsCased_eq (cs : List Char) : meetsCased cs = (neighbour? cs).any isCased := by
  induction cs with
  | nil => rfl
  | cons c rest ih =>
      unfold meetsCased neighbour? at *
      by_cases hc : isCaseIgnorable c <;> simp_all

theorem neighbour?_append (xs ys : List Char) :
    neighbour? (xs ++ ys) = (neighbour? xs).or (neighbour? ys) :=
  List.find?_append

/-- Whether a capital sigma between two texts ends a word is settled by them, whatever is written
around them: no letter is in front of it, or one is behind it, or both neighbours are there. -/
def isSettled (before after : List Char) : Bool :=
  (neighbour? before).any (!isCased ·) || (neighbour? after).any isCased ||
    (neighbour? before).isSome && (neighbour? after).isSome

theorem endsWord_of_isSettled (h : isSettled before after = true) (front back : List Char) :
    endsWord (before ++ front) (after ++ back) = endsWord before after := by
  simp only [endsWord, meetsCased_eq, neighbour?_append]
  cases hbefore : neighbour? before with
  | none =>
      cases hafter : neighbour? after with
      | none => simp [isSettled, hbefore, hafter] at h
      | some d =>
          have hcased : isCased d = true := by simpa [isSettled, hbefore, hafter] using h
          simp [hcased]
  | some c =>
      cases hafter : neighbour? after with
      | none =>
          have huncased : isCased c = false := by simpa [isSettled, hbefore, hafter] using h
          simp [huncased]
      | some d => rfl

/-- Where a capital sigma is not settled, it tells whether a letter is written in front of the
text, or whether one is written behind it. Nothing but ignored characters is then between. -/
theorem endsWord_of_not_isSettled (h : isSettled before after = false) :
    (neighbour? before = none ∧ endsWord (before ++ ['a']) after ≠ endsWord before after) ∨
      (neighbour? after = none ∧ endsWord before (after ++ ['a']) ≠ endsWord before after) := by
  have hletter : neighbour? ['a'] = some 'a' := by decide +kernel
  have hcased : isCased 'a' = true := by decide
  simp only [endsWord, meetsCased_eq, neighbour?_append]
  cases hbefore : neighbour? before with
  | none =>
      left
      cases hafter : neighbour? after with
      | none => simp [hletter, hcased]
      | some d =>
          have huncased : isCased d = false := by simpa [isSettled, hbefore, hafter] using h
          simp [hletter, hcased, huncased]
  | some c =>
      right
      cases hafter : neighbour? after with
      | none =>
          have hbehind : isCased c = true := by simpa [isSettled, hbefore, hafter] using h
          simp [hletter, hcased, hbehind]
      | some d => simp [isSettled, hbefore, hafter] at h

/-! ## The letter that tells -/

theorem eq_of_ofNat_eq {n : Nat} (h : Char.ofNat n = 'a') : n = 0x61 := by
  by_cases hvalid : n.isValidChar
  · rw [Char.ofNat, dif_pos hvalid] at h
    exact congrArg Char.toNat h
  · rw [Char.ofNat, dif_neg hvalid] at h
    exact absurd (congrArg Char.val h) (by decide)

/-- No other character than the letter and its capital becomes this letter. -/
theorem eq_of_mem_lowerChar (h : 'a' ∈ lowerChar c) : c = 'a' ∨ c = 'A' := by
  have hascii : ∀ n < 128, (Char.ofNat n).toLower = 'a' →
      Char.ofNat n = 'a' ∨ Char.ofNat n = 'A' := by decide
  -- outside of ASCII every run moves its characters to others behind the letter
  have hruns : ∀ run ∈ lowercaseRuns, 128 ≤ run.last → 0x61 < run.first + run.offset := by
    decide +kernel
  unfold lowerChar at h
  split at h
  next hlow =>
    have hlower := hascii c.toNat hlow
    rw [Char.ofNat_toNat] at hlower
    exact hlower (List.mem_singleton.mp h).symm
  next hhigh =>
    split at h
    next => simp at h
    next =>
      split at h
      next run hrun =>
        have hcovers := List.find?_some hrun
        simp only [CaseRun.covers, Bool.and_eq_true, decide_eq_true_eq] at hcovers
        have hbehind := hruns run (List.mem_of_find?_eq_some hrun) (by omega)
        have hmoved := eq_of_ofNat_eq (List.mem_singleton.mp h).symm
        omega
      next => exact .inl (List.mem_singleton.mp h).symm

/-- A capital sigma, or a character that is ignored for casing, never becomes the letter. -/
theorem not_mem_lowerAt (h : c = 'Σ' ∨ isCaseIgnorable c = true) :
    'a' ∉ lowerAt before after c := by
  have hletters : isCaseIgnorable 'a' = false ∧ isCaseIgnorable 'A' = false := by decide +kernel
  intro hmem
  unfold lowerAt at hmem
  split at hmem
  next => split at hmem <;> simp at hmem
  next hsigma =>
    have hignored := h.resolve_left hsigma
    rcases eq_of_mem_lowerChar hmem with rfl | rfl <;> simp [hletters] at hignored

theorem lowerAt_ne_nil (before after : List Char) (c : Char) : lowerAt before after c ≠ [] := by
  unfold lowerAt lowerChar
  split
  · simp
  · split
    · simp
    · split
      · simp
      · split <;> simp

theorem lowerWithin_ne_nil {cs : List Char} (h : cs ≠ []) : lowerWithin before after cs ≠ [] := by
  cases cs with
  | nil => exact absurd rfl h
  | cons c rest => simp [lowerWithin, lowerAt_ne_nil]

theorem lowerWithin_cons_ne (h : c = 'Σ' ∨ isCaseIgnorable c = true) (cs rest : List Char) :
    lowerWithin before after (c :: cs) ≠ 'a' :: rest := by
  intro heq
  have hhead := congrArg List.head? heq
  rw [lowerWithin, List.head?_append_of_ne_nil _ (lowerAt_ne_nil _ _ c)] at hhead
  exact not_mem_lowerAt h (List.mem_of_head? hhead)

theorem lowerWithin_concat_ne (h : c = 'Σ' ∨ isCaseIgnorable c = true) (cs rest : List Char) :
    lowerWithin before after (cs ++ [c]) ≠ rest ++ ['a'] := by
  intro heq
  have hlast := congrArg List.getLast? heq
  rw [lowerWithin_append, lowerWithin, lowerWithin, List.append_nil,
    List.getLast?_append_of_ne_nil _ (lowerAt_ne_nil _ _ c), List.getLast?_concat] at hlast
  exact not_mem_lowerAt h (List.mem_of_getLast? hlast)

/-! ## Texts that become the same everywhere -/

/-- Each capital sigma of a text is settled within the text. -/
def SettlesSigmas (cs : List Char) : Prop :=
  ∀ front back, cs = front ++ 'Σ' :: back → isSettled front.reverse back = true

/-- The lower case of a text is found in that of a longer one, where each capital sigma ends a
word in the longer text just if it does in the text alone. -/
theorem isInfix_of_agree {cs front back : List Char}
    (h : ∀ first last, cs = first ++ 'Σ' :: last →
      endsWord (first.reverse ++ front.reverse) (last ++ back) = endsWord first.reverse last) :
    lowerFrom [] cs <:+: lowerFrom [] (front ++ cs ++ back) := by
  have hsame : lowerWithin front.reverse back cs = lowerFrom [] cs := by
    rw [lowerFrom_eq_lowerWithin, lowerWithin_eq_iff]
    simpa using h
  rw [lowerFrom_append_append, hsame]
  exact List.infix_append _ _ _

theorem isInfix_of_settlesSigmas {cs : List Char} (h : SettlesSigmas cs) (front back : List Char) :
    lowerFrom [] cs <:+: lowerFrom [] (front ++ cs ++ back) := by
  apply isInfix_of_agree
  intro first last hcs
  exact endsWord_of_isSettled (h first last hcs) front.reverse back

theorem ignored_of_neighbour? {cs : List Char} (h : neighbour? cs = none) (hc : c ∈ cs) :
    isCaseIgnorable c = true := by
  simpa using List.find?_eq_none.mp h c hc

/-- The lower case of a text does not begin with the letter if nothing but ignored characters is in
front of a capital sigma there. -/
theorem not_isPrefix_letter {front back rest : List Char}
    (hfront : neighbour? front.reverse = none) :
    ¬ lowerWithin before after (front ++ 'Σ' :: back) <+: 'a' :: rest := by
  rw [List.prefix_cons_iff]
  rintro (hnil | ⟨tail, htail, -⟩)
  · exact lowerWithin_ne_nil (by simp) hnil
  · cases front with
    | nil => exact lowerWithin_cons_ne (.inl rfl) _ _ htail
    | cons d front =>
        have hd := ignored_of_neighbour? hfront (List.mem_reverse.mpr List.mem_cons_self)
        exact lowerWithin_cons_ne (.inr hd) _ _ htail

/-- Nor does it end with the letter if nothing else is behind a capital sigma. -/
theorem not_isSuffix_letter {front back rest : List Char} (hback : neighbour? back = none) :
    ¬ lowerWithin before after (front ++ 'Σ' :: back) <:+ rest ++ ['a'] := by
  rw [List.suffix_concat_iff]
  rintro (hnil | ⟨init, hinit, -⟩)
  · exact lowerWithin_ne_nil (by simp) hnil
  · rcases List.eq_nil_or_concat back with rfl | ⟨back, d, rfl⟩
    · exact lowerWithin_concat_ne (.inl rfl) _ _ hinit
    · rw [List.concat_eq_append] at hback hinit
      have hd := ignored_of_neighbour? hback
        (List.mem_append_right back (List.mem_singleton_self d))
      rw [← List.cons_append, ← List.append_assoc] at hinit
      exact lowerWithin_concat_ne (.inr hd) _ _ hinit

/-- A text becomes the same wherever it is written just if it settles its capital sigmas. -/
theorem isInfix_iff_settlesSigmas (cs : List Char) :
    (∀ front back, lowerFrom [] cs <:+: lowerFrom [] (front ++ cs ++ back)) ↔
      SettlesSigmas cs := by
  have hletter : ∀ before after, lowerWithin before after ['a'] = ['a'] := fun _ _ => rfl
  constructor
  · rintro h front back rfl
    by_contra hunsettled
    rw [Bool.not_eq_true] at hunsettled
    -- beside a letter the text becomes something else of the same length, so that its own lower
    -- case could only stand over the letter
    rcases endsWord_of_not_isSettled hunsettled with ⟨hnone, hdiff⟩ | ⟨hnone, hdiff⟩
    · have hin := h ['a'] []
      rw [lowerFrom_append_append, hletter, lowerFrom_eq_lowerWithin] at hin
      simp only [List.singleton_append, lowerWithin, List.append_nil, List.reverse_singleton] at hin
      rcases List.infix_cons_iff.mp hin with hprefix | hwithin
      · exact not_isPrefix_letter hnone hprefix
      · have hsame := hwithin.eq_of_length (length_lowerWithin _ _ _ _ _)
        exact hdiff (by simpa using (lowerWithin_eq_iff.mp hsame front back rfl).symm)
    · have hin := h [] ['a']
      rw [lowerFrom_append_append, hletter, lowerFrom_eq_lowerWithin] at hin
      simp only [List.nil_append, lowerWithin, List.reverse_nil] at hin
      rcases List.infix_concat_iff.mp hin with hsuffix | hwithin
      · exact not_isSuffix_letter hnone hsuffix
      · have hsame := hwithin.eq_of_length (length_lowerWithin _ _ _ _ _)
        exact hdiff (by simpa using (lowerWithin_eq_iff.mp hsame front back rfl).symm)
  · exact isInfix_of_settlesSigmas

end Flowgate.Text
