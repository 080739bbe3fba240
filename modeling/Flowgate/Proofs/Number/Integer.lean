import Flowgate.Proofs.Json.Numeral
import Flowgate.Proofs.Text.Trim

/-! # Integers as texts

A numeral of an integer has digits of any script behind a sign, and blanks around it. What is read
as an integer are those numerals that are not too long, and an integer is read back from its
decimal text.
-/

namespace Flowgate

namespace Text

theorem digitValue?_of_isDigit {c : Char} (h : c.isDigit = true) :
    digitValue? c = some (c.toNat - '0'.toNat) := by
  have hbounds : 0x30 ≤ c.toNat ∧ c.toNat < 0x30 + 10 := by
    rw [Char.isDigit_iff_toNat] at h
    exact ⟨h.1, Nat.lt_succ_of_le h.2⟩
  rw [digitValue?, digitZeros, List.find?_cons_of_pos (by simpa using hbounds)]
  rfl

theorem isBlank_of_isDigit {c : Char} (h : c.isDigit = true) : isBlank c = false := by
  rw [Char.isDigit_iff_toNat] at h
  refine Bool.eq_false_iff.mpr fun hblank => ?_
  have hfar := toNat_of_isBlank hblank
  simp at h
  omega

end Text

namespace Numeral

theorem groupedDigits_of_isDigit {cs : List Char} (hne : cs ≠ [])
    (h : ∀ c ∈ cs, c.isDigit = true) :
    groupedDigits Text.digitValue? cs = some (cs.map fun c => c.toNat - '0'.toNat) := by
  fun_induction groupedDigits Text.digitValue? cs with
  | case1 => exact absurd rfl hne
  | case2 c =>
      rw [Text.digitValue?_of_isDigit (h c List.mem_cons_self)]
      rfl
  | case3 c rest ih => exact absurd (h '_' (by simp)) (by decide)
  | case4 c d rest _ ih =>
      rw [Text.digitValue?_of_isDigit (h c List.mem_cons_self),
        ih (List.cons_ne_nil d rest) fun e he => h e (List.mem_cons_of_mem c he)]
      rfl

theorem ofDigits_map (cs : List Char) :
    ofDigits (cs.map fun c => c.toNat - '0'.toNat) = Nat.ofDigitChars 10 cs 0 := by
  simp only [ofDigits, List.foldl_map, Nat.ofDigitChars, Nat.mul_comm 10]

theorem sign_append (negative : Bool) {cs : List Char} (h : ∀ c ∈ cs, c.isDigit = true) :
    sign ((if negative then ['-'] else []) ++ cs) = (negative, cs) := by
  cases negative with
  | true => rfl
  | false =>
      change sign cs = (false, cs)
      unfold sign
      split
      next => exact absurd (h '+' List.mem_cons_self) (by decide)
      next => exact absurd (h '-' List.mem_cons_self) (by decide)
      next => rfl

/-! ## The numerals of integers -/

/-- Digits with their values. One underscore may stand between two of them. -/
inductive Digits : List Char → List Nat → Prop
  | last {c : Char} {d : Nat} : Text.digitValue? c = some d → Digits [c] [d]
  | next {c : Char} {d : Nat} {cs : List Char} {ds : List Nat} : Text.digitValue? c = some d →
      Digits cs ds → Digits (c :: cs) (d :: ds)
  | parted {c : Char} {d : Nat} {cs : List Char} {ds : List Nat} : Text.digitValue? c = some d →
      Digits cs ds → Digits (c :: '_' :: cs) (d :: ds)

variable {cs : List Char} {ds : List Nat}

theorem Digits.head (h : Digits cs ds) :
    ∃ c rest, cs = c :: rest ∧ (Text.digitValue? c).isSome = true := by
  cases h with
  | last hc => exact ⟨_, _, rfl, Option.isSome_of_eq_some hc⟩
  | next hc _ => exact ⟨_, _, rfl, Option.isSome_of_eq_some hc⟩
  | parted hc _ => exact ⟨_, _, rfl, Option.isSome_of_eq_some hc⟩

theorem digits_of_groupedDigits (h : groupedDigits Text.digitValue? cs = some ds) :
    Digits cs ds := by
  fun_induction groupedDigits Text.digitValue? cs generalizing ds with
  | case1 => cases h
  | case2 c =>
      obtain ⟨d, hd, hds⟩ := Option.bind_eq_some_iff.mp h
      cases hds
      exact .last hd
  | case3 c rest ih =>
      obtain ⟨d, hd, h⟩ := Option.bind_eq_some_iff.mp h
      obtain ⟨more, hmore, hds⟩ := Option.bind_eq_some_iff.mp h
      cases hds
      exact .parted hd (ih hmore)
  | case4 c e rest _ ih =>
      obtain ⟨d, hd, h⟩ := Option.bind_eq_some_iff.mp h
      obtain ⟨more, hmore, hds⟩ := Option.bind_eq_some_iff.mp h
      cases hds
      exact .next hd (ih hmore)

theorem Digits.groupedDigits_eq (h : Digits cs ds) :
    groupedDigits Text.digitValue? cs = some ds := by
  induction h with
  | last hc => simp [groupedDigits, hc]
  | next hc hmore ih =>
      obtain ⟨e, rest, rfl, he⟩ := hmore.head
      -- the digit behind it is no underscore
      have hunder : e ≠ '_' := by
        rintro rfl
        exact absurd he (by decide)
      rw [groupedDigits]
      · simp [hc, ih]
      · exact hunder
  | parted hc _ ih => simp [groupedDigits, hc, ih]

/-- A text is a numeral of an integer. -/
inductive IsInteger : String → Int → Prop
  | mk {s : String} {mark cs : List Char} {ds : List Nat} :
      Text.Trimmed Text.isBlank s.toList (mark ++ cs) → mark ∈ [[], ['+'], ['-']] →
      Digits cs ds → ds.length ≤ digitLimit →
      IsInteger s (applySign (mark == ['-']) (ofDigits ds))

theorem sign_mark {mark : List Char} (hmark : mark ∈ [[], ['+'], ['-']]) (h : Digits cs ds) :
    sign (mark ++ cs) = (mark == ['-'], cs) := by
  obtain ⟨c, rest, rfl, hc⟩ := h.head
  simp only [List.mem_cons, List.not_mem_nil, or_false] at hmark
  rcases hmark with rfl | rfl | rfl
  · rw [List.nil_append]
    unfold sign
    split
    next heq =>
      cases heq
      exact absurd hc (by decide)
    next heq =>
      cases heq
      exact absurd hc (by decide)
    next => rfl
  · rfl
  · rfl

theorem exists_mark (cs : List Char) :
    ∃ mark rest, cs = mark ++ rest ∧ mark ∈ [[], ['+'], ['-']] ∧
      sign cs = (mark == ['-'], rest) := by
  unfold sign
  split
  · exact ⟨['+'], _, rfl, by simp, rfl⟩
  · exact ⟨['-'], _, rfl, by simp, rfl⟩
  · exact ⟨[], cs, rfl, by simp, rfl⟩

/-- What is read as an integer are its numerals. -/
theorem integer?_eq_some_iff {s : String} {n : Int} : integer? s = some n ↔ IsInteger s n := by
  constructor
  · intro h
    have htrim := Text.trimmed_trim Text.isBlank s.toList
    obtain ⟨mark, rest, hsplit, hmark, hsign⟩ := exists_mark (Text.trim Text.isBlank s.toList)
    rw [hsplit] at htrim
    rw [integer?, hsign] at h
    obtain ⟨ds, hds, h⟩ := Option.bind_eq_some_iff.mp h
    split at h
    next hlength =>
      cases h
      exact .mk htrim hmark (digits_of_groupedDigits hds) hlength
    next => cases h
  · rintro ⟨htrim, hmark, hdigits, hlength⟩
    rw [integer?, htrim.trim_eq, sign_mark hmark hdigits]
    simp [hdigits.groupedDigits_eq, hlength]

/-! ## Decimal texts -/

theorem integer?_toString {n : Int}
    (h : (Nat.toDigits 10 n.natAbs).length ≤ digitLimit) : integer? (toString n) = some n := by
  have hdigits := Json.isDigits_toDigits n.natAbs
  -- neither the sign nor a digit is white space, so trimming leaves the text as it is
  have hblank : ∀ c ∈ (toString n).toList, Text.isBlank c = false := by
    rw [Json.toList_toString]
    intro c hc
    rcases List.mem_append.mp hc with hsign | hdigit
    · split at hsign
      · rw [List.mem_singleton.mp hsign]
        decide
      · cases hsign
    · exact Text.isBlank_of_isDigit (hdigits.all c hdigit)
  rw [integer?, Text.trim_eq_self hblank, Json.toList_toString, sign_append _ hdigits.all]
  dsimp only
  rw [groupedDigits_of_isDigit hdigits.ne_nil hdigits.all]
  simp only [Option.bind_eq_bind, Option.bind_some, List.length_map, h, if_true, ofDigits_map]
  rw [Nat.ofDigitChars_toDigits (by decide) (by decide), Json.applySign_natAbs]

end Numeral

end Flowgate
