import Flowgate.Proofs.Itemwise
import Flowgate.Proofs.Number.Sign
import Flowgate.Proofs.Text.Trim
import Flowgate.Reading.Scalar
import Mathlib.Data.List.TakeDrop
import Mathlib.Data.List.TakeWhile

/-! # The sign of a numeral

A value may convert to an integer and to a floating point number. Where the floating point
number is above zero, so is the integer. For texts this is told by the first character that
is neither a zero nor a plus, an underscore, a point or white space: numbers above zero have
one, and it is no minus.
-/

namespace Flowgate

namespace Text

/-- A text is what stands before and behind its cut, with characters of the set between. -/
theorem cutAt_split (p : Char → Bool) (cs : List Char) :
    ∃ mark, cs = (cutAt p cs).1 ++ mark ++ (cutAt p cs).2.getD [] ∧ ∀ c ∈ mark, p c := by
  unfold cutAt
  split
  next => exact ⟨[], by simp, by simp⟩
  next c rest hdrop =>
    have hne : cs.dropWhile (!p ·) ≠ [] := by simp [hdrop]
    have hmark : p c := by simpa [hdrop] using List.head_dropWhile_not (!p ·) hne
    refine ⟨[c], ?_, by simpa using hmark⟩
    rw [List.append_assoc, Option.getD_some, List.singleton_append, ← hdrop,
      List.takeWhile_append_dropWhile]

theorem asciiDigit?_eq_some {c : Char} {d : Nat} :
    asciiDigit? c = some d ↔ ('0' ≤ c ∧ c ≤ '9') ∧ c.toNat - '0'.toNat = d := by
  simp [asciiDigit?]

end Text

namespace Numeral

/-- Characters that tell no sign: zeros, underscores, points, plus signs and white space. -/
def isFiller (c : Char) : Bool :=
  c == '0' || c == '_' || c == '.' || c == '+' || Text.isBlank c

/-- The first character of a text that is no filler. -/
def leading? (cs : List Char) : Option Char := cs.find? fun c => !isFiller c

theorem leading?_cons_of_filler {c : Char} (h : isFiller c) (cs : List Char) :
    leading? (c :: cs) = leading? cs := by
  simp [leading?, h]

theorem leading?_eq_none_of_fillers {cs : List Char} (h : ∀ c ∈ cs, isFiller c) :
    leading? cs = none := by
  simpa [leading?] using h

theorem leading?_append_left {first : List Char} (h : ∀ c ∈ first, isFiller c)
    (cs : List Char) : leading? (first ++ cs) = leading? cs := by
  have hnone := leading?_eq_none_of_fillers h
  rw [leading?] at hnone
  rw [leading?, List.find?_append, hnone, Option.none_or, leading?]

theorem leading?_append_right {last : List Char} (h : ∀ c ∈ last, isFiller c)
    (cs : List Char) : leading? (cs ++ last) = leading? cs := by
  have hnone := leading?_eq_none_of_fillers h
  rw [leading?] at hnone
  rw [leading?, List.find?_append, hnone, Option.or_none, leading?]

theorem leading?_trim (cs : List Char) : leading? (Text.trim Text.isBlank cs) = leading? cs := by
  have hblank {c : Char} (h : Text.isBlank c) : isFiller c := by simp [isFiller, h]
  obtain ⟨first, last, hsplit, hfirst, hlast⟩ := Text.trim_split Text.isBlank cs
  conv_rhs => rw [hsplit]
  rw [leading?_append_right fun c hc => hblank (hlast c hc),
    leading?_append_left fun c hc => hblank (hfirst c hc)]

theorem leading?_ungroupBehind {mark : Bool} {cs kept : List Char}
    (h : ungroupBehind mark cs = some kept) : leading? kept = leading? cs := by
  fun_induction ungroupBehind mark cs generalizing kept with
  | case1 => cases h
  | case2 =>
      cases h
      rfl
  | case3 => cases h
  | case4 mark rest _ ih =>
      rw [ih h, leading?_cons_of_filler (by decide)]
  | case5 mark c rest _ ih =>
      obtain ⟨others, hothers, rfl⟩ := Option.map_eq_some_iff.mp h
      simp only [leading?, List.find?_cons] at ih ⊢
      rw [ih hothers]

theorem leading?_dropZeros {last : Char} {cs kept : List Char} (hlast : isFiller last)
    (h : dropZeros last cs = some kept) : leading? kept = leading? cs := by
  fun_induction dropZeros last cs with
  | case1 last =>
      cases h
      exact leading?_cons_of_filler hlast []
  | case2 last c rest hc ih =>
      have hfiller : isFiller c := by rcases hc with rfl | rfl <;> decide
      rw [ih hfiller h, leading?_cons_of_filler hfiller]
  | case3 last c rest _ _ =>
      cases h
      rfl
  | case4 last rest _ _ =>
      cases h
      exact leading?_cons_of_filler hlast _
  | case5 => cases h

theorem leading?_dropLeadingZeros {cs kept : List Char} (h : dropLeadingZeros cs = some kept) :
    leading? kept = leading? cs := by
  unfold dropLeadingZeros at h
  split at h
  next rest =>
    rw [leading?_dropZeros (by decide) h, leading?_cons_of_filler (by decide)]
  next c rest _ =>
    rw [Option.ite_none_right_eq_some] at h
    cases h.2
    rfl
  next => cases h

theorem leading?_dropZeroFraction (cs : List Char) :
    leading? (dropZeroFraction cs) = leading? cs := by
  unfold dropZeroFraction
  split
  next zero zeros whole hspan =>
    rw [List.span_eq_takeWhile_dropWhile, Prod.mk.injEq] at hspan
    obtain ⟨hzeros, hwhole⟩ := hspan
    have hsplit : cs = whole.reverse ++ ('.' :: (zero :: zeros).reverse) := by
      have hreverse := List.takeWhile_append_dropWhile (p := (· == '0')) (l := cs.reverse)
      rw [hzeros, hwhole] at hreverse
      rw [← List.reverse_reverse cs, ← hreverse]
      simp
    conv_rhs => rw [hsplit]
    refine (leading?_append_right ?_ _).symm
    intro c hc
    rcases List.mem_cons.mp hc with rfl | hc
    · decide
    · rw [List.mem_reverse, ← hzeros] at hc
      have hzero : c = '0' := by simpa using List.mem_takeWhile_imp hc
      rw [hzero]
      decide
  next => rfl

/-! ## Digits -/

theorem ofDigits_eq_zero_iff {digits : List Nat} : ofDigits digits = 0 ↔ ∀ d ∈ digits, d = 0 := by
  suffices h : ∀ n, digits.foldl (fun n d => n * 10 + d) n = 0 ↔ n = 0 ∧ ∀ d ∈ digits, d = 0 by
    simpa [ofDigits] using h 0
  induction digits with
  | nil => simp
  | cons d rest ih =>
      intro n
      rw [List.foldl_cons, ih, List.forall_mem_cons, ← and_assoc]
      refine and_congr_left fun _ => ?_
      omega

theorem exists_value_of_mem {cs : List Char} {values : List Nat}
    (h : cs.mapM Text.asciiDigit? = some values) {c : Char} (hc : c ∈ cs) :
    ∃ d ∈ values, Text.asciiDigit? c = some d :=
  exists_left_of_mem_right (mapM_eq_some.mp h).flip hc

theorem asciiDigit?_eq_zero_iff {c : Char} : Text.asciiDigit? c = some 0 ↔ c = '0' := by
  constructor
  · intro h
    obtain ⟨⟨hlow, -⟩, hvalue⟩ := Text.asciiDigit?_eq_some.mp h
    rw [Char.le_def, UInt32.le_iff_toNat_le, Char.toNat_val, Char.toNat_val] at hlow
    exact Char.toNat_inj.mp (by omega)
  · rintro rfl
    rfl

/-- Digits make zero just if they are all zeros. -/
theorem ofDigits_eq_zero_iff_of_mapM {cs : List Char} {values : List Nat}
    (h : cs.mapM Text.asciiDigit? = some values) :
    ofDigits values = 0 ↔ ∀ c ∈ cs, c = '0' := by
  rw [ofDigits_eq_zero_iff]
  constructor
  · intro hzero c hc
    obtain ⟨d, hd, hvalue⟩ := exists_value_of_mem h hc
    rw [hzero d hd] at hvalue
    exact asciiDigit?_eq_zero_iff.mp hvalue
  · intro hzero d hd
    obtain ⟨c, hc, hvalue⟩ := exists_left_of_mem_right (mapM_eq_some.mp h) hd
    rw [asciiDigit?_eq_zero_iff.mpr (hzero c hc)] at hvalue
    exact (Option.some.inj hvalue).symm

/-! ## Floating point numerals -/

theorem toLower_of_not_upper {c : Char} (h : c.toNat < 65 ∨ 90 < c.toNat) : c.toLower = c := by
  refine dif_neg ?_
  rintro ⟨hlow, hhigh⟩
  rw [ge_iff_le, UInt32.le_iff_toNat_le, Char.toNat_val, Char.toNat_val] at hlow
  rw [UInt32.le_iff_toNat_le, Char.toNat_val, Char.toNat_val] at hhigh
  have hA : 'A'.toNat = 65 := rfl
  have hZ : 'Z'.toNat = 90 := rfl
  omega

theorem toLower_of_isFiller {c : Char} (h : isFiller c) : c.toLower = c := by
  simp only [isFiller, Bool.or_eq_true, beq_iff_eq] at h
  rcases h with (((rfl | rfl) | rfl) | rfl) | hblank
  iterate 4 rfl
  have hrange := Text.toNat_of_isBlank hblank
  exact toLower_of_not_upper (by omega)

/-- A text that is a word up to case starts with a letter. -/
theorem leading?_of_word {cs rest : List Char} {c : Char}
    (hfiller : ¬ isFiller c) (hminus : c ≠ '-') (h : cs.map Char.toLower = c :: rest) :
    ∃ c ∈ leading? cs, c ≠ '-' := by
  match cs, h with
  | first :: others, h =>
      obtain ⟨hfirst, -⟩ := List.cons.inj h
      have hnone : ¬ isFiller first := by
        intro hfirst'
        rw [toLower_of_isFiller hfirst'] at hfirst
        exact hfiller (hfirst ▸ hfirst')
      refine ⟨first, by simp [leading?, hnone], ?_⟩
      rintro rfl
      exact hminus hfirst.symm

theorem not_isFiller_of_digit {c : Char} {d : Nat} (h : Text.asciiDigit? c = some d)
    (hzero : c ≠ '0') : ¬ isFiller c := by
  obtain ⟨⟨hlow, hhigh⟩, -⟩ := Text.asciiDigit?_eq_some.mp h
  rw [Char.le_def, UInt32.le_iff_toNat_le, Char.toNat_val, Char.toNat_val] at hlow hhigh
  have h0 : '0'.toNat = 48 := rfl
  have h9 : '9'.toNat = 57 := rfl
  intro hfiller
  simp only [isFiller, Bool.or_eq_true, beq_iff_eq] at hfiller
  rcases hfiller with (((rfl | rfl) | rfl) | rfl) | hblank
  · exact hzero rfl
  · exact absurd hhigh (by decide)
  · exact absurd hlow (by decide)
  · exact absurd hlow (by decide)
  · have hrange := Text.toNat_of_isBlank hblank
    omega

/-- The digits of a decimal stand on either side of the point of its mantissa. -/
theorem decimal?_eq_some {cs : List Char} {d : Decimal} (h : decimal? cs = some d) :
    let mantissa := (Text.cutAt (fun c => c == 'e' || c == 'E') cs).1
    let parts := Text.cutAt (· == '.') mantissa
    ∃ values, (parts.1 ++ parts.2.getD []).mapM Text.asciiDigit? = some values ∧
      d.digits = ofDigits values := by
  intro mantissa parts
  unfold decimal? at h
  simp only [Option.bind_eq_bind, Option.bind_eq_some_iff, Option.pure_def] at h
  obtain ⟨whole, hwhole, fraction, hfraction, h⟩ := h
  refine ⟨whole ++ fraction, ?_, ?_⟩
  · rw [List.mapM_append, hwhole, hfraction]
    rfl
  · split at h
    · cases h
    · split at h
      · cases h
        rfl
      · split at h
        · cases h
        · obtain ⟨power, -, hd⟩ := Option.bind_eq_some_iff.mp h
          cases hd
          rfl

/-- A decimal other than zero has a digit other than zero, and no minus before it. -/
theorem leading?_of_decimal? {cs : List Char} {d : Decimal} (h : decimal? cs = some d)
    (hd : d.digits ≠ 0) : ∃ c ∈ leading? cs, c ≠ '-' := by
  obtain ⟨values, hvalues, hdigits⟩ := decimal?_eq_some h
  obtain ⟨mark, hsplit, -⟩ := Text.cutAt_split (fun c => c == 'e' || c == 'E') cs
  generalize (Text.cutAt (fun c => c == 'e' || c == 'E') cs).1 = mantissa at hvalues hsplit
  obtain ⟨point, hmantissa, hpoint⟩ := Text.cutAt_split (· == '.') mantissa
  -- a digit other than zero is no filler, and nothing but digits and points stands in front
  have hsome : (leading? mantissa).isSome := by
    rw [hdigits, Ne, ofDigits_eq_zero_iff_of_mapM hvalues, not_forall] at hd
    obtain ⟨c, hc⟩ := hd
    obtain ⟨hc, hne⟩ := Classical.not_imp.mp hc
    obtain ⟨d, -, hdigit⟩ := exists_value_of_mem hvalues hc
    rw [leading?, List.find?_isSome]
    refine ⟨c, ?_, by simpa using not_isFiller_of_digit hdigit hne⟩
    rw [hmantissa]
    simp only [List.mem_append] at hc ⊢
    exact hc.imp_left .inl
  obtain ⟨c, hc⟩ := Option.isSome_iff_exists.mp hsome
  have hleading : leading? cs = some c := by
    rw [leading?] at hc
    rw [hsplit, leading?, List.append_assoc, List.find?_append, hc, Option.some_or]
  refine ⟨c, hleading, ?_⟩
  rintro rfl
  have hmem := List.mem_of_find?_eq_some hc
  rw [hmantissa] at hmem
  simp only [List.mem_append] at hmem
  rcases hmem with (h | h) | h
  · obtain ⟨d, -, hdigit⟩ := exists_value_of_mem hvalues (List.mem_append_left _ h)
    cases hdigit
  · exact absurd (hpoint _ h) (by decide)
  · obtain ⟨d, -, hdigit⟩ := exists_value_of_mem hvalues (List.mem_append_right _ h)
    cases hdigit

theorem leading?_sign {cs : List Char} (h : (sign cs).1 = false) :
    leading? (sign cs).2 = leading? cs := by
  unfold sign at h ⊢
  split at h
  · exact (leading?_cons_of_filler (by decide) _).symm
  · cases h
  · rfl

/-- A number above zero has no minus, and is written as an infinity or as a decimal other
than zero. -/
theorem signedReal?_eq_some {cs : List Char} {x : Binary64} (h : signedReal? cs = some x)
    (hx : x.isPositive) :
    (sign cs).1 = false ∧ ((∃ rest, (sign cs).2.map Char.toLower = 'i' :: rest) ∨
      ∃ d, decimal? (sign cs).2 = some d ∧ d.digits ≠ 0) := by
  have hsign {negative : Bool} (hnegative : x.negative = negative) : negative = false := by
    by_contra hne
    rw [Bool.not_eq_false] at hne
    exact Binary64.not_isPositive_of_negative (hnegative.trans hne) hx
  unfold signedReal? at h
  dsimp only at h
  split at h
  next hinfinity =>
    cases h
    refine ⟨hsign rfl, .inl ?_⟩
    rcases hinfinity with hword | hword
    · exact ⟨['n', 'f'], by simpa using congrArg String.toList hword⟩
    · exact ⟨['n', 'f', 'i', 'n', 'i', 't', 'y'], by simpa using congrArg String.toList hword⟩
  · split at h
    · cases h
      exact absurd hx (by decide)
    · obtain ⟨d, hd, rfl⟩ := Option.map_eq_some_iff.mp h
      have hnegative := hsign (Decimal.toBinary64_negative _ _)
      rw [hnegative] at hx
      exact ⟨hnegative, .inr ⟨d, hd, Decimal.digits_ne_zero_of_isPositive hx⟩⟩

/-- A number above zero has a first character that is no filler, which is no minus. -/
theorem leading?_of_signedReal? {cs : List Char} {x : Binary64} (h : signedReal? cs = some x)
    (hx : x.isPositive) : ∃ c ∈ leading? cs, c ≠ '-' := by
  obtain ⟨hsign, ⟨rest, hword⟩ | ⟨d, hdecimal, hd⟩⟩ := signedReal?_eq_some h hx
  · rw [← leading?_sign hsign]
    exact leading?_of_word (by decide) (by decide) hword
  · rw [← leading?_sign hsign]
    exact leading?_of_decimal? hdecimal hd

theorem leading?_of_real? {s : String} {x : Binary64} (h : real? s = some x)
    (hx : x.isPositive) : ∃ c ∈ leading? s.toList, c ≠ '-' := by
  rw [real?, Option.orElse_eq_orElse, Option.orElse_eq_or, Option.or_eq_some_iff] at h
  rcases h with h | ⟨-, h⟩
  · rw [← leading?_trim]
    exact leading?_of_signedReal? h hx
  · obtain ⟨kept, hkept, h⟩ := Option.bind_eq_some_iff.mp h
    rw [← leading?_ungroupBehind hkept]
    exact leading?_of_signedReal? h hx

/-! ## Whole numerals -/

theorem leading?_of_natural_zero {cs : List Char} (h : natural cs = .ok 0) :
    leading? cs = none := by
  unfold natural at h
  split at h
  · rfl
  · cases h
  · split at h
    · cases h
    · split at h
      next d ds hdigits =>
        refine leading?_eq_none_of_fillers fun c hc => ?_
        rw [(ofDigits_eq_zero_iff_of_mapM hdigits).mp (Except.ok.inj h) c hc]
        decide
      · cases h

/-- An integer of zero or less has no character but fillers, or a minus in front. -/
theorem pos_of_minusNatural {cs : List Char} {i : Int} (h : minusNatural cs = .ok i)
    (hleading : ∃ c ∈ leading? cs, c ≠ '-') : 0 < i := by
  obtain ⟨c, hc, hne⟩ := hleading
  unfold minusNatural at h
  split at h
  · cases hc
    exact absurd rfl hne
  · cases hnatural : natural cs with
    | error flaw =>
        rw [hnatural] at h
        cases h
    | ok n =>
        rw [hnatural] at h
        cases h
        have hn : n ≠ 0 := by
          rintro rfl
          rw [leading?_of_natural_zero hnatural] at hc
          cases hc
        exact Int.natCast_pos.mpr (Nat.pos_of_ne_zero hn)

theorem pos_of_whole {s : String} {i : Int} (h : whole s = .ok i)
    (hleading : ∃ c ∈ leading? s.toList, c ≠ '-') : 0 < i := by
  rw [← leading?_trim] at hleading
  unfold whole at h
  generalize Text.trim Text.isBlank s.toList = cs at h hleading
  dsimp only at h
  split at h
  next digits hdigits =>
    obtain ⟨unsigned, hunsigned, hdigits⟩ := Option.bind_eq_some_iff.mp hdigits
    obtain ⟨kept, hkept, hungrouped⟩ := Option.bind_eq_some_iff.mp hdigits
    apply pos_of_minusNatural h
    rw [leading?_ungroupBehind hungrouped, leading?_dropZeroFraction,
      leading?_dropLeadingZeros hkept]
    split at hunsigned
    · cases hunsigned
    · cases hunsigned
      rwa [leading?_cons_of_filler (by decide)] at hleading
    · cases hunsigned
      exact hleading
  next => cases h

end Numeral

namespace Json

theorem toInt?_of_toInteger {x : Binary64} {i : Int} (h : (float x).toInteger = .ok i) :
    x.toInt? = some i := by
  rw [toInteger] at h
  split at h
  · split at h
    next j hj =>
      split at h
      · cases h
        exact hj
      · cases h
    · cases h
  · cases h

/-- A value that is above zero as a floating point number is above zero as an integer, if it
is read as both. -/
theorem pos_of_isPositive {v : Json} {i : Int} {x : Binary64} (hi : v.toInteger = .ok i)
    (hx : v.toReal = .ok x) (hpositive : x.isPositive) : 0 < i := by
  cases v with
  | int j =>
      cases hi
      rw [toReal] at hx
      split at hx
      · cases hx
        exact Binary64.pos_of_isPositive_ofInt hpositive
      · cases hx
  | bool b =>
      cases hi
      cases hx
      exact Binary64.pos_of_isPositive_ofInt hpositive
  | float y =>
      cases hx
      exact Binary64.pos_of_isPositive_of_toInt? (toInt?_of_toInteger hi) hpositive
  | str s =>
      have hreal : Numeral.real? s = some x := by
        rw [toReal] at hx
        cases hreal : Numeral.real? s with
        | none =>
            rw [hreal] at hx
            cases hx
        | some y =>
            rw [hreal] at hx
            cases hx
            rfl
      have hwhole : Numeral.whole s = .ok i := by
        rw [toInteger] at hi
        split at hi <;> simp_all
      exact Numeral.pos_of_whole hwhole (Numeral.leading?_of_real? hreal hpositive)
  | null => cases hi
  | arr items => cases hi
  | obj fields => cases hi

end Json

end Flowgate
