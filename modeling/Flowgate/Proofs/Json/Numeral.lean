import Flowgate.Json.Reader
import Flowgate.Json.Writer
import Flowgate.Proofs.Number.Decimal
import Flowgate.Proofs.Text.Cut

/-! # Numbers of Json text

The text of a number is spelt by the digits before the point, those behind it and the
exponent. A spelling is read as the decimal that it is, and every number is written in a
spelling of its shortest decimal.
-/

namespace Flowgate.Json

/-! ## Digits -/

theorem digitsValue_eq (digits : List Char) :
    digitsValue digits = Nat.ofDigitChars 10 digits 0 := by
  simp only [digitsValue, Nat.ofDigitChars, Nat.mul_comm 10]

@[simp]
theorem digitsValue_toDigits (n : Nat) : digitsValue (Nat.toDigits 10 n) = n := by
  rw [digitsValue_eq, Nat.ofDigitChars_toDigits (by decide) (by decide)]

theorem digitsValue_append (first second : List Char) :
    digitsValue (first ++ second) =
      digitsValue first * 10 ^ second.length + digitsValue second := by
  simp only [digitsValue_eq]
  rw [Nat.ofDigitChars_append, Nat.ofDigitChars_eq_ofDigitChars_zero, Nat.mul_comm]

@[simp]
theorem digitsValue_zeros (count : Nat) : digitsValue (List.replicate count '0') = 0 := by
  induction count with
  | zero => rfl
  | succ count ih =>
      rw [List.replicate_succ', digitsValue_append, ih]
      rfl

theorem digitsValue_append_zeros (digits : List Char) (count : Nat) :
    digitsValue (digits ++ List.replicate count '0') = digitsValue digits * 10 ^ count := by
  simp [digitsValue_append]

theorem digitsValue_zeros_append (count : Nat) (digits : List Char) :
    digitsValue (List.replicate count '0' ++ digits) = digitsValue digits := by
  simp [digitsValue_append]

theorem range_of_isDigit {c : Char} (h : c.isDigit = true) : 48 ≤ c.toNat ∧ c.toNat ≤ 57 := by
  simpa [Char.isDigit, Char.le_def, UInt32.le_iff_toNat_le] using h

theorem digitsValue_lt {digits : List Char} (h : ∀ c ∈ digits, c.isDigit = true) :
    digitsValue digits < 10 ^ digits.length := by
  induction digits using List.reverseRecOn with
  | nil => exact Nat.one_pos
  | append_singleton digits c ih =>
      obtain ⟨hdigits, hc⟩ := List.forall_mem_append.mp h
      have hrange := range_of_isDigit (hc c List.mem_cons_self)
      have hvalue : digitsValue [c] = c.toNat - 48 := Nat.zero_add _
      have hlt := ih hdigits
      rw [digitsValue_append, hvalue, List.length_append, List.length_singleton, pow_succ]
      omega

/-- Characters that are digits, one at least. -/
structure IsDigits (digits : List Char) : Prop where
  ne_nil : digits ≠ []
  all : ∀ c ∈ digits, c.isDigit = true

theorem isDigits_toDigits (n : Nat) : IsDigits (Nat.toDigits 10 n) where
  ne_nil := Nat.toDigits_ne_nil
  all _ hc := Nat.isDigit_of_mem_toDigits (by decide) (by decide) hc

theorem IsDigits.append {first second : List Char} (h : IsDigits first)
    (hsecond : ∀ c ∈ second, c.isDigit = true) : IsDigits (first ++ second) where
  ne_nil := by simp [h.ne_nil]
  all c hc := (List.mem_append.mp hc).elim (h.all c) (hsecond c)

/-- Digits of a number in front of its point: a zero stands alone. -/
structure IsWhole (digits : List Char) : Prop extends IsDigits digits where
  lead : digits.head? = some '0' → digits = ['0']

theorem head?_toDigits {n : Nat} (h : n ≠ 0) : (Nat.toDigits 10 n).head? ≠ some '0' := by
  induction n using Nat.strong_induction_on with
  | _ n ih =>
      rw [Nat.toDigits_eq_if (by decide)]
      split
      next hlt =>
        have hall : ∀ n < 10, n ≠ 0 → [Nat.digitChar n].head? ≠ some '0' := by decide
        exact hall n hlt h
      next hge =>
        rw [List.head?_append_of_ne_nil _ Nat.toDigits_ne_nil]
        exact ih (n / 10) (by omega) (by omega)

theorem isWhole_toDigits (n : Nat) : IsWhole (Nat.toDigits 10 n) where
  toIsDigits := isDigits_toDigits n
  lead h := by
    by_cases hn : n = 0
    · rw [hn]
      rfl
    · exact absurd h (head?_toDigits hn)

/-- What follows does not go on with digits. -/
def EndsDigits (rest : List Char) : Prop := ∀ c ∈ rest.head?, c.isDigit = false

theorem spanDigits_append {digits rest : List Char} (h : ∀ c ∈ digits, c.isDigit = true)
    (hrest : EndsDigits rest) : spanDigits (digits ++ rest) = (digits, rest) :=
  Text.span_append h hrest

theorem readWhole_append {digits rest : List Char} (h : IsWhole digits) (hrest : EndsDigits rest) :
    readWhole (digits ++ rest) = some (digits, rest) := by
  obtain ⟨c, tail, rfl⟩ := List.exists_cons_of_ne_nil h.ne_nil
  by_cases hc : c = '0'
  · subst hc
    rw [(List.cons.inj (h.lead rfl)).2]
    rfl
  · have hspan := spanDigits_append h.all hrest
    unfold readWhole
    split
    next heq => exact absurd (List.cons.inj heq).1 hc
    next => rw [hspan]

theorem readFraction_point {digits rest : List Char} (h : IsDigits digits)
    (hrest : EndsDigits rest) : readFraction ('.' :: (digits ++ rest)) = (digits, rest) := by
  obtain ⟨c, tail, rfl⟩ := List.exists_cons_of_ne_nil h.ne_nil
  rw [readFraction, spanDigits_append h.all hrest]

theorem readFraction_none {rest : List Char} (h : rest.head? ≠ some '.') :
    readFraction rest = ([], rest) := by
  unfold readFraction
  split
  next => simp at h
  next => rfl

theorem readExponent_mark {down : Bool} {digits rest : List Char} (h : IsDigits digits)
    (hrest : EndsDigits rest) :
    readExponent ('e' :: (if down then '-' else '+') :: (digits ++ rest)) =
      (some (down, digits), rest) := by
  obtain ⟨c, tail, rfl⟩ := List.exists_cons_of_ne_nil h.ne_nil
  cases down <;>
    simp only [readExponent, Numeral.sign, true_or, if_true, Bool.false_eq_true, if_false,
      spanDigits_append h.all hrest]

theorem readExponent_none {rest : List Char} (h : rest.head? ≠ some 'e')
    (hcapital : rest.head? ≠ some 'E') : readExponent rest = (none, rest) := by
  unfold readExponent
  split
  next mark tail =>
    rw [if_neg]
    rintro (rfl | rfl)
    · exact h rfl
    · exact hcapital rfl
  next => rfl

/-! ## Spellings -/

/-- What may stand behind a value. -/
def Ends (rest : List Char) : Prop := ∀ c ∈ rest.head?, c = ',' ∨ c = ']' ∨ c = '}'

theorem Ends.endsDigits {rest : List Char} (h : Ends rest) : EndsDigits rest := by
  intro c hc
  rcases h c hc with rfl | rfl | rfl <;> rfl

theorem Ends.head?_ne {rest : List Char} (h : Ends rest) {c : Char}
    (hc : c ≠ ',' ∧ c ≠ ']' ∧ c ≠ '}') : rest.head? ≠ some c := by
  intro hhead
  rcases h c hhead with rfl | rfl | rfl <;> simp at hc

/-- The digits of a number before its point and behind it, and its exponent. -/
structure Spelling where
  whole : List Char
  fraction : List Char
  exponent : Option (Bool × List Char)

namespace Spelling

/-- The text of an exponent. -/
def exponentText : Option (Bool × List Char) → List Char
  | some (down, digits) => 'e' :: (if down then '-' else '+') :: digits
  | none => []

/-- The text of a spelling. -/
def text (s : Spelling) : List Char :=
  s.whole ++ (if s.fraction = [] then [] else '.' :: s.fraction) ++ exponentText s.exponent

/-- All parts of the spelling are digits. -/
structure IsNumeral (s : Spelling) : Prop where
  whole : IsWhole s.whole
  fraction : s.fraction ≠ [] → IsDigits s.fraction
  exponent : ∀ down digits, s.exponent = some (down, digits) → IsDigits digits

theorem endsDigits_exponentText {rest : List Char} (hrest : Ends rest)
    (exponent : Option (Bool × List Char)) : EndsDigits (exponentText exponent ++ rest) := by
  cases exponent with
  | none => exact hrest.endsDigits
  | some part =>
      intro c hc
      cases hc
      rfl

theorem readExponent_exponentText {s : Spelling} (h : s.IsNumeral) {rest : List Char}
    (hrest : Ends rest) : readExponent (exponentText s.exponent ++ rest) = (s.exponent, rest) := by
  cases hexponent : s.exponent with
  | none => exact readExponent_none (hrest.head?_ne (by decide)) (hrest.head?_ne (by decide))
  | some part => exact readExponent_mark (h.exponent _ _ hexponent) hrest.endsDigits

theorem readFraction_text {s : Spelling} (h : s.IsNumeral) {rest : List Char}
    (hrest : Ends rest) :
    readFraction ((if s.fraction = [] then [] else '.' :: s.fraction) ++
        (exponentText s.exponent ++ rest)) = (s.fraction, exponentText s.exponent ++ rest) := by
  split
  next hnone =>
    rw [List.nil_append, hnone]
    apply readFraction_none
    cases hexponent : s.exponent with
    | none => exact hrest.head?_ne (by decide)
    | some part => simp [exponentText]
  next hsome => exact readFraction_point (h.fraction hsome) (endsDigits_exponentText hrest _)

/-- A spelling is read as its parts. -/
theorem readNumber_text {s : Spelling} (h : s.IsNumeral) {rest : List Char} (hrest : Ends rest)
    (negative : Bool) :
    readNumber ((if negative then ['-'] else []) ++ s.text ++ rest) =
      (numberOf negative s.whole s.fraction s.exponent).map (·, rest) := by
  have hends : EndsDigits ((if s.fraction = [] then [] else '.' :: s.fraction) ++
      (exponentText s.exponent ++ rest)) := by
    split
    · exact endsDigits_exponentText hrest _
    · intro c hc
      cases hc
      rfl
  have hwhole := readWhole_append h.whole hends
  have hfraction := readFraction_text h hrest
  have hexponent := readExponent_exponentText h hrest
  have htext : s.text ++ rest = s.whole ++ ((if s.fraction = [] then [] else '.' :: s.fraction) ++
      (exponentText s.exponent ++ rest)) := by
    simp only [text, List.append_assoc]
  -- a spelling begins with a digit, so that no sign is taken from it
  have hunsigned : ∀ tail, s.text ++ rest ≠ '-' :: tail := by
    intro tail heq
    obtain ⟨c, digits, hcons⟩ := List.exists_cons_of_ne_nil h.whole.ne_nil
    have hdigit : c.isDigit = true := h.whole.all c (by simp [hcons])
    rw [htext, hcons] at heq
    rw [(List.cons.inj heq).1] at hdigit
    cases hdigit
  rw [List.append_assoc]
  unfold readNumber
  cases negative with
  | true =>
      simp only [if_true, List.cons_append, List.nil_append, htext, hwhole, Option.bind_eq_bind,
        Option.bind_some, hfraction, hexponent]
      cases numberOf true s.whole s.fraction s.exponent <;> rfl
  | false =>
      simp only [Bool.false_eq_true, if_false, List.nil_append]
      simp only [htext, hwhole, Option.bind_eq_bind, Option.bind_some, hfraction, hexponent]
      cases numberOf false s.whole s.fraction s.exponent <;> rfl

end Spelling

/-! ## Integers -/

theorem applySign_natAbs (i : Int) : Numeral.applySign (decide (i < 0)) i.natAbs = i := by
  unfold Numeral.applySign
  split
  next h =>
    have hneg := of_decide_eq_true h
    omega
  next h =>
    have hpos := of_decide_eq_false (Bool.eq_false_of_not_eq_true h)
    omega

theorem toList_toString (i : Int) : (toString i).toList =
    (if decide (i < 0) then ['-'] else []) ++ Nat.toDigits 10 i.natAbs := by
  rw [Int.toString_eq_repr, Int.repr_eq_if]
  by_cases hi : 0 ≤ i
  · have hnat : i.toNat = i.natAbs := by omega
    simp [hi, Int.not_lt.mpr hi, Nat.toList_repr, hnat]
  · have hnat : (-i).toNat = i.natAbs := by omega
    simp [hi, Int.lt_of_not_ge hi, Nat.toList_repr, hnat]

/-- An integer that is not too long is read back from its text. -/
theorem readNumber_int {i : Int} {rest : List Char} (hrest : Ends rest)
    (hlimit : (Nat.toDigits 10 i.natAbs).length ≤ Numeral.digitLimit) :
    readNumber ((toString i).toList ++ rest) = some (int i, rest) := by
  have hnumeral : Spelling.IsNumeral ⟨Nat.toDigits 10 i.natAbs, [], none⟩ :=
    ⟨isWhole_toDigits _, by simp, by simp⟩
  have hspelt : Spelling.text ⟨Nat.toDigits 10 i.natAbs, [], none⟩ = Nat.toDigits 10 i.natAbs := by
    simp [Spelling.text, Spelling.exponentText]
  have hread := Spelling.readNumber_text hnumeral hrest (decide (i < 0))
  rw [hspelt, ← toList_toString] at hread
  rw [hread, numberOf, if_pos (by simp), if_pos hlimit, digitsValue_toDigits]
  rw [applySign_natAbs]
  rfl

/-! ## Floating point numbers -/

/-- The decimal of a spelling. -/
def Spelling.decimal (s : Spelling) : Decimal :=
  ⟨digitsValue (s.whole ++ s.fraction),
    (match s.exponent with
      | some (down, digits) => Numeral.applySign down (digitsValue digits)
      | none => 0) - s.fraction.length⟩

section Layout

variable {digits : List Char}

theorem isWhole_of_head? (h : IsDigits digits) (hlead : digits.head? ≠ some '0') :
    IsWhole digits where
  toIsDigits := h
  lead := fun hzero => absurd hzero hlead

theorem all_replicate_zero (count : Nat) : ∀ c ∈ List.replicate count '0', c.isDigit = true := by
  intro c hc
  rw [(List.mem_replicate.mp hc).2]
  rfl

/-- A text with a point and no exponent is the decimal of all its digits. -/
theorem value_positional (whole fraction : List Char) :
    (Spelling.decimal ⟨whole, fraction, none⟩).value =
      digitsValue (whole ++ fraction) * 10 ^ (-fraction.length : Int) := by
  simp [Spelling.decimal, Decimal.value]

/-- Two parts are the text of digits with a point somewhere, and its value. -/
structure IsPlaced (digits : List Char) (point : Int) (whole fraction : List Char) : Prop where
  numeral : Spelling.IsNumeral ⟨whole, fraction, none⟩
  fraction_ne_nil : fraction ≠ []
  text : whole ++ '.' :: fraction = (NumberFormat.positional digits point).toList
  value : (digitsValue (whole ++ fraction) * 10 ^ (-fraction.length : Int) : ℚ) =
    digitsValue digits * 10 ^ (point - digits.length)

theorem isWhole_zero : IsWhole ['0'] := ⟨⟨by simp, by simp⟩, fun _ => rfl⟩

/-- Zeros fill the digits up to a point behind them, and one zero stands behind the point. -/
theorem isPlaced_behind (h : IsDigits digits) (hlead : digits.head? ≠ some '0') {before : Nat}
    (hshort : digits.length ≤ before + 1) :
    IsPlaced digits (before + 1 : Nat)
      (digits ++ List.replicate (before + 1 - digits.length) '0') ['0'] where
  numeral := by
    refine ⟨isWhole_of_head? (h.append (all_replicate_zero _)) ?_,
      fun _ => isWhole_zero.toIsDigits, by simp⟩
    rwa [List.head?_append_of_ne_nil _ h.ne_nil]
  fraction_ne_nil := by simp
  text := by
    simp [NumberFormat.positional, List.take_of_length_le hshort, List.drop_of_length_le hshort]
  value := by
    obtain ⟨more, hmore⟩ : ∃ more, before + 1 = digits.length + more :=
      Nat.exists_eq_add_of_le hshort
    have hpower : ((before + 1 : Nat) - digits.length : Int) = more := by omega
    rw [hpower, hmore, Nat.add_sub_cancel_left, List.append_assoc, ← List.replicate_succ',
      digitsValue_append_zeros]
    push_cast
    rw [zpow_natCast, pow_succ]
    field_simp
    simp

/-- A point within the digits cuts them in two. -/
theorem isPlaced_within (h : IsDigits digits) (hlead : digits.head? ≠ some '0') {before : Nat}
    (hlong : before + 1 < digits.length) :
    IsPlaced digits (before + 1 : Nat) (digits.take (before + 1)) (digits.drop (before + 1)) where
  numeral := by
    refine ⟨isWhole_of_head? ⟨?_, fun c hc => h.all c (List.mem_of_mem_take hc)⟩ ?_,
      fun hne => ⟨hne, fun c hc => h.all c (List.mem_of_mem_drop hc)⟩, by simp⟩
    · simp [h.ne_nil]
    · rwa [List.head?_take, if_neg (Nat.succ_ne_zero before)]
  fraction_ne_nil := by simpa using hlong
  text := by
    simp [NumberFormat.positional, Nat.min_eq_left hlong.le, Nat.not_le.mpr hlong]
  value := by
    rw [List.take_append_drop, List.length_drop]
    congr 2
    omega

/-- Zeros fill the digits from a point in front of them, and one zero stands in front of the
point. -/
theorem isPlaced_front (h : IsDigits digits) (count : Nat) :
    IsPlaced digits (-count : Int) ['0'] (List.replicate count '0' ++ digits) where
  numeral := by
    refine ⟨isWhole_zero, fun hne => ⟨hne, fun c hc => ?_⟩, by simp⟩
    exact (List.mem_append.mp hc).elim (all_replicate_zero _ c) (h.all c)
  fraction_ne_nil := by simp [h.ne_nil]
  text := by
    cases count with
    | zero => simp [NumberFormat.positional]
    | succ lead =>
        rw [Nat.cast_succ, ← Int.negSucc_eq]
        simp [NumberFormat.positional]
  value := by
    have hvalue : digitsValue (['0'] ++ (List.replicate count '0' ++ digits)) =
        digitsValue digits := by
      rw [← List.append_assoc]
      exact digitsValue_zeros_append (count + 1) digits
    rw [hvalue]
    congr 2
    simp only [List.length_append, List.length_replicate]
    push_cast
    omega

/-- The point may stand behind the digits, within them or in front of them. -/
theorem exists_isPlaced (h : IsDigits digits) (hlead : digits.head? ≠ some '0') (point : Int) :
    ∃ whole fraction, IsPlaced digits point whole fraction := by
  rcases Int.lt_or_le 0 point with hpos | hneg
  · obtain ⟨before, rfl⟩ : ∃ before : Nat, point = (before + 1 : Nat) :=
      ⟨(point - 1).toNat, by omega⟩
    rcases Nat.lt_or_ge (before + 1) digits.length with hlong | hshort
    · exact ⟨_, _, isPlaced_within h hlead hlong⟩
    · exact ⟨_, _, isPlaced_behind h hlead hshort⟩
  · obtain ⟨count, rfl⟩ : ∃ count : Nat, point = -count := ⟨point.natAbs, by omega⟩
    exact ⟨_, _, isPlaced_front h count⟩

/-- One digit stands in front of the point, and the exponent is its order of magnitude. -/
theorem exists_spelling_scientific (f : NumberFormat) (h : IsDigits digits)
    (hlead : digits.head? ≠ some '0') (exponent : Int) :
    ∃ s : Spelling, s.IsNumeral ∧ s.exponent ≠ none ∧
      s.text = (f.scientific digits exponent).toList ∧
      s.decimal.value = digitsValue digits * 10 ^ (exponent + 1 - digits.length) := by
  obtain ⟨c, tail, rfl⟩ := List.exists_cons_of_ne_nil h.ne_nil
  obtain ⟨hc, htail⟩ := List.forall_mem_cons.mp h.all
  let power := List.replicate (f.exponentWidth - (toString exponent.natAbs).length) '0' ++
    Nat.toDigits 10 exponent.natAbs
  have hpower : IsDigits power :=
    ⟨by simp [power, Nat.toDigits_ne_nil], fun c hc => (List.mem_append.mp hc).elim
      (all_replicate_zero _ c) ((isDigits_toDigits _).all c)⟩
  have hvalue : digitsValue power = exponent.natAbs := by
    rw [digitsValue_zeros_append, digitsValue_toDigits]
  refine ⟨⟨[c], tail, some (decide (exponent < 0), power)⟩, ⟨?_, ?_, ?_⟩, by simp, ?_, ?_⟩
  · exact ⟨⟨by simp, by simpa using hc⟩, fun hzero => absurd hzero hlead⟩
  · exact fun hne => ⟨hne, htail⟩
  · rintro _ _ ⟨⟩
    exact hpower
  · cases tail <;> by_cases hdown : exponent < 0 <;>
      simp [Spelling.text, Spelling.exponentText, NumberFormat.scientific, NumberFormat.padZeros,
        hdown, power, Nat.toString_eq_repr, Nat.toList_repr]
  · simp only [Spelling.decimal, Decimal.value, hvalue, applySign_natAbs, List.singleton_append,
      List.length_cons]
    congr 2
    push_cast
    ring

end Layout

/-- The text of a decimal is a spelling of it, with a point or an exponent. -/
theorem exists_spelling (f : NumberFormat) (d : Decimal) :
    ∃ s : Spelling, s.IsNumeral ∧ (s.fraction ≠ [] ∨ s.exponent ≠ none) ∧
      s.text = (f.layout d).toList ∧ s.decimal.value = d.value := by
  unfold NumberFormat.layout
  by_cases hzero : d.digits = 0
  · refine ⟨⟨['0'], ['0'], none⟩, ⟨isWhole_zero, fun _ => isWhole_zero.toIsDigits, by simp⟩,
      .inl (by simp), ?_, ?_⟩
    · simp [hzero, Spelling.text, Spelling.exponentText]
    · rw [value_positional, Decimal.value_eq_zero_iff.mpr hzero]
      simp [digitsValue]
  · have hdigits := isDigits_toDigits d.digits
    have hlead := head?_toDigits hzero
    simp only [hzero, if_false]
    split
    · obtain ⟨whole, fraction, hplaced⟩ := exists_isPlaced hdigits hlead
        ((Nat.toDigits 10 d.digits).length + d.exponent - 1 + 1)
      refine ⟨⟨whole, fraction, none⟩, hplaced.numeral, .inl hplaced.fraction_ne_nil, ?_, ?_⟩
      · simpa [Spelling.text, Spelling.exponentText, hplaced.fraction_ne_nil] using hplaced.text
      · rw [value_positional, hplaced.value, digitsValue_toDigits, Decimal.value]
        congr 2
        ring
    · obtain ⟨s, hnumeral, hexponent, htext, hvalue⟩ := exists_spelling_scientific f hdigits hlead
        ((Nat.toDigits 10 d.digits).length + d.exponent - 1)
      refine ⟨s, hnumeral, .inr hexponent, htext, ?_⟩
      rw [hvalue, digitsValue_toDigits, Decimal.value]
      congr 2
      ring

/-- A finite number is written in a spelling of its shortest decimal, behind its sign. -/
theorem exists_spelling_render {x : Binary64} (hfinite : x.isFinite = true) :
    ∃ s : Spelling, s.IsNumeral ∧ (s.fraction ≠ [] ∨ s.exponent ≠ none) ∧
      (numberFormat.render x).toList = (if x.negative then ['-'] else []) ++ s.text ∧
      s.decimal.value = (Decimal.shortest x).value := by
  obtain ⟨s, hnumeral, hreal, htext, hvalue⟩ := exists_spelling numberFormat (Decimal.shortest x)
  refine ⟨s, hnumeral, hreal, ?_, hvalue⟩
  have hexponent : x.exponent ≠ 2047 := by simpa [Binary64.isFinite] using hfinite
  have hnan : x.isNaN = false := by simp [Binary64.isNaN, hexponent]
  have hinfinite : x.isInfinite = false := by simp [Binary64.isInfinite, hexponent]
  rw [NumberFormat.render, hnan, hinfinite, htext]
  cases x.negative <;> simp

/-- A finite number is read back from its text. -/
theorem readNumber_float {x : Binary64} (hfinite : x.isFinite = true) {rest : List Char}
    (hrest : Ends rest) :
    readNumber ((numberFormat.render x).toList ++ rest) = some (float x, rest) := by
  obtain ⟨s, hnumeral, hreal, hrender, hvalue⟩ := exists_spelling_render hfinite
  have hnumber : numberOf x.negative s.whole s.fraction s.exponent =
      some (float (s.decimal.toBinary64 x.negative)) := by
    unfold numberOf
    rw [if_neg]
    · rfl
    · simpa [-not_and, not_and_or] using hreal
  rw [hrender, Spelling.readNumber_text hnumeral hrest, hnumber,
    Decimal.toBinary64_congr hvalue, Decimal.toBinary64_shortest hfinite]
  rfl

end Flowgate.Json
