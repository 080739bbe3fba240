import Flowgate.Proofs.Text.Utf8
import Flowgate.Text.Hex
import Flowgate.Url.Percent

/-! # Percent encoding and back

What a part of a locator stands for are octets: those behind percent signs, and those of the
characters that stand as they are. Encoding a text does not change what it stands for, and a
text stands for itself just where nothing in it looks like an octet behind a percent sign.
-/

namespace Flowgate.Url

/-- A digit of an octet behind a percent sign. -/
def IsHex (c : Char) : Prop := (Text.hexValue? c).isSome

/-- The octets that a part of a locator stands for. -/
def percentDecode : List Char → List UInt8
  | '%' :: a :: b :: rest =>
      match Text.hexValue? a, Text.hexValue? b with
      | some high, some low => UInt8.ofNat (high * 16 + low) :: percentDecode rest
      | _, _ => String.utf8EncodeChar '%' ++ percentDecode (a :: b :: rest)
  | c :: rest => String.utf8EncodeChar c ++ percentDecode rest
  | [] => []

/-- A percent sign with an octet behind it comes first. -/
def BeginsOctet (cs : List Char) : Prop :=
  ∃ a b rest, cs = '%' :: a :: b :: rest ∧ IsHex a ∧ IsHex b

/-- A percent sign with an octet behind it is there. -/
def HasOctet (cs : List Char) : Prop := ∃ a b, IsHex a ∧ IsHex b ∧ ['%', a, b] <:+: cs

variable {keeps : Char → Bool} {c : Char} {cs rest : List Char}

theorem hasOctet_cons : HasOctet (c :: rest) ↔ BeginsOctet (c :: rest) ∨ HasOctet rest := by
  constructor
  · rintro ⟨a, b, ha, hb, hinfix⟩
    rcases List.infix_cons_iff.mp hinfix with ⟨tail, htail⟩ | hrest
    · exact .inl ⟨a, b, tail, htail.symm, ha, hb⟩
    · exact .inr ⟨a, b, ha, hb, hrest⟩
  · rintro (⟨a, b, tail, htail, ha, hb⟩ | ⟨a, b, ha, hb, hrest⟩)
    · exact ⟨a, b, ha, hb, [], tail, htail.symm⟩
    · exact ⟨a, b, ha, hb, hrest.trans (List.suffix_cons c rest).isInfix⟩

/-! ## Decoding -/

/-- A character that begins no octet stands for itself. -/
theorem percentDecode_cons (h : ¬ BeginsOctet (c :: rest)) :
    percentDecode (c :: rest) = String.utf8EncodeChar c ++ percentDecode rest := by
  by_cases hc : c = '%'
  · subst hc
    match rest with
    | [] => rfl
    | [a] => rfl
    | a :: b :: tail =>
        rw [percentDecode]
        split
        next high low ha hb =>
          exact absurd ⟨a, b, tail, rfl, by simp [IsHex, ha], by simp [IsHex, hb]⟩ h
        next => rfl
  · rw [percentDecode]
    intro a b tail heq
    exact absurd heq hc

/-- An octet behind a percent sign stands for one octet. -/
theorem percentDecode_octet {a b : Char} (ha : IsHex a) (hb : IsHex b) :
    ∃ octet, ∀ tail, percentDecode ('%' :: a :: b :: tail) = octet :: percentDecode tail := by
  obtain ⟨high, hhigh⟩ := Option.isSome_iff_exists.mp ha
  obtain ⟨low, hlow⟩ := Option.isSome_iff_exists.mp hb
  exact ⟨UInt8.ofNat (high * 16 + low), fun tail => by rw [percentDecode, hhigh, hlow]⟩

theorem hexValue?_upperHexDigit {n : Nat} (h : n < 16) :
    Text.hexValue? (upperHexDigit n) = some n := by
  revert n
  decide

theorem percentDecode_percentOctet (octet : UInt8) :
    percentDecode (percentOctet octet ++ rest) = octet :: percentDecode rest := by
  have hhigh := hexValue?_upperHexDigit (n := octet.toNat / 16)
    (by have := octet.toNat_lt; omega)
  have hlow := hexValue?_upperHexDigit (n := octet.toNat % 16) (by omega)
  have hvalue : octet.toNat / 16 * 16 + octet.toNat % 16 = octet.toNat := by omega
  simp only [percentOctet, List.cons_append, List.nil_append, percentDecode, hhigh, hlow, hvalue,
    UInt8.ofNat_toNat]

theorem percentDecode_percentChar (c : Char) :
    percentDecode (percentChar c ++ rest) = String.utf8EncodeChar c ++ percentDecode rest := by
  unfold percentChar
  induction String.utf8EncodeChar c with
  | nil => rfl
  | cons octet more ih =>
      rw [List.flatMap_cons, List.append_assoc, percentDecode_percentOctet, ih, List.cons_append]

/-! ## Encoding -/

theorem percentEncode_cons_of_keeps (h : keeps c = true) :
    percentEncode keeps (c :: rest) = c :: percentEncode keeps rest := by
  simp [percentEncode, h]

theorem percentEncode_cons_of_not_keeps (h : keeps c = false) :
    percentEncode keeps (c :: rest) = percentChar c ++ percentEncode keeps rest := by
  simp [percentEncode, h]

/-- What is encoded begins with a percent sign. -/
theorem exists_percentChar (c : Char) : ∃ tail, percentChar c = '%' :: tail := by
  have hne : String.utf8EncodeChar c ≠ [] := by
    rw [← List.length_pos_iff, String.length_utf8EncodeChar]
    exact c.utf8Size_pos
  obtain ⟨octet, more, hoctets⟩ := List.exists_cons_of_ne_nil hne
  exact ⟨_, by rw [percentChar, hoctets, List.flatMap_cons, percentOctet]; rfl⟩

/-- A digit in front of an encoded text is a digit of the text. -/
theorem percentEncode_eq_cons {a : Char} {tail : List Char} (ha : IsHex a)
    (h : percentEncode keeps cs = a :: tail) :
    ∃ rest, cs = a :: rest ∧ tail = percentEncode keeps rest := by
  cases cs with
  | nil => cases h
  | cons c rest =>
      cases hkeeps : keeps c with
      | true =>
          rw [percentEncode_cons_of_keeps hkeeps] at h
          cases h
          exact ⟨rest, rfl, rfl⟩
      | false =>
          obtain ⟨more, hmore⟩ := exists_percentChar c
          rw [percentEncode_cons_of_not_keeps hkeeps, hmore] at h
          cases h
          cases ha

/-- Encoding what follows a character makes no octet behind it. -/
theorem beginsOctet_of_percentEncode (h : BeginsOctet (c :: percentEncode keeps rest)) :
    BeginsOctet (c :: rest) := by
  obtain ⟨a, b, tail, heq, ha, hb⟩ := h
  obtain ⟨rfl, htail⟩ := List.cons.inj heq
  obtain ⟨others, rfl, hothers⟩ := percentEncode_eq_cons ha htail
  obtain ⟨last, rfl, -⟩ := percentEncode_eq_cons hb hothers.symm
  exact ⟨a, b, last, rfl, ha, hb⟩

/-- Encoding does not change what a text stands for, where percent signs and the digits
behind them are kept. -/
theorem percentDecode_percentEncode (hsign : keeps '%' = true)
    (hhex : ∀ a, IsHex a → keeps a = true) (cs : List Char) :
    percentDecode (percentEncode keeps cs) = percentDecode cs := by
  -- an octet is left behind as a whole, so the induction is on the length
  induction hlength : cs.length using Nat.strong_induction_on generalizing cs with
  | _ length ih =>
      subst hlength
      by_cases hbegins : BeginsOctet cs
      · obtain ⟨a, b, tail, rfl, ha, hb⟩ := hbegins
        obtain ⟨octet, hoctet⟩ := percentDecode_octet ha hb
        rw [percentEncode_cons_of_keeps hsign, percentEncode_cons_of_keeps (hhex a ha),
          percentEncode_cons_of_keeps (hhex b hb), hoctet, hoctet]
        exact congrArg _ (ih _ (by simp; omega) tail rfl)
      · cases cs with
        | nil => rfl
        | cons c rest =>
            rw [percentDecode_cons hbegins, ← ih _ (by simp) rest rfl]
            cases hkeeps : keeps c with
            | true =>
                rw [percentEncode_cons_of_keeps hkeeps]
                exact percentDecode_cons fun h => hbegins (beginsOctet_of_percentEncode h)
            | false =>
                rw [percentEncode_cons_of_not_keeps hkeeps, percentDecode_percentChar]

/-- A text without octets behind percent signs stands for itself, and any other text stands
for fewer octets than it has. -/
theorem percentDecode_cases (cs : List Char) :
    (¬ HasOctet cs ∧ percentDecode cs = cs.flatMap String.utf8EncodeChar) ∨
      HasOctet cs ∧
        (percentDecode cs).length < (cs.flatMap String.utf8EncodeChar).length := by
  induction hlength : cs.length using Nat.strong_induction_on generalizing cs with
  | _ length ih =>
      subst hlength
      by_cases hbegins : BeginsOctet cs
      · right
        obtain ⟨a, b, tail, rfl, ha, hb⟩ := hbegins
        refine ⟨hasOctet_cons.mpr (.inl ⟨a, b, tail, rfl, ha, hb⟩), ?_⟩
        obtain ⟨octet, hoctet⟩ := percentDecode_octet ha hb
        have hsign := Char.utf8Size_pos '%'
        have hfirst := a.utf8Size_pos
        have hshort : (percentDecode tail).length ≤
            (tail.flatMap String.utf8EncodeChar).length := by
          rcases ih _ (by simp; omega) tail rfl with ⟨-, heq⟩ | ⟨-, hlt⟩
          · rw [heq]
          · exact hlt.le
        simp only [hoctet, List.flatMap_cons, List.length_append, List.length_cons,
          String.length_utf8EncodeChar]
        omega
      · cases cs with
        | nil => exact .inl ⟨by simp [HasOctet], rfl⟩
        | cons c rest =>
            rw [percentDecode_cons hbegins, hasOctet_cons, List.flatMap_cons]
            rcases ih _ (by simp) rest rfl with ⟨hno, heq⟩ | ⟨hoctet, hlt⟩
            · exact .inl ⟨not_or.mpr ⟨hbegins, hno⟩, by rw [heq]⟩
            · exact .inr ⟨.inr hoctet, by simpa using hlt⟩

/-! ## Characters that stay -/

theorem toNat_lt_of_isUnreserved (h : isUnreserved c = true) : c.toNat < 128 := by
  simp only [isUnreserved, Bool.or_eq_true, beq_iff_eq] at h
  rcases h with (((halphanum | rfl) | rfl) | rfl) | rfl
  · have hbelow {high : Char} (hle : c.val ≤ high.val) (hhigh : high.toNat < 128) :
        c.toNat < 128 :=
      lt_of_le_of_lt (UInt32.le_iff_toNat_le.mp hle) hhigh
    rcases Bool.or_eq_true_iff.mp halphanum with halpha | hdigit
    · rcases Bool.or_eq_true_iff.mp halpha with hupper | hlower
      · exact hbelow (of_decide_eq_true hupper).2 (by decide)
      · exact hbelow (of_decide_eq_true (Bool.and_eq_true_iff.mp hlower).2) (by decide)
    · exact hbelow (of_decide_eq_true (Bool.and_eq_true_iff.mp hdigit).2) (by decide)
  all_goals decide

/-- Paths and queries keep letters, digits and the four marks. -/
theorem keeps_of_isUnreserved (h : isUnreserved c = true) :
    keepsPath c = true ∧ keepsQuery c = true := by
  have hall : ∀ n < 128, isUnreserved (Char.ofNat n) = true →
      keepsPath (Char.ofNat n) = true ∧ keepsQuery (Char.ofNat n) = true := by
    decide
  simpa using hall c.toNat (toNat_lt_of_isUnreserved h) (by simpa using h)

/-- Octets are written with characters that stay. -/
theorem mem_percentChar {d : Char} (h : d ∈ percentChar c) : d = '%' ∨ isUnreserved d = true := by
  have hdigit : ∀ n < 16, isUnreserved (upperHexDigit n) = true := by
    decide
  obtain ⟨octet, -, hoctet⟩ := List.mem_flatMap.mp h
  have hsize := octet.toNat_lt
  simp only [percentOctet, List.mem_cons, List.not_mem_nil, or_false] at hoctet
  rcases hoctet with rfl | rfl | rfl
  · exact .inl rfl
  · exact .inr (hdigit _ (by omega))
  · exact .inr (hdigit _ (by omega))

theorem percentEncode_of_keeps (h : ∀ c ∈ cs, keeps c = true) : percentEncode keeps cs = cs := by
  induction cs with
  | nil => rfl
  | cons c rest ih =>
      obtain ⟨hc, hrest⟩ := List.forall_mem_cons.mp h
      rw [percentEncode_cons_of_keeps hc, ih hrest]

/-- A path in its form holds none but the characters of a path. -/
theorem keepsPath_of_mem_percentEncode (h : c ∈ percentEncode keepsPath cs) :
    keepsPath c = true := by
  obtain ⟨d, -, hd⟩ := List.mem_flatMap.mp h
  split at hd
  next hkeeps => exact List.mem_singleton.mp hd ▸ hkeeps
  next =>
    rcases mem_percentChar hd with rfl | hdigit
    · decide
    · exact (keeps_of_isUnreserved hdigit).1

end Flowgate.Url
