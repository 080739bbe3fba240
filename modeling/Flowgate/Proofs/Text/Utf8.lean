import Flowgate.Text.Utf8
import Mathlib.Data.List.Basic
import Mathlib.Tactic.IntervalCases

/-! # Texts as octets and back

The octets of a text are read back as its characters, so a text is told by its octets.
-/

namespace Flowgate.Utf8

/-- The octet that carries six bits of a character behind its first octet. -/
def tailOctet (bits : Nat) : UInt8 := UInt8.ofNat (bits % 64 + 128)

theorem toNat_tailOctet (bits : Nat) : (tailOctet bits).toNat = bits % 64 + 128 := by
  rw [tailOctet, UInt8.toNat_ofNat']
  omega

variable {parts : List (Option Char)}

/-- A tail octet in the range that is open adds its bits. -/
theorem step_tailOctet {p : Pending} {bits : Nat} (hlow : p.low.toNat ≤ bits % 64 + 128)
    (hhigh : bits % 64 + 128 ≤ p.high.toNat) :
    Reader.step ⟨some p, parts⟩ (tailOctet bits) =
      if p.owed ≤ 1 then ⟨none, some (Char.ofNat (p.value * 64 + bits % 64)) :: parts⟩
      else ⟨some ⟨p.owed - 1, 0x80, 0xBF, p.value * 64 + bits % 64⟩, parts⟩ := by
  have hrange : p.low ≤ tailOctet bits ∧ tailOctet bits ≤ p.high := by
    rw [UInt8.le_iff_toNat_le, UInt8.le_iff_toNat_le, toNat_tailOctet]
    exact ⟨hlow, hhigh⟩
  simp only [Reader.step, if_pos hrange, toNat_tailOctet, Nat.add_sub_cancel]

/-- Behind the first tail octet the range is that of every tail octet. -/
theorem step_open {owed value bits : Nat} :
    Reader.step ⟨some ⟨owed, 0x80, 0xBF, value⟩, parts⟩ (tailOctet bits) =
      if owed ≤ 1 then ⟨none, some (Char.ofNat (value * 64 + bits % 64)) :: parts⟩
      else ⟨some ⟨owed - 1, 0x80, 0xBF, value * 64 + bits % 64⟩, parts⟩ :=
  step_tailOctet (by change 128 ≤ _; omega) (by change _ ≤ 191; omega)

theorem step_lead {b : UInt8} {p : Pending} (hb : 0x80 ≤ b.toNat) (h : Pending.ofLead? b = some p) :
    Reader.step ⟨none, parts⟩ b = ⟨some p, parts⟩ := by
  have hbig : ¬ b < 0x80 := by
    rw [UInt8.lt_iff_toNat_lt, Nat.not_lt]
    exact hb
  simp only [Reader.step, Reader.begin, if_neg hbig, h]

theorem step_two {lead : Nat} (hlow : 2 ≤ lead) (hhigh : lead < 32) :
    Reader.step ⟨none, parts⟩ (UInt8.ofNat (lead + 192)) =
      ⟨some ⟨1, 0x80, 0xBF, lead⟩, parts⟩ := by
  apply step_lead
  · rw [UInt8.toNat_ofNat']
    omega
  · interval_cases lead <;> rfl

/-- Behind the first octet of three, overlong forms and surrogates are shut out. -/
theorem step_three {lead : Nat} (h : lead < 16) :
    Reader.step ⟨none, parts⟩ (UInt8.ofNat (lead + 224)) =
      ⟨some ⟨2, if lead = 0 then 0xA0 else 0x80, if lead = 13 then 0x9F else 0xBF, lead⟩,
        parts⟩ := by
  apply step_lead
  · rw [UInt8.toNat_ofNat']
    omega
  · interval_cases lead <;> rfl

/-- Behind the first octet of four, overlong forms and what is too large are shut out. -/
theorem step_four {lead : Nat} (h : lead < 5) :
    Reader.step ⟨none, parts⟩ (UInt8.ofNat (lead + 240)) =
      ⟨some ⟨3, if lead = 0 then 0x90 else 0x80, if lead = 4 then 0x8F else 0xBF, lead⟩,
        parts⟩ := by
  apply step_lead
  · rw [UInt8.toNat_ofNat']
    omega
  · interval_cases lead <;> rfl

/-- The octets of a character are read as that character. -/
theorem foldl_step_utf8EncodeChar (c : Char) :
    (String.utf8EncodeChar c).foldl Reader.step ⟨none, parts⟩ = ⟨none, some c :: parts⟩ := by
  have hvalid : c.toNat < 0xD800 ∨ 0xDFFF < c.toNat ∧ c.toNat < 0x110000 := c.valid
  have hchar : Char.ofNat c.toNat = c := Char.ofNat_toNat c
  unfold String.utf8EncodeChar
  generalize hn : c.toNat = n at hvalid hchar
  rw [show c.val.toNat = n from hn]
  dsimp only
  -- one case for each number of octets: what they carry adds up to the character
  split
  next hone =>
    have hvalue : (UInt8.ofNat n).toNat = n := by
      rw [UInt8.toNat_ofNat']
      omega
    have hsmall : UInt8.ofNat n < 0x80 := by
      rw [UInt8.lt_iff_toNat_lt, hvalue]
      change n < 128
      omega
    simp only [List.foldl_cons, List.foldl_nil, Reader.step, Reader.begin, if_pos hsmall, hvalue,
      hchar]
  split
  next htwo =>
    have hbits : n / 64 % 32 * 64 + n % 64 = n := by omega
    change List.foldl Reader.step _ [_, tailOctet n] = _
    rw [List.foldl_cons, step_two (by omega) (by omega), List.foldl_cons, step_open]
    simp [hbits, hchar]
  split
  next hthree =>
    have hbits : (n / 4096 % 16 * 64 + n / 64 % 64) * 64 + n % 64 = n := by omega
    change List.foldl Reader.step _ [_, tailOctet (n / 64), tailOctet n] = _
    rw [List.foldl_cons, step_three (by omega), List.foldl_cons, step_tailOctet ?low ?high]
    case low =>
      dsimp only
      split
      · change 160 ≤ _
        omega
      · change 128 ≤ _
        omega
    case high =>
      dsimp only
      split
      · change _ ≤ 159
        omega
      · change _ ≤ 191
        omega
    rw [if_neg (show ¬ 2 ≤ 1 by decide), List.foldl_cons, step_open]
    simp [hbits, hchar]
  next hfour =>
    have hbits : ((n / 262144 % 8 * 64 + n / 4096 % 64) * 64 + n / 64 % 64) * 64 + n % 64 = n := by
      omega
    change List.foldl Reader.step _ [_, tailOctet (n / 4096), tailOctet (n / 64), tailOctet n] = _
    rw [List.foldl_cons, step_four (by omega), List.foldl_cons, step_tailOctet ?low ?high]
    case low =>
      dsimp only
      split
      · change 144 ≤ _
        omega
      · change 128 ≤ _
        omega
    case high =>
      dsimp only
      split
      · change _ ≤ 143
        omega
      · change _ ≤ 191
        omega
    rw [if_neg (show ¬ 3 ≤ 1 by decide), List.foldl_cons, step_open,
      if_neg (show ¬ 3 - 1 ≤ 1 by decide), List.foldl_cons, step_open]
    simp [hbits, hchar]

theorem foldl_step_encode (cs : List Char) :
    (cs.flatMap String.utf8EncodeChar).foldl Reader.step ⟨none, parts⟩ =
      ⟨none, (cs.map some).reverse ++ parts⟩ := by
  induction cs generalizing parts with
  | nil => rfl
  | cons c rest ih =>
      rw [List.flatMap_cons, List.foldl_append, foldl_step_utf8EncodeChar, ih]
      simp

/-- The octets of a text are read back as the text. -/
theorem decode?_encode (s : String) : decode? (encode s) = some s.toList := by
  have hread : Utf8.parts (encode s) = s.toList.map some := by
    unfold Utf8.parts encode
    rw [foldl_step_encode]
    simp
  rw [decode?, hread]
  induction s.toList with
  | nil => rfl
  | cons c rest ih => simp [ih]

/-- A text is told by its octets. -/
theorem encode_injective {s t : String} (h : encode s = encode t) : s = t := by
  have hchars := congrArg decode? h
  rw [decode?_encode, decode?_encode] at hchars
  exact String.toList_inj.mp (Option.some.inj hchars)

end Flowgate.Utf8
