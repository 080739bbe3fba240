import Flowgate.Digest.Uuid

/-! # The text of an identifier

An identifier is read back from its text: the strokes between the groups are no
digits, and two digits tell an octet. So different identifiers have different texts.
-/

namespace Flowgate

namespace Text

/-- Below sixteen the digits are distinct, and none is a stroke. -/
theorem digitChar_below_sixteen :
    (∀ a < 16, ∀ b < 16, Nat.digitChar a = Nat.digitChar b → a = b) ∧
      ∀ a < 16, Nat.digitChar a ≠ '-' := by
  decide

/-- An octet has two digits, its halves. -/
theorem hexDigits_two {n : Nat} (hn : n < 256) :
    hexDigits 2 n = [(n / 16).digitChar, (n % 16).digitChar] := by
  unfold hexDigits
  rw [Nat.toDigits_eq_if (by decide)]
  by_cases hsmall : n < 16
  · rw [if_pos hsmall, Nat.div_eq_of_lt hsmall, Nat.mod_eq_of_lt hsmall]
    rfl
  · have hhalf : n / 16 < 16 := by omega
    rw [if_neg hsmall, Nat.toDigits_of_lt_base hhalf]
    rfl

theorem hexDigits_two_injective {a b : UInt8} (h : hexDigits 2 a.toNat = hexDigits 2 b.toNat) :
    a = b := by
  have ha := a.toNat_lt
  have hb := b.toNat_lt
  rw [hexDigits_two ha, hexDigits_two hb, List.cons.injEq, List.cons.injEq] at h
  obtain ⟨hhigh, hlow, -⟩ := h
  have hhigh := digitChar_below_sixteen.1 _ (by omega) _ (by omega) hhigh
  have hlow := digitChar_below_sixteen.1 _ (by omega) _ (by omega) hlow
  apply UInt8.toNat_inj.mp
  omega

theorem not_mem_hexDigits_two (b : UInt8) : '-' ∉ hexDigits 2 b.toNat := by
  have hb := b.toNat_lt
  rw [hexDigits_two hb]
  have hhigh := digitChar_below_sixteen.2 (b.toNat / 16) (by omega)
  have hlow := digitChar_below_sixteen.2 (b.toNat % 16) (by omega)
  simp [hhigh.symm, hlow.symm]

end Text

namespace Uuid

/-- The digits of all octets, without strokes. -/
def digits (octets : List UInt8) : List Char :=
  octets.flatMap fun b => Text.hexDigits 2 b.toNat

theorem not_mem_digits (octets : List UInt8) : '-' ∉ digits octets := by
  intro hmem
  obtain ⟨b, -, hmem⟩ := List.mem_flatMap.mp hmem
  exact Text.not_mem_hexDigits_two b hmem

theorem digits_injective : Function.Injective digits := by
  intro first second h
  induction first generalizing second with
  | nil =>
      cases second with
      | nil => rfl
      | cons b rest => simp [digits, Text.hexDigits_two b.toNat_lt] at h
  | cons a others ih =>
      cases second with
      | nil => simp [digits, Text.hexDigits_two a.toNat_lt] at h
      | cons b rest =>
          have hsplit : Text.hexDigits 2 a.toNat ++ digits others =
              Text.hexDigits 2 b.toNat ++ digits rest := by
            simpa only [digits, List.flatMap_cons] using h
          have hlength : (Text.hexDigits 2 a.toNat).length =
              (Text.hexDigits 2 b.toNat).length := by
            rw [Text.hexDigits_two a.toNat_lt, Text.hexDigits_two b.toNat_lt]
            rfl
          obtain ⟨hhead, hrest⟩ := List.append_inj hsplit hlength
          rw [Text.hexDigits_two_injective hhead, ih hrest]

/-- The groups of a text, put together, are the digits that were cut. -/
theorem join_groups (ds : List Char) :
    ds.take 8 ++ ((ds.drop 8).take 4 ++ ((ds.drop 12).take 4 ++ ((ds.drop 16).take 4 ++
      ds.drop 20))) = ds := by
  have hgroup (start stop : Nat) (hstop : start + 4 = stop) :
      (ds.drop start).take 4 ++ ds.drop stop = ds.drop start := by
    rw [← hstop, ← List.drop_drop, List.take_append_drop]
  rw [hgroup 16 20 rfl, hgroup 12 16 rfl, hgroup 8 12 rfl, List.take_append_drop]

/-- Without its strokes the text is the digits of the octets. -/
theorem filter_toText (u : Uuid) : u.toText.toList.filter (· != '-') = digits u.octets := by
  have htext : u.toText.toList =
      (digits u.octets).take 8 ++ '-' :: (((digits u.octets).drop 8).take 4 ++ '-' ::
        (((digits u.octets).drop 12).take 4 ++ '-' :: (((digits u.octets).drop 16).take 4 ++ '-' ::
          (digits u.octets).drop 20))) := by
    rw [toText, String.toList_ofList]
    rfl
  have hkept : (digits u.octets).filter (· != '-') = digits u.octets := by
    rw [List.filter_eq_self]
    intro c hc
    rw [bne_iff_ne]
    rintro rfl
    exact not_mem_digits u.octets hc
  -- the strokes fall out of the text, and the groups between them join up again
  rw [htext]
  simp only [List.filter_append, List.filter_cons, bne_self_eq_false, Bool.false_eq_true, if_false]
  simp only [← List.filter_append, join_groups]
  exact hkept

theorem toText_injective : Function.Injective toText := by
  rintro ⟨first⟩ ⟨second⟩ h
  have hdigits := congrArg (fun text : String => text.toList.filter (· != '-')) h
  simp only [filter_toText] at hdigits
  rw [digits_injective hdigits]

end Uuid

end Flowgate
