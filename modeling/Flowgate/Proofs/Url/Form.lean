import Flowgate.Proofs.Text.Cut
import Flowgate.Proofs.Url.Parts
import Flowgate.Proofs.Url.Path
import Flowgate.Url.Form

/-! # Forms and back

The pairs of a form are read back from its text: pairs are parted by ampersands, a name ends
at the first equals sign, and a plus sign is a space. No name and no value holds a mark of the
form when it is encoded, so what is read are the pairs that were written, whatever characters
they hold. A query keeps the text of a form as it stands.
-/

namespace Flowgate.Url

/-- A plus sign stands for a space. -/
def unplus (c : Char) : Char := if c = '+' then ' ' else c

/-- The text that a name or a value of a form stands for. -/
def formDecodeText (cs : List Char) : Option String :=
  (Utf8.decode? (percentDecode (cs.map unplus))).map String.ofList

/-- A pair of a form. Without an equals sign the value is empty. -/
def formDecodePair (cs : List Char) : Option (String × String) := do
  let (name, value) := Text.cutAt (· == '=') cs
  return (← formDecodeText name, ← formDecodeText (value.getD []))

/-- The pairs of a form; none where any of them stands for no text. -/
def formDecode (cs : List Char) : Option (List (String × String)) :=
  if cs.isEmpty then some [] else (Text.splitAt (· == '&') cs).mapM formDecodePair

variable {c : Char} {rest : List Char} {s : String} {pair : String × String}
  {pairs : List (String × String)}

/-! ## Names and values -/

/-- Characters that have a meaning in forms or in percent encoding. -/
theorem ne_of_isUnreserved {mark : Char} (h : isUnreserved c = true)
    (hmark : isUnreserved mark = false) : c ≠ mark := by
  rintro rfl
  rw [h] at hmark
  cases hmark

theorem map_unplus_percentChar (c : Char) : (percentChar c).map unplus = percentChar c := by
  have hplus : '+' ∉ percentChar c :=
    not_mem_percentChar (by decide) (by simp [IsHex, Text.hexValue?]) c
  calc
    (percentChar c).map unplus = (percentChar c).map id :=
      List.map_congr_left fun d hd => if_neg (ne_of_mem_of_not_mem hd hplus)
    _ = percentChar c := List.map_id _

/-- A character is read back as its octets, whatever stands behind it. -/
theorem percentDecode_formChar (c : Char) (rest : List Char) :
    percentDecode ((formChar c).map unplus ++ rest) =
      String.utf8EncodeChar c ++ percentDecode rest := by
  have hplain {c : Char} (hc : c ≠ '%') :
      percentDecode (c :: rest) = String.utf8EncodeChar c ++ percentDecode rest :=
    percentDecode_cons fun ⟨_, _, _, heq, _⟩ => hc (List.cons.inj heq).1
  unfold formChar
  split
  next hspace =>
    subst hspace
    exact hplain (by decide)
  next =>
    split
    next hunreserved =>
      have hplus : unplus c = c := if_neg (ne_of_isUnreserved hunreserved (by decide))
      rw [List.map_singleton, hplus]
      exact hplain (ne_of_isUnreserved hunreserved (by decide))
    next => rw [map_unplus_percentChar, percentDecode_percentChar]

theorem percentDecode_formText (s : String) :
    percentDecode ((formText s).map unplus) = Utf8.encode s := by
  unfold formText Utf8.encode
  induction s.toList with
  | nil => rfl
  | cons c rest ih =>
      rw [List.flatMap_cons, List.map_append, percentDecode_formChar, ih, List.flatMap_cons]

theorem formDecodeText_formText (s : String) : formDecodeText (formText s) = some s := by
  rw [formDecodeText, percentDecode_formText, Utf8.decode?_encode, Option.map_some,
    String.ofList_toList]

/-- What an encoded character is made of. -/
theorem mem_formChar {d : Char} (h : d ∈ formChar c) :
    d = '+' ∨ isUnreserved d = true ∨ d ∈ percentChar c := by
  unfold formChar at h
  split at h
  next => exact .inl (List.mem_singleton.mp h)
  next =>
    split at h
    next hunreserved => exact .inr (.inl (List.mem_singleton.mp h ▸ hunreserved))
    next => exact .inr (.inr h)

/-- A mark of the form is in no name and in no value. -/
theorem not_mem_formText {mark : Char} (hmark : mark = '&' ∨ mark = '=') (s : String) :
    mark ∉ formText s := by
  intro hmem
  obtain ⟨c, -, hc⟩ := List.mem_flatMap.mp hmem
  rcases mem_formChar hc with hplus | hunreserved | hoctets
  · rcases hmark with rfl | rfl <;> cases hplus
  · rcases hmark with rfl | rfl <;> cases hunreserved
  · rcases hmark with rfl | rfl <;>
      exact not_mem_percentChar (by decide) (by simp [IsHex, Text.hexValue?]) c hoctets

/-- A name or a value is not shorter when it is encoded. -/
theorem length_le_length_formText (s : String) : s.length ≤ (formText s).length := by
  rw [← String.length_toList, formText]
  induction s.toList with
  | nil => exact Nat.le_refl 0
  | cons c rest ih =>
      have hchar : 1 ≤ (formChar c).length := by
        obtain ⟨tail, htail⟩ := exists_percentChar c
        unfold formChar
        split
        · exact Nat.le_refl 1
        · split
          · exact Nat.le_refl 1
          · simp [htail]
      rw [List.flatMap_cons, List.length_append, List.length_cons]
      omega

/-! ## Pairs -/

theorem formDecodePair_formPair (pair : String × String) :
    formDecodePair (formPair pair) = some pair := by
  have hname : ∀ c ∈ formText pair.1, (c == '=') = false := fun c hc =>
    beq_eq_false_iff_ne.mpr fun heq => not_mem_formText (.inr heq) pair.1 hc
  have hcut : Text.cutAt (· == '=') (formPair pair) =
      (formText pair.1, some (formText pair.2)) := by
    rw [formPair, Text.cutAt_append hname]
    simp [Text.cutAt]
  unfold formDecodePair
  rw [hcut]
  simp [formDecodeText_formText]

theorem not_mem_formPair (pair : String × String) : '&' ∉ formPair pair := by
  simp [formPair, not_mem_formText]

theorem formPair_ne_nil (pair : String × String) : formPair pair ≠ [] := by
  simp [formPair]

/-! ## Forms -/

/-- The pairs of a form are those that stand between its ampersands. -/
theorem splitAt_formEncode (hpairs : pairs ≠ []) :
    Text.splitAt (· == '&') (formEncode pairs) = pairs.map formPair := by
  induction pairs with
  | nil => exact absurd rfl hpairs
  | cons pair rest ih =>
      have hplain := List.splitOn_eq_singleton (not_mem_formPair pair)
      cases rest with
      | nil => simpa [formEncode, splitAt_eq_splitOnP, List.splitOn] using hplain
      | cons next more =>
          have hmore := ih (List.cons_ne_nil next more)
          rw [splitAt_eq_splitOnP] at hmore ⊢
          change List.splitOn '&' (formPair pair ++ '&' :: formEncode (next :: more)) = _
          rw [List.splitOn_append_cons_self, hplain]
          exact congrArg (formPair pair :: ·) hmore

/-- What is written as a form is read back, whatever the names and the values are. -/
theorem formDecode_formEncode (pairs : List (String × String)) :
    formDecode (formEncode pairs) = some pairs := by
  cases pairs with
  | nil => rfl
  | cons pair rest =>
      have hne : (formEncode (pair :: rest)).isEmpty = false := by
        cases rest <;> simp [formEncode, formPair_ne_nil]
      have hpairs : ((pair :: rest).map formPair).mapM formDecodePair = some (pair :: rest) := by
        rw [List.mapM_map]
        induction pair :: rest with
        | nil => rfl
        | cons pair rest ih => simp [List.mapM_cons, formDecodePair_formPair, ih]
      rw [formDecode, hne, splitAt_formEncode (List.cons_ne_nil pair rest)]
      exact hpairs

/-! ## Forms as queries -/

theorem keepsQuery_of_mem_formText {d : Char} (h : d ∈ formText s) : keepsQuery d = true := by
  obtain ⟨c, -, hc⟩ := List.mem_flatMap.mp h
  rcases mem_formChar hc with rfl | hunreserved | hoctets
  · decide
  · exact (keeps_of_isUnreserved hunreserved).2
  · rcases mem_percentChar hoctets with rfl | hdigit
    · decide
    · exact (keeps_of_isUnreserved hdigit).2

theorem keepsQuery_of_mem_formPair {d : Char} (h : d ∈ formPair pair) : keepsQuery d = true := by
  rcases List.mem_append.mp h with hname | hvalue
  · exact keepsQuery_of_mem_formText hname
  · rcases List.mem_cons.mp hvalue with rfl | hvalue
    · decide
    · exact keepsQuery_of_mem_formText hvalue

theorem keepsQuery_of_mem_formEncode {d : Char} (h : d ∈ formEncode pairs) :
    keepsQuery d = true := by
  induction pairs with
  | nil => cases h
  | cons pair rest ih =>
      cases rest with
      | nil => exact keepsQuery_of_mem_formPair h
      | cons next more =>
          rcases List.mem_append.mp h with hpair | hmore
          · exact keepsQuery_of_mem_formPair hpair
          · rcases List.mem_cons.mp hmore with rfl | hmore
            · decide
            · exact ih hmore

/-- A query holds a form as it was written. -/
theorem percentEncode_formEncode (pairs : List (String × String)) :
    percentEncode keepsQuery (formEncode pairs) = formEncode pairs :=
  percentEncode_of_keeps fun _ => keepsQuery_of_mem_formEncode

variable {base u : Url} {first : Option String}

/-- Of the parts of a locator the query is brought into its form by itself. -/
theorem ofParts_query {scheme authority path : List Char}
    {query fragment : Option (List Char)} (other : Option (List Char))
    (h : ofParts scheme authority path query fragment = .ok u) :
    ofParts scheme authority path other fragment = .ok { u with
      query := other.map fun cs => String.ofList (percentEncode keepsQuery cs) } := by
  unfold ofParts at h ⊢
  simp only [bind_eq_ok, mapError_eq_ok] at h ⊢
  obtain ⟨host, hhost, port, hport, h⟩ := h
  refine ⟨host, hhost, port, hport, ?_⟩
  split at h
  next => cases h
  next hslashes =>
    split at h
    next => cases h
    next hcolon =>
      cases h
      rw [if_neg hslashes, if_neg hcolon]
      rfl

/-- Whether the text of a part is too long. -/
def isLong (part : String × String) : Bool := part.2.length > lengthLimit

/-- The texts that a locator is put together of, each with the name of its part. -/
def namedTexts (scheme authority path : String) (query fragment : Option String) :
    List (String × String) :=
  [("scheme", scheme), ("authority", authority), ("path", path)] ++
    (query.map (("query", ·))).toList ++ (fragment.map (("fragment", ·))).toList

section Texts

variable {scheme authority path : String} {query fragment : Option String}

theorem find?_isLong_eq_none :
    (namedTexts scheme authority path query fragment).find? isLong = none ↔
      ∀ text ∈ [scheme, authority, path] ++ query.toList ++ fragment.toList,
        text.length ≤ lengthLimit := by
  have htexts : [scheme, authority, path] ++ query.toList ++ fragment.toList =
      (namedTexts scheme authority path query fragment).map Prod.snd := by
    cases query <;> cases fragment <;> rfl
  simp only [htexts, List.find?_eq_none, List.forall_mem_map, isLong, decide_eq_true_eq,
    gt_iff_lt, Nat.not_lt]

/-- The first text that is too long is named. -/
theorem ofTexts_of_long {part : String × String}
    (h : (namedTexts scheme authority path query fragment).find? isLong = some part) :
    ofTexts scheme authority path query fragment = .error (.partTooLong part.1) := by
  unfold ofTexts
  dsimp only
  split
  next hfind =>
    cases h.symm.trans hfind
    rfl
  next hfind => cases h.symm.trans hfind

/-- Texts are put together where none of them is too long. -/
theorem ofTexts_eq_ok :
    ofTexts scheme authority path query fragment = .ok u ↔
      (∀ text ∈ [scheme, authority, path] ++ query.toList ++ fragment.toList,
        text.length ≤ lengthLimit) ∧
      ofParts scheme.toList authority.toList path.toList (query.map String.toList)
        (fragment.map String.toList) = .ok u := by
  rw [← find?_isLong_eq_none]
  cases hfind : (namedTexts scheme authority path query fragment).find? isLong with
  | some part => simp [ofTexts_of_long hfind]
  | none =>
      unfold ofTexts
      dsimp only
      split
      next hlong => cases hfind.symm.trans hlong
      next => simp

end Texts

/-- Another query takes the place of one that was put there, unless it is too long itself. -/
theorem withQuery_cases (h : base.withQuery first = .ok u) (text : String) :
    text.length ≤ lengthLimit ∧ base.withQuery (some text) = .ok { u with
        query := some (String.ofList (percentEncode keepsQuery text.toList)) } ∨
      lengthLimit < text.length ∧ base.withQuery (some text) = .error (.partTooLong "query") := by
  obtain ⟨hshort, hparts⟩ := ofTexts_eq_ok.mp h
  rcases Nat.lt_or_ge lengthLimit text.length with hlong | htext
  · have hfront : [("scheme", base.scheme), ("authority", base.authority),
        ("path", base.path)].find? isLong = none := by
      simp only [List.forall_mem_append] at hshort
      simpa [isLong, List.find?_eq_none] using hshort.1.1
    have hfound : (namedTexts base.scheme base.authority base.path (some text)
        base.fragment).find? isLong = some ("query", text) := by
      rw [namedTexts, List.append_assoc, List.find?_append, hfront, Option.none_or]
      exact List.find?_cons_of_pos (decide_eq_true hlong)
    exact .inr ⟨hlong, ofTexts_of_long hfound⟩
  · refine .inl ⟨htext, ofTexts_eq_ok.mpr ⟨?_, ofParts_query (some text.toList) hparts⟩⟩
    simp only [List.forall_mem_append] at hshort ⊢
    exact ⟨⟨hshort.1.1, by simpa using htext⟩, hshort.2⟩

/-- The query of a form; none where the form has no pair. -/
def formQuery (form : List (String × String)) : Option String :=
  if form.isEmpty then none else some (String.ofList (formEncode form))

theorem formQuery_of_ne_nil (h : pairs ≠ []) :
    formQuery pairs = some (String.ofList (formEncode pairs)) := by
  rw [formQuery, List.isEmpty_eq_false_iff.mpr h]
  rfl

/-- A form is read from its query. -/
theorem formDecode_formQuery (form : List (String × String)) :
    formDecode ((formQuery form).getD "").toList = some form := by
  by_cases hform : form = []
  · subst hform
    rfl
  · rw [formQuery_of_ne_nil hform, Option.getD_some, String.toList_ofList, formDecode_formEncode]

/-- A query may be left out where one could be put. -/
theorem withQuery_none (h : base.withQuery first = .ok u) :
    base.withQuery none = .ok { u with query := none } := by
  obtain ⟨hshort, hparts⟩ := ofTexts_eq_ok.mp h
  refine ofTexts_eq_ok.mpr ⟨?_, ofParts_query none hparts⟩
  simp only [List.forall_mem_append] at hshort ⊢
  exact ⟨⟨hshort.1.1, List.forall_mem_nil _⟩, hshort.2⟩

/-- Where a query could be put, a form can be asked with unless it is too long. -/
theorem withQuery_form_cases (h : base.withQuery first = .ok u) (form : List (String × String)) :
    (formEncode form).length ≤ lengthLimit ∧
        base.withQuery (formQuery form) = .ok { u with query := formQuery form } ∨
      lengthLimit < (formEncode form).length ∧
        base.withQuery (formQuery form) = .error (.partTooLong "query") := by
  by_cases hform : form = []
  · subst hform
    exact .inl ⟨Nat.zero_le _, withQuery_none h⟩
  · have hcases := withQuery_cases h (String.ofList (formEncode form))
    rw [String.toList_ofList, percentEncode_formEncode, String.length_ofList] at hcases
    rwa [formQuery_of_ne_nil hform]

end Flowgate.Url
