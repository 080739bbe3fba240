import Flowgate.Proofs.Url.Address
import Flowgate.Proofs.Url.Form

/-! # Locators of endpoints

Segments that stay as they are can be put behind any locator that names a host, as far as its
length allows: they end up behind the path, and no other part changes.
-/

namespace Flowgate.Url

variable {base : Url} {text : String} {parts : List (List Char)} {cs path : List Char}

/-! ## Segments that stay -/

/-- Letters, digits and the marks other than the dot stay. -/
theorem isFixed_of_isUnreserved (h : ∀ c ∈ cs, isUnreserved c = true ∧ c ≠ '.') : IsFixed cs where
  slash := fun hmem => absurd (h '/' hmem).1 (by decide)
  dot := by
    rintro rfl
    exact (h '.' List.mem_cons_self).2 rfl
  dots := by
    rintro rfl
    exact (h '.' List.mem_cons_self).2 rfl
  encoded := percentEncode_of_keeps fun c hc => (keeps_of_isUnreserved (h c hc).1).1

theorem keepsPath_of_mem_joined (h : ∀ part ∈ parts, IsFixed part) {c : Char}
    (hc : c ∈ joined parts) : keepsPath c = true := by
  obtain ⟨part, hpart, hc⟩ := List.mem_flatMap.mp hc
  rcases List.mem_cons.mp hc with rfl | hc
  · decide
  · rw [← (h part hpart).encoded] at hc
    exact keepsPath_of_mem_percentEncode hc

theorem isControl_of_keepsPath {c : Char} (h : keepsPath c = true) : isControl c = false := by
  simp only [keepsPath, printableBut, Bool.and_eq_true, decide_eq_true_eq] at h
  have hlow : ' '.toNat ≤ c.toNat := UInt32.le_iff_toNat_le.mp h.1.1
  have hhigh : c.toNat ≤ '~'.toNat := UInt32.le_iff_toNat_le.mp h.1.2
  simp only [isControl, Bool.or_eq_false_iff, decide_eq_false_iff_not, beq_eq_false_iff_ne]
  exact ⟨Nat.not_lt.mpr hlow, (Nat.lt_of_le_of_lt hhigh (by decide)).ne⟩

/-- Segments that stay are put behind a path as they are. -/
theorem percentEncode_append_joined (hroot : path = [] ∨ path.head? = some '/')
    (h : ∀ part ∈ parts, IsFixed part) :
    percentEncode keepsPath (normalizePath (path ++ joined parts)) =
      percentEncode keepsPath (normalizePath path) ++ joined parts := by
  have hrooted := isRooted_climb hroot
  have hclimb := climb_append_joined [] path h
  have hfixed : parts.map (percentEncode keepsPath) = parts :=
    (List.map_congr_left fun part hpart => (h part hpart).encoded).trans (List.map_id parts)
  apply segments_injective
  rw [segments_append_joined _ fun part hpart => (h part hpart).slash, segments_percentEncode,
    segments_percentEncode, segments_normalizePath hrooted.ne_nil,
    segments_normalizePath (hclimb ▸ (hrooted.append parts.reverse).ne_nil), hclimb,
    List.reverse_append, List.reverse_reverse, List.map_append, hfixed]

/-! ## Paths in their one form -/

theorem percentEncode_eq_self {keeps : Char → Bool} (h : '%' ∉ percentEncode keeps cs) :
    percentEncode keeps cs = cs := by
  induction cs with
  | nil => rfl
  | cons c rest ih =>
      cases hkeeps : keeps c with
      | true =>
          rw [percentEncode_cons_of_keeps hkeeps] at h ⊢
          rw [ih fun hmem => h (List.mem_cons_of_mem c hmem)]
      | false =>
          obtain ⟨tail, htail⟩ := exists_percentChar c
          rw [percentEncode_cons_of_not_keeps hkeeps, htail] at h
          exact absurd List.mem_cons_self h

/-- No dot segment is left. -/
theorem ne_dots_of_mem_foldl {segment : List Char} {before : List (List Char)}
    (h : segment ∈ parts.foldl addSegment before) :
    segment ∈ before ∨ segment ≠ ['.'] ∧ segment ≠ ['.', '.'] := by
  induction parts generalizing before with
  | nil => exact .inl h
  | cons part rest ih =>
      rcases ih h with hmem | hplain
      · unfold addSegment at hmem
        split at hmem
        · exact .inl hmem
        next hdot =>
          split at hmem
          · split at hmem
            · exact .inl hmem
            · exact .inl (List.mem_of_mem_drop hmem)
          next hdots =>
            rcases List.mem_cons.mp hmem with rfl | hmem
            · exact .inr ⟨hdot, hdots⟩
            · exact .inl hmem
      · exact .inr hplain

/-- A path in its one form has segments that stay. -/
theorem isFixed_of_mem_normalizePath (hroot : path = [] ∨ path.head? = some '/')
    {segment : List Char}
    (h : segment ∈ segments (percentEncode keepsPath (normalizePath path))) :
    IsFixed segment := by
  have hslash := not_mem_of_mem_segments h
  rw [segments_percentEncode, segments_normalizePath (isRooted_climb hroot).ne_nil] at h
  obtain ⟨plain, hplain, rfl⟩ := List.mem_map.mp h
  obtain ⟨hdot, hdots⟩ := (ne_dots_of_mem_foldl (List.mem_reverse.mp hplain)).resolve_left
    List.not_mem_nil
  have hother {dots : List Char} (hdots : '%' ∉ dots) (hne : plain ≠ dots) :
      percentEncode keepsPath plain ≠ dots := by
    rintro rfl
    exact hne (percentEncode_eq_self hdots).symm
  exact ⟨hslash, hother (by decide) hdot, hother (by decide) hdots,
    percentEncode_of_keeps fun c hc => keepsPath_of_mem_percentEncode hc⟩

/-- A path in its one form stays in it. -/
theorem normalizePath_percentEncode (hroot : path = [] ∨ path.head? = some '/') :
    normalizePath (percentEncode keepsPath (normalizePath path)) =
      percentEncode keepsPath (normalizePath path) := by
  rw [normalizePath_eq, climb,
    foldl_addSegment_of_fixed [] fun part hpart => isFixed_of_mem_normalizePath hroot hpart,
    List.append_nil, List.reverse_reverse]
  exact List.intercalate_splitOn '/'

/-! ## Reading a locator -/

/-- What is read as a locator is not too long and holds no control characters. -/
theorem printable_of_parse {u : Url} (h : parse text = .ok u) :
    text.length ≤ lengthLimit ∧ ∀ c ∈ text.toList, isControl c = false := by
  unfold parse at h
  dsimp only at h
  split at h
  next => cases h
  next hshort =>
    split at h
    next => cases h
    next hcontrol =>
      rw [String.length_toList, gt_iff_lt, Nat.not_lt] at hshort
      refine ⟨hshort, ?_⟩
      simpa [List.dropWhile_eq_nil_iff] using hcontrol

/-- A scheme and an authority with a path behind them are read so. -/
theorem parse_front {scheme authority : List Char} (hfront : IsFront scheme authority)
    (htext : text.toList = front scheme authority ++ path)
    (hpath : path = [] ∨ path.head? = some '/') (hmarks : ∀ c ∈ text.toList, c ≠ '?' ∧ c ≠ '#')
    (hlength : text.length ≤ lengthLimit) (hcontrol : ∀ c ∈ text.toList, isControl c = false) :
    parse text = ofParts scheme authority path none none := by
  have hsplit : text.toList = scheme ++ ':' :: ('/' :: '/' :: (authority ++ path)) := by
    simpa [front] using htext
  have hprintable : text.toList.dropWhile (!isControl ·) = [] := by
    simpa [List.dropWhile_eq_nil_iff] using hcontrol
  have hfragment : Text.cutAt (· == '#') text.toList = (text.toList, none) :=
    Text.cutAt_of_none fun c hc => beq_eq_false_iff_ne.mpr (hmarks c hc).2
  have hquery : Text.cutAt (· == '?') path = (path, none) :=
    Text.cutAt_of_none fun c hc => beq_eq_false_iff_ne.mpr (hmarks c (by simp [htext, hc])).1
  have hend : ∀ c ∈ path.head?, endsAuthority c = true := by
    rcases hpath with rfl | hpath
    · intro c hc
      cases hc
    · rw [hpath]
      rintro c ⟨⟩
      rfl
  unfold parse
  dsimp only
  rw [String.length_toList, if_neg (Nat.not_lt.mpr hlength), hprintable]
  dsimp only
  rw [hfragment, hsplit]
  dsimp only
  rw [splitScheme_append hfront.letter hfront.scheme]
  dsimp only
  rw [splitSlashes_append hfront.authority hend]
  dsimp only
  rw [hquery]

/-- Segments that stay can be put behind a locator, as far as its length allows. -/
theorem parse_append_joined (hbase : parse text = .ok base) (habsolute : base.isAbsolute = true)
    (hmarks : ∀ c ∈ text.toList, c ≠ '?' ∧ c ≠ '#') (hne : parts ≠ [])
    (hparts : ∀ part ∈ parts, IsFixed part)
    (hlength : (text ++ String.ofList (joined parts)).length ≤ lengthLimit) :
    parse (text ++ String.ofList (joined parts)) =
      .ok { base with path := base.path ++ String.ofList (joined parts) } := by
  obtain ⟨scheme, authority, path, hfront, htext, hroot, hofParts⟩ :=
    front_of_parse hbase habsolute hmarks
  obtain ⟨host, port, hhost, hport, rfl⟩ := (ofParts_eq_ok hfront.nonempty).mp hofParts
  have hkept : ∀ c ∈ joined parts, keepsPath c = true :=
    fun c hc => keepsPath_of_mem_joined hparts hc
  have hwhole : (text ++ String.ofList (joined parts)).toList =
      front scheme authority ++ (path ++ joined parts) := by
    rw [String.toList_append, htext, String.toList_ofList, List.append_assoc]
  have hrooted : path ++ joined parts = [] ∨ (path ++ joined parts).head? = some '/' := by
    right
    rcases hroot with rfl | hroot
    · obtain ⟨part, rest, rfl⟩ := List.exists_cons_of_ne_nil hne
      rfl
    · simp [hroot]
  have hfree : ∀ c ∈ (text ++ String.ofList (joined parts)).toList, c ≠ '?' ∧ c ≠ '#' := by
    rw [String.toList_append, String.toList_ofList]
    refine List.forall_mem_append.mpr ⟨hmarks, fun c hc => ⟨?_, ?_⟩⟩ <;> rintro rfl
    · exact absurd (hkept _ hc) (by decide)
    · exact absurd (hkept _ hc) (by decide)
  have hcontrol : ∀ c ∈ (text ++ String.ofList (joined parts)).toList, isControl c = false := by
    rw [String.toList_append, String.toList_ofList]
    exact List.forall_mem_append.mpr ⟨(printable_of_parse hbase).2, fun c hc =>
      isControl_of_keepsPath (hkept c hc)⟩
  rw [parse_front hfront hwhole hrooted hfree hlength hcontrol, ofParts_eq_ok hfront.nonempty]
  refine ⟨host, port, hhost, hport, ?_⟩
  rw [percentEncode_append_joined hroot hparts, String.ofList_append]

/-- The path of a locator with segments behind it is in its one form. -/
theorem path_append_joined (hbase : parse text = .ok base) (habsolute : base.isAbsolute = true)
    (hmarks : ∀ c ∈ text.toList, c ≠ '?' ∧ c ≠ '#') (hparts : ∀ part ∈ parts, IsFixed part) :
    normalizePath (base.path.toList ++ joined parts) = base.path.toList ++ joined parts ∧
      percentEncode keepsPath (base.path.toList ++ joined parts) =
        base.path.toList ++ joined parts := by
  obtain ⟨scheme, authority, path, hfront, -, hroot, hofParts⟩ :=
    front_of_parse hbase habsolute hmarks
  obtain ⟨host, port, -, -, rfl⟩ := (ofParts_eq_ok hfront.nonempty).mp hofParts
  have hrooted : path ++ joined parts = [] ∨ (path ++ joined parts).head? = some '/' := by
    rcases hroot with rfl | hroot
    · cases parts with
      | nil => exact .inl rfl
      | cons part rest => exact .inr rfl
    · simp [hroot]
  rw [String.toList_ofList, ← percentEncode_append_joined hroot hparts]
  exact ⟨normalizePath_percentEncode hrooted,
    percentEncode_of_keeps fun c hc => keepsPath_of_mem_percentEncode hc⟩

/-- Another path in its one form does not change what becomes of the other parts. -/
theorem withQuery_path {asked : Url} {query : Option String} {other : String}
    (hasked : base.withQuery query = .ok asked) (habsolute : base.isAbsolute = true)
    (hlength : other.length ≤ lengthLimit) (hnormal : normalizePath other.toList = other.toList)
    (hencoded : percentEncode keepsPath other.toList = other.toList) :
    withQuery { base with path := other } query = .ok { asked with path := other } := by
  have hscheme : base.scheme.toList ≠ [] := by
    intro hnone
    have hempty : base.scheme = "" := String.toList_injective hnone
    simp [isAbsolute, hempty] at habsolute
  obtain ⟨hshort, hparts⟩ := ofTexts_eq_ok.mp hasked
  obtain ⟨host, port, hhost, hport, rfl⟩ := (ofParts_eq_ok hscheme).mp hparts
  refine ofTexts_eq_ok.mpr ⟨?_, (ofParts_eq_ok hscheme).mpr ⟨host, port, hhost, hport, ?_⟩⟩
  · simp only [List.forall_mem_append, List.forall_mem_cons] at hshort ⊢
    exact ⟨⟨⟨hshort.1.1.1, hshort.1.1.2.1, hlength, List.forall_mem_nil _⟩, hshort.1.2⟩, hshort.2⟩
  · rw [hnormal, hencoded, String.ofList_toList]
    rfl

/-- A text that is too long is no locator. -/
theorem parse_of_long (h : lengthLimit < text.length) : parse text = .error .tooLong := by
  unfold parse
  dsimp only
  rw [String.length_toList, if_pos h]
  rfl

end Flowgate.Url
