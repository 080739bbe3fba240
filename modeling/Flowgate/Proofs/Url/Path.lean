import Flowgate.Proofs.Url.Percent
import Flowgate.Url.Basic

/-! # Segments of paths

A path is the list of its segments, and bringing it into its one form works on that list: a
segment is added, or one before it is taken away. A text that is put behind a path ends up as
one segment that stands for the text just where the text holds no mark of a path.
-/

namespace Flowgate.Url

/-- The segments of a path. -/
abbrev segments (path : List Char) : List (List Char) := path.splitOn '/'

theorem splitAt_eq_splitOnP (p : Char → Bool) (cs : List Char) :
    Text.splitAt p cs = cs.splitOnP p := by
  induction cs with
  | nil => rfl
  | cons c rest ih =>
      rw [Text.splitAt, List.splitOnP_cons_eq_if_modifyHead, ih]
      split
      · rfl
      · obtain ⟨part, parts, hparts⟩ := List.exists_cons_of_ne_nil (List.splitOnP_ne_nil p rest)
        rw [hparts]
        rfl

/-- A slash begins a new segment, and any other character goes to the first one. -/
theorem segments_cons (c : Char) (rest : List Char) :
    c = '/' ∧ segments (c :: rest) = [] :: segments rest ∨
      c ≠ '/' ∧ ∃ part parts, segments rest = part :: parts ∧
        segments (c :: rest) = (c :: part) :: parts := by
  rw [segments, List.splitOn_cons_eq_if_modifyHead]
  split
  next hslash => exact .inl ⟨by simpa using hslash, rfl⟩
  next hother =>
    obtain ⟨part, parts, hparts⟩ := List.exists_cons_of_ne_nil (List.splitOn_ne_nil '/' rest)
    exact .inr ⟨by simpa using hother, part, parts, hparts, by rw [hparts, List.modifyHead_cons]⟩

theorem not_mem_of_mem_segments {path segment : List Char} (h : segment ∈ segments path) :
    '/' ∉ segment := by
  induction path generalizing segment with
  | nil => simp_all
  | cons c rest ih =>
      rcases segments_cons c rest with ⟨-, hcons⟩ | ⟨hc, part, parts, hrest, hcons⟩
      · rw [hcons] at h
        rcases List.mem_cons.mp h with rfl | h
        · exact List.not_mem_nil
        · exact ih h
      · rw [hcons] at h
        rw [hrest] at ih
        rcases List.mem_cons.mp h with rfl | h
        · exact fun hmem => (List.mem_cons.mp hmem).elim hc.symm (ih List.mem_cons_self)
        · exact ih (List.mem_cons_of_mem part h)

/-- A path is told by its segments. -/
theorem segments_injective {first second : List Char} (h : segments first = segments second) :
    first = second := by
  calc
    first = ['/'].intercalate (segments first) := (List.intercalate_splitOn '/').symm
    _ = ['/'].intercalate (segments second) := congrArg _ h
    _ = second := List.intercalate_splitOn '/'

/-! ## Segments in their one form -/

/-- The segments that are left of others, last first. -/
def climb (before : List (List Char)) (path : List Char) : List (List Char) :=
  (segments path).foldl addSegment before

theorem normalizePath_eq (path : List Char) :
    normalizePath path = ['/'].intercalate (climb [] path).reverse := by
  rw [normalizePath, splitAt_eq_splitOnP]
  rfl

theorem climb_append (before : List (List Char)) (path more : List Char) :
    climb before (path ++ '/' :: more) = climb (climb before path) more := by
  rw [climb, segments, List.splitOn_append_cons_self, List.foldl_append]
  rfl

/-- A segment is added, or it leaves some of those before it. -/
theorem addSegment_cases (before : List (List Char)) (segment : List Char) :
    addSegment before segment <:+ before ∨ addSegment before segment = segment :: before := by
  unfold addSegment
  split
  · exact .inl (List.suffix_refl before)
  · split
    · left
      split
      · exact List.suffix_refl before
      · exact List.drop_suffix 1 before
    · exact .inr rfl

/-- What is left are segments of the path, behind some of those before it. -/
theorem foldl_addSegment (parts before : List (List Char)) :
    ∃ new kept, parts.foldl addSegment before = new ++ kept ∧ kept <:+ before ∧ new ⊆ parts := by
  induction parts generalizing before with
  | nil => exact ⟨[], before, rfl, List.suffix_refl before, List.nil_subset []⟩
  | cons part rest ih =>
      rw [List.foldl_cons]
      obtain ⟨new, kept, hfold, hkept, hnew⟩ := ih (addSegment before part)
      have hmore : new ⊆ part :: rest := List.subset_cons_of_subset part hnew
      rcases addSegment_cases before part with hless | hadded
      · exact ⟨new, kept, hfold, hkept.trans hless, hmore⟩
      · rw [hadded] at hkept
        rcases List.suffix_cons_iff.mp hkept with rfl | hkept
        · refine ⟨new ++ [part], before, by simp [hfold], List.suffix_refl before, ?_⟩
          exact List.append_subset.mpr ⟨hmore, by simp⟩
        · exact ⟨new, kept, hfold, hkept, hmore⟩

theorem not_mem_of_mem_climb {path segment : List Char} (h : segment ∈ climb [] path) :
    '/' ∉ segment := by
  obtain ⟨new, kept, hclimb, hkept, hnew⟩ := foldl_addSegment (segments path) []
  rw [climb, hclimb, List.eq_nil_of_suffix_nil hkept, List.append_nil] at h
  exact not_mem_of_mem_segments (hnew h)

theorem addSegment_of_plain {before : List (List Char)} {segment : List Char}
    (hdot : segment ≠ ['.']) (hdots : segment ≠ ['.', '.']) :
    addSegment before segment = segment :: before := by
  rw [addSegment, if_neg hdot, if_neg hdots]

/-- The root stays below all segments. -/
def IsRooted (before : List (List Char)) : Prop := ∃ above, before = above ++ [[]]

theorem IsRooted.ne_nil {before : List (List Char)} (h : IsRooted before) : before ≠ [] := by
  obtain ⟨above, rfl⟩ := h
  simp

theorem IsRooted.append {before : List (List Char)} (h : IsRooted before)
    (parts : List (List Char)) : IsRooted (parts ++ before) := by
  obtain ⟨above, rfl⟩ := h
  exact ⟨parts ++ above, (List.append_assoc ..).symm⟩

theorem IsRooted.addSegment {before : List (List Char)} (h : IsRooted before)
    (segment : List Char) : IsRooted (addSegment before segment) := by
  unfold Url.addSegment
  split
  · exact h
  · split
    · split
      · exact h
      next hroot =>
        obtain ⟨_ | ⟨part, above⟩, rfl⟩ := h
        · exact absurd rfl hroot
        · exact ⟨above, rfl⟩
    · exact h.append [segment]

theorem IsRooted.foldl {before : List (List Char)} (h : IsRooted before)
    (parts : List (List Char)) : IsRooted (parts.foldl Url.addSegment before) := by
  induction parts generalizing before with
  | nil => exact h
  | cons part rest ih => exact ih (h.addSegment part)

/-- A path that is empty or begins with a slash has a root. -/
theorem isRooted_climb {path : List Char} (h : path = [] ∨ path.head? = some '/') :
    IsRooted (climb [] path) := by
  have hroot : IsRooted [[]] := ⟨[], rfl⟩
  rcases h with rfl | h
  · exact hroot
  · obtain ⟨rest, rfl⟩ := List.head?_eq_some_iff.mp h
    rw [← List.nil_append ('/' :: rest), climb_append]
    exact hroot.foldl _

/-! ## Encoded segments -/

theorem not_mem_percentChar {mark : Char} (hmark : mark ≠ '%') (hhex : ¬ IsHex mark) (c : Char) :
    mark ∉ percentChar c := by
  intro hmem
  obtain ⟨octet, -, hoctet⟩ := List.mem_flatMap.mp hmem
  have hdigit {n : Nat} (hn : n < 16) : mark ≠ upperHexDigit n := by
    rintro rfl
    exact hhex (by simp [IsHex, hexValue?_upperHexDigit hn])
  have hsize := octet.toNat_lt
  simp only [percentOctet, List.mem_cons, List.not_mem_nil, or_false] at hoctet
  rcases hoctet with hsign | hhigh | hlow
  · exact hmark hsign
  · exact hdigit (by omega) hhigh
  · exact hdigit (by omega) hlow

/-- Encoding makes no marks but percent signs. -/
theorem not_mem_percentEncode {keeps : Char → Bool} {mark : Char} (hmark : mark ≠ '%')
    (hhex : ¬ IsHex mark) {cs : List Char} (h : mark ∉ cs) : mark ∉ percentEncode keeps cs := by
  intro hmem
  obtain ⟨c, hc, hmem⟩ := List.mem_flatMap.mp hmem
  split at hmem
  · exact h (List.mem_singleton.mp hmem ▸ hc)
  · exact not_mem_percentChar hmark hhex c hmem

theorem percentEncode_append {keeps : Char → Bool} (first second : List Char) :
    percentEncode keeps (first ++ second) =
      percentEncode keeps first ++ percentEncode keeps second :=
  List.flatMap_append

theorem percentEncode_intercalate (parts : List (List Char)) :
    percentEncode keepsPath (['/'].intercalate parts) =
      ['/'].intercalate (parts.map (percentEncode keepsPath)) := by
  induction parts with
  | nil => rfl
  | cons part rest ih =>
      cases rest with
      | nil => simp
      | cons next rest =>
          rw [List.map_cons] at ih
          rw [List.intercalate_cons_cons, percentEncode_append, percentEncode_append, ih,
            List.map_cons, List.map_cons, List.intercalate_cons_cons]
          rfl

/-- Encoding a path encodes its segments. -/
theorem segments_percentEncode (path : List Char) :
    segments (percentEncode keepsPath path) = (segments path).map (percentEncode keepsPath) := by
  have hjoin : percentEncode keepsPath path =
      ['/'].intercalate ((segments path).map (percentEncode keepsPath)) := by
    rw [← percentEncode_intercalate, segments, List.intercalate_splitOn]
  rw [hjoin]
  refine List.splitOn_intercalate '/' ?_ (by simp)
  intro encoded hencoded
  obtain ⟨segment, hsegment, rfl⟩ := List.mem_map.mp hencoded
  exact not_mem_percentEncode (by decide) (by simp [IsHex, Text.hexValue?])
    (not_mem_of_mem_segments hsegment)

/-- The segments of a path in its one form. -/
theorem segments_normalizePath {path : List Char} (h : climb [] path ≠ []) :
    segments (normalizePath path) = (climb [] path).reverse := by
  rw [normalizePath_eq]
  refine List.splitOn_intercalate '/' ?_ (by simpa using h)
  intro segment hsegment
  exact not_mem_of_mem_climb (List.mem_reverse.mp hsegment)

/-! ## A text put behind a path -/

/-- Segments, each behind a slash. -/
def joined (parts : List (List Char)) : List Char := parts.flatMap ('/' :: ·)

/-- A segment that stays as it is, wherever it stands. -/
structure IsFixed (segment : List Char) : Prop where
  slash : '/' ∉ segment
  dot : segment ≠ ['.']
  dots : segment ≠ ['.', '.']
  encoded : percentEncode keepsPath segment = segment

variable {parts : List (List Char)}

theorem segments_append_joined (path : List Char) (h : ∀ part ∈ parts, '/' ∉ part) :
    segments (path ++ joined parts) = segments path ++ parts := by
  induction parts generalizing path with
  | nil => simp [joined]
  | cons part rest ih =>
      obtain ⟨hpart, hrest⟩ := List.forall_mem_cons.mp h
      have hsplit : path ++ joined (part :: rest) = (path ++ '/' :: part) ++ joined rest := by
        simp [joined]
      rw [hsplit, ih _ hrest, segments, List.splitOn_append_cons_self,
        List.splitOn_eq_singleton hpart, List.append_assoc]
      rfl

theorem foldl_addSegment_of_fixed (before : List (List Char)) (h : ∀ part ∈ parts, IsFixed part) :
    parts.foldl addSegment before = parts.reverse ++ before := by
  induction parts generalizing before with
  | nil => rfl
  | cons part rest ih =>
      obtain ⟨hpart, hrest⟩ := List.forall_mem_cons.mp h
      rw [List.foldl_cons, addSegment_of_plain hpart.dot hpart.dots, ih _ hrest]
      simp

theorem climb_append_joined (before : List (List Char)) (path : List Char)
    (h : ∀ part ∈ parts, IsFixed part) :
    climb before (path ++ joined parts) = parts.reverse ++ climb before path := by
  rw [climb, segments_append_joined path fun part hpart => (h part hpart).slash,
    List.foldl_append, foldl_addSegment_of_fixed _ h]
  rfl

/-- What becomes of a text between fixed segments can be read off the segments that are
left. -/
theorem percentEncode_normalizePath_iff {base s segment : List Char}
    {before behind : List (List Char)} (hbase : IsRooted (climb [] base))
    (hbefore : ∀ part ∈ before, IsFixed part) (hbehind : ∀ part ∈ behind, IsFixed part)
    (hsegment : '/' ∉ segment) :
    percentEncode keepsPath (normalizePath (base ++ joined before ++ '/' :: s ++ joined behind)) =
        percentEncode keepsPath (normalizePath base) ++ joined (before ++ segment :: behind) ↔
      (climb (before.reverse ++ climb [] base) s).map (percentEncode keepsPath) =
        segment :: (before.reverse ++ climb [] base).map (percentEncode keepsPath) := by
  have hfixed {parts : List (List Char)} (h : ∀ part ∈ parts, IsFixed part) :
      parts.map (percentEncode keepsPath) = parts :=
    (List.map_congr_left fun part hpart => (h part hpart).encoded).trans (List.map_id parts)
  have hclimb : climb [] (base ++ joined before ++ '/' :: s ++ joined behind) =
      behind.reverse ++ climb (before.reverse ++ climb [] base) s := by
    rw [climb_append_joined _ _ hbehind, climb_append, climb_append_joined _ _ hbefore]
  have hparts : ∀ part ∈ before ++ segment :: behind, '/' ∉ part := by
    simp only [List.forall_mem_append, List.forall_mem_cons]
    exact ⟨fun part h => (hbefore part h).slash, hsegment, fun part h => (hbehind part h).slash⟩
  have hleft : segments (percentEncode keepsPath
        (normalizePath (base ++ joined before ++ '/' :: s ++ joined behind))) =
      (climb (before.reverse ++ climb [] base) s).reverse.map (percentEncode keepsPath) ++
        behind := by
    have hroot : IsRooted (behind.reverse ++ climb (before.reverse ++ climb [] base) s) :=
      ((hbase.append before.reverse).foldl _).append behind.reverse
    rw [segments_percentEncode, segments_normalizePath (hclimb ▸ hroot.ne_nil), hclimb,
      List.reverse_append, List.reverse_reverse, List.map_append, hfixed hbehind]
  have hright : segments (percentEncode keepsPath (normalizePath base) ++
        joined (before ++ segment :: behind)) =
      (climb [] base).reverse.map (percentEncode keepsPath) ++ before ++ [segment] ++ behind := by
    rw [segments_append_joined _ hparts, segments_percentEncode,
      segments_normalizePath hbase.ne_nil]
    simp
  -- equal paths have equal segments, and the fixed ones behind can be taken off both
  constructor
  · intro h
    have hsegments := congrArg segments h
    rw [hleft, hright, List.append_cancel_right_eq] at hsegments
    have hreversed := congrArg List.reverse hsegments
    simpa [hfixed hbefore] using hreversed
  · intro h
    apply segments_injective
    rw [hleft, hright, List.append_cancel_right_eq]
    apply List.reverse_injective
    simpa [hfixed hbefore] using h

/-- A text that stands for itself as a segment of a path. -/
structure IsSegment (s : List Char) : Prop where
  slash : '/' ∉ s
  octet : ¬ HasOctet s
  dot : s ≠ ['.']
  dots : s ≠ ['.', '.']

theorem keepsPath_of_isHex {a : Char} (h : IsHex a) : keepsPath a = true := by
  have hsmall : a.toNat < 128 := by
    simp only [IsHex, Text.hexValue?] at h
    split at h
    next hdigit => exact lt_of_le_of_lt (UInt32.le_iff_toNat_le.mp hdigit.2) (by decide)
    split at h
    next hlower => exact lt_of_le_of_lt (UInt32.le_iff_toNat_le.mp hlower.2) (by decide)
    split at h
    next hupper => exact lt_of_le_of_lt (UInt32.le_iff_toNat_le.mp hupper.2) (by decide)
    next => cases h
  have hall : ∀ n < 128, (Text.hexValue? (Char.ofNat n)).isSome → keepsPath (Char.ofNat n) := by
    decide
  simpa using hall a.toNat hsmall (by simpa [IsHex] using h)

/-- The octets of a segment are fewer than those of the path, unless it is the whole path. -/
theorem length_segment {path segment : List Char} (h : segment ∈ segments path) :
    segment = path ∧ '/' ∉ path ∨
      (segment.flatMap String.utf8EncodeChar).length <
        (path.flatMap String.utf8EncodeChar).length := by
  induction path generalizing segment with
  | nil => simp_all
  | cons c rest ih =>
      have hsize := c.utf8Size_pos
      simp only [List.flatMap_cons, List.length_append, String.length_utf8EncodeChar]
      rcases segments_cons c rest with ⟨-, hcons⟩ | ⟨hc, part, parts, hrest, hcons⟩
      · right
        rw [hcons] at h
        rcases List.mem_cons.mp h with rfl | h
        · simp only [List.flatMap_nil, List.length_nil]
          omega
        · rcases ih h with ⟨rfl, -⟩ | hlt <;> omega
      · rw [hcons] at h
        rw [hrest] at ih
        rcases List.mem_cons.mp h with rfl | h
        · rcases ih List.mem_cons_self with ⟨rfl, hnone⟩ | hlt
          · exact .inl ⟨rfl, fun hmem => (List.mem_cons.mp hmem).elim hc.symm hnone⟩
          · right
            simp only [List.flatMap_cons, List.length_append, String.length_utf8EncodeChar]
            omega
        · right
          rcases ih (List.mem_cons_of_mem part h) with ⟨rfl, -⟩ | hlt <;> omega

/-- A text is left as one segment that stands for it just where it stands for itself. -/
theorem exists_segment_iff (before : List (List Char)) (s : List Char) :
    (∃ segment, '/' ∉ segment ∧ percentDecode segment = s.flatMap String.utf8EncodeChar ∧
      (climb before s).map (percentEncode keepsPath) =
        segment :: before.map (percentEncode keepsPath)) ↔ IsSegment s := by
  constructor
  · rintro ⟨segment, -, hdecode, hclimb⟩
    have hlength : (climb before s).length = before.length + 1 := by
      simpa using congrArg List.length hclimb
    -- one segment is more than before, so the last one left is new
    obtain ⟨new, kept, hfold, hkept, hnew⟩ := foldl_addSegment (segments s) before
    obtain ⟨first, more, rfl⟩ : ∃ first more, new = first :: more := by
      refine List.exists_cons_of_ne_nil fun hnil => ?_
      rw [climb, hfold, hnil, List.nil_append] at hlength
      have := hkept.length_le
      omega
    have hfirst : segment = percentEncode keepsPath first := by
      rw [climb, hfold, List.cons_append, List.map_cons] at hclimb
      exact (List.cons.inj hclimb).1.symm
    rw [hfirst, percentDecode_percentEncode (by decide) fun _ => keepsPath_of_isHex] at hdecode
    obtain ⟨rfl, hslash⟩ : first = s ∧ '/' ∉ s := by
      refine (length_segment (hnew List.mem_cons_self)).resolve_right fun hlt => ?_
      have hsize := congrArg List.length hdecode
      rcases percentDecode_cases first with ⟨-, heq⟩ | ⟨-, hless⟩
      · rw [heq] at hsize
        omega
      · omega
    rw [climb, segments, List.splitOn_eq_singleton hslash, List.foldl_cons, List.foldl_nil]
      at hlength
    refine ⟨hslash, fun hoctet => ?_, ?_, ?_⟩
    · rcases percentDecode_cases first with ⟨hno, -⟩ | ⟨-, hless⟩
      · exact hno hoctet
      · rw [hdecode] at hless
        exact lt_irrefl _ hless
    · rintro rfl
      simp [addSegment] at hlength
    · rintro rfl
      have hless : (addSegment before ['.', '.']).length ≤ before.length := by
        rw [addSegment, if_neg (by decide), if_pos rfl]
        split <;> simp
      omega
  · rintro ⟨hslash, hoctet, hdot, hdots⟩
    refine ⟨percentEncode keepsPath s, ?_, ?_, ?_⟩
    · exact not_mem_percentEncode (by decide) (by simp [IsHex, Text.hexValue?]) hslash
    · rw [percentDecode_percentEncode (by decide) fun _ => keepsPath_of_isHex]
      exact ((percentDecode_cases s).resolve_right fun h => hoctet h.1).2
    · rw [climb, segments, List.splitOn_eq_singleton hslash, List.foldl_cons, List.foldl_nil,
        addSegment_of_plain hdot hdots, List.map_cons]

end Flowgate.Url
