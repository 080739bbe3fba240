import Flowgate.Proofs.Url.Parts
import Flowgate.Proofs.Url.Path

/-! # Locators of workflows

The locator of a workflow below a base holds its identifier as one segment of the path that
stands for it. A text that is put there as it stands ends up so just where it holds no mark
of a locator.
-/

namespace Flowgate

/-- An identifier without any mark of a locator. -/
structure Url.IsPlain (s : String) : Prop extends Url.IsSegment s.toList where
  marks : ∀ c ∈ s.toList, c ≠ '?' ∧ c ≠ '#'

/-- The locator of a workflow below a base: the identifier is one segment, in front of the
last part, and there is no query. -/
def Url.Addresses (base : Url) (s suffix locator : String) : Prop :=
  ∃ segment : List Char, (∀ mark ∈ ['/', '?', '#'], mark ∉ segment) ∧
    Url.percentDecode segment = Utf8.encode s ∧
    locator = base.toText ++ "/workflows/" ++ String.ofList segment ++ suffix

namespace Url

variable {base u : Url} {s t suffix locator : String}

/-- A locator addresses one workflow at most. -/
theorem Addresses.unique (hs : base.Addresses s suffix locator)
    (ht : base.Addresses t suffix locator) : s = t := by
  obtain ⟨first, -, hfirst, rfl⟩ := hs
  obtain ⟨second, -, hsecond, heq⟩ := ht
  have hsame : first = second := by
    have hchars := congrArg String.toList heq
    simpa using hchars
  subst hsame
  exact Utf8.encode_injective (hfirst.symm.trans hsecond)

/-- A mark that a part does not keep is not in the encoded part. -/
theorem not_mem_percentEncode_of_not_keeps {keeps : Char → Bool} {mark : Char}
    (hkeeps : keeps mark = false) (hmark : mark ≠ '%') (hhex : ¬ IsHex mark) (cs : List Char) :
    mark ∉ percentEncode keeps cs := by
  intro hmem
  obtain ⟨c, -, hmem⟩ := List.mem_flatMap.mp hmem
  split at hmem
  next hkept =>
    rw [← List.mem_singleton.mp hmem, hkeeps] at hkept
    cases hkept
  next => exact not_mem_percentChar hmark hhex c hmem

theorem not_mem_percentEncode_path {mark : Char} (hmark : mark = '?' ∨ mark = '#')
    (cs : List Char) : mark ∉ percentEncode keepsPath cs := by
  rcases hmark with rfl | rfl <;>
    exact not_mem_percentEncode_of_not_keeps (by decide) (by decide)
      (by simp [IsHex, Text.hexValue?]) cs

theorem not_mem_joined {parts : List (List Char)} (h : ∀ part ∈ parts, IsFixed part) {mark : Char}
    (hmark : mark = '?' ∨ mark = '#') : mark ∉ joined parts := by
  intro hmem
  obtain ⟨part, hpart, hmem⟩ := List.mem_flatMap.mp hmem
  rcases List.mem_cons.mp hmem with rfl | hmem
  · rcases hmark with h | h <;> cases h
  · rw [← (h part hpart).encoded] at hmem
    exact not_mem_percentEncode_path hmark part hmem

/-- What an identifier is put between. -/
theorem isFixed_workflows : ∀ part ∈ ["workflows".toList], IsFixed part := by
  intro part hpart
  rw [List.mem_singleton.mp hpart]
  exact ⟨by decide, by decide, by decide, by decide⟩

/-- Whether a locator below a base is the one of an identifier is told by what stands behind
the origin. -/
theorem addresses_toText_iff (horigin : u.origin = base.origin) (hquery : base.query = none)
    (hfragment : base.fragment = none) :
    base.Addresses s suffix u.toText ↔ ∃ segment : List Char,
      (∀ mark ∈ ['/', '?', '#'], mark ∉ segment) ∧ percentDecode segment = Utf8.encode s ∧
      u.path.toList ++ ((u.query.map ("?" ++ ·)).getD "").toList ++
          ((u.fragment.map ("#" ++ ·)).getD "").toList =
        base.path.toList ++ ("/workflows/".toList ++ segment ++ suffix.toList) := by
  have hlocator (segment : List Char) :
      u.toText = base.toText ++ "/workflows/" ++ String.ofList segment ++ suffix ↔
        u.path.toList ++ ((u.query.map ("?" ++ ·)).getD "").toList ++
            ((u.fragment.map ("#" ++ ·)).getD "").toList =
          base.path.toList ++ ("/workflows/".toList ++ segment ++ suffix.toList) := by
    rw [← String.toList_inj, toText_eq, toText_eq, horigin, hquery, hfragment]
    simp [List.append_assoc]
  simp only [Addresses, hlocator]

/-- A locator with a query or a fragment is not the one of an identifier. -/
theorem not_addresses_of_mark (horigin : u.origin = base.origin) (hquery : base.query = none)
    (hfragment : base.fragment = none) {mark : Char} (hmark : mark = '?' ∨ mark = '#')
    (hbase : mark ∉ base.path.toList) (hsuffix : mark ∉ suffix.toList)
    (hmem : mark ∈ ((u.query.map ("?" ++ ·)).getD "").toList ∨
      mark ∈ ((u.fragment.map ("#" ++ ·)).getD "").toList) :
    ¬ base.Addresses s suffix u.toText := by
  rw [addresses_toText_iff horigin hquery hfragment]
  rintro ⟨segment, hsegment, -, heq⟩
  have hright : mark ∉ base.path.toList ++ ("/workflows/".toList ++ segment ++ suffix.toList) := by
    have hfree : mark ∉ segment := hsegment mark (by simpa using .inr hmark)
    have hworkflows : mark ∉ "/workflows/".toList := by
      rcases hmark with rfl | rfl <;> decide
    simp only [List.mem_append, not_or]
    exact ⟨hbase, ⟨hworkflows, hfree⟩, hsuffix⟩
  rw [← heq] at hright
  simp only [List.mem_append, not_or] at hright
  exact hmem.elim hright.1.2 hright.2

/-- A text put between fixed parts of a path ends up as one segment that stands for it just
where it is a segment. -/
theorem exists_address_iff {path : List Char} {before behind : List (List Char)}
    (hroot : path = [] ∨ path.head? = some '/') (hbefore : ∀ part ∈ before, IsFixed part)
    (hbehind : ∀ part ∈ behind, IsFixed part) :
    (∃ segment : List Char, (∀ mark ∈ ['/', '?', '#'], mark ∉ segment) ∧
      percentDecode segment = Utf8.encode s ∧
      percentEncode keepsPath
          (normalizePath (path ++ joined before ++ '/' :: s.toList ++ joined behind)) =
        percentEncode keepsPath (normalizePath path) ++ joined (before ++ segment :: behind)) ↔
      IsSegment s.toList := by
  have hiff {segment : List Char} (hslash : '/' ∉ segment) :=
    percentEncode_normalizePath_iff (s := s.toList) (isRooted_climb hroot) hbefore hbehind hslash
  constructor
  · rintro ⟨segment, hsegment, hdecode, hchars⟩
    have hslash : '/' ∉ segment := hsegment '/' (by simp)
    exact (exists_segment_iff _ _).mp ⟨segment, hslash, hdecode, (hiff hslash).mp hchars⟩
  · intro hsegment
    obtain ⟨segment, hslash, hdecode, hchars⟩ :=
      (exists_segment_iff (before.reverse ++ climb [] path) s.toList).mpr hsegment
    refine ⟨segment, ?_, hdecode, (hiff hslash).mpr hchars⟩
    -- the segment is among those left, and all of these are encoded
    obtain ⟨part, -, rfl⟩ : ∃ part ∈ climb (before.reverse ++ climb [] path) s.toList,
        percentEncode keepsPath part = segment :=
      List.mem_map.mp (hchars ▸ List.mem_cons_self)
    simp only [List.forall_mem_cons]
    exact ⟨hslash, not_mem_percentEncode_path (.inl rfl) part,
      not_mem_percentEncode_path (.inr rfl) part, nofun⟩

/-- What is put behind a base for an identifier: the identifier between fixed parts. -/
theorem toList_endpoint {behind : List (List Char)} (hsuffix : suffix.toList = joined behind) :
    ("/workflows/" ++ s ++ suffix).toList =
      joined ["workflows".toList] ++ '/' :: s.toList ++ joined behind := by
  simp [hsuffix, joined]

/-- Only the identifier may hold a mark. -/
theorem cutAt_endpoint {behind : List (List Char)} (hbehind : ∀ part ∈ behind, IsFixed part)
    (hsuffix : suffix.toList = joined behind) {mark : Char} (hmark : mark = '?' ∨ mark = '#') :
    (Text.cutAt (· == mark) ("/workflows/" ++ s ++ suffix).toList).2 = none ↔
      mark ∉ s.toList := by
  have hbefore := not_mem_joined isFixed_workflows hmark
  have hafter := not_mem_joined hbehind hmark
  rw [Text.cutAt_snd_eq_none, toList_endpoint hsuffix]
  constructor
  · intro h hmem
    simpa using h mark (by simp [hmem])
  · intro h c hc
    rw [beq_eq_false_iff_ne]
    rintro rfl
    rcases hmark with rfl | rfl <;> simp_all

/-- An identifier between fixed parts of a path ends up as one segment that stands for it
just where it is plain. -/
theorem addresses_parse_iff {text : String} {behind : List (List Char)}
    (hbase : parse text = .ok base) (habsolute : base.isAbsolute = true)
    (hmarks : ∀ c ∈ text.toList, c ≠ '?' ∧ c ≠ '#') (hbehind : ∀ part ∈ behind, IsFixed part)
    (hsuffix : suffix.toList = joined behind)
    (hu : parse (text ++ ("/workflows/" ++ s ++ suffix)) = .ok u) :
    base.Addresses s suffix u.toText ↔ IsPlain s := by
  obtain ⟨path, before, added, query, fragment, hroot, hpath, hquery, hfragment, hhashes,
      hquestions, hparts⟩ := parse_append hbase habsolute hmarks (by simp) hu
  have hfree {mark : Char} (hmark : mark = '?' ∨ mark = '#') :
      mark ∉ base.path.toList ∧ mark ∉ suffix.toList := by
    refine ⟨?_, hsuffix ▸ not_mem_joined hbehind hmark⟩
    rw [hpath, String.toList_ofList]
    exact not_mem_percentEncode_path hmark _
  have hcut {mark : Char} (hmark : mark = '?' ∨ mark = '#') :=
    cutAt_endpoint (s := s) hbehind hsuffix hmark
  by_cases hhash : '#' ∈ s.toList
  · refine iff_of_false ?_ fun hplain => (hplain.marks _ hhash).2 rfl
    have hfragment' := (hcut (.inr rfl)).not.mpr (not_not_intro hhash)
    rw [hhashes] at hfragment'
    obtain ⟨text, rfl⟩ := Option.ne_none_iff_exists'.mp hfragment'
    refine not_addresses_of_mark (by rw [hparts]; rfl) hquery hfragment (.inr rfl)
      (hfree (.inr rfl)).1 (hfree (.inr rfl)).2 (.inr ?_)
    rw [hparts]
    simp
  rw [Text.cutAt_of_snd ((hcut (.inr rfl)).mpr hhash)] at hhashes
  obtain ⟨rfl, rfl⟩ := Prod.mk.inj hhashes
  by_cases hquestion : '?' ∈ s.toList
  · refine iff_of_false ?_ fun hplain => (hplain.marks _ hquestion).1 rfl
    have hquery' := (hcut (.inl rfl)).not.mpr (not_not_intro hquestion)
    rw [hquestions] at hquery'
    obtain ⟨text, rfl⟩ := Option.ne_none_iff_exists'.mp hquery'
    refine not_addresses_of_mark (by rw [hparts]; rfl) hquery hfragment (.inl rfl)
      (hfree (.inl rfl)).1 (hfree (.inl rfl)).2 (.inl ?_)
    rw [hparts]
    simp
  rw [Text.cutAt_of_snd ((hcut (.inl rfl)).mpr hquestion)] at hquestions
  obtain ⟨rfl, rfl⟩ := Prod.mk.inj hquestions
  -- without marks all that stands behind the base is put behind its path
  have hmarked : ∀ c ∈ s.toList, c ≠ '?' ∧ c ≠ '#' := fun c hc =>
    ⟨fun h => hquestion (h ▸ hc), fun h => hhash (h ▸ hc)⟩
  have hleft : u.path.toList ++ ((u.query.map ("?" ++ ·)).getD "").toList ++
      ((u.fragment.map ("#" ++ ·)).getD "").toList = percentEncode keepsPath (normalizePath
        (path ++ joined ["workflows".toList] ++ '/' :: s.toList ++ joined behind)) := by
    rw [hparts, toList_endpoint hsuffix]
    simp
  have hright (segment : List Char) :
      base.path.toList ++ ("/workflows/".toList ++ segment ++ suffix.toList) =
        percentEncode keepsPath (normalizePath path) ++
          joined (["workflows".toList] ++ segment :: behind) := by
    rw [hpath, hsuffix]
    simp [joined]
  rw [addresses_toText_iff (by rw [hparts]; rfl) hquery hfragment]
  simp only [hleft, hright, exists_address_iff hroot isFixed_workflows hbehind]
  exact ⟨fun hsegment => ⟨hsegment, hmarked⟩, fun hplain => hplain.toIsSegment⟩

end Url

end Flowgate
