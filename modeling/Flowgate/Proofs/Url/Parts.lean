import Flowgate.Proofs.Itemwise
import Flowgate.Proofs.Text.Cut
import Flowgate.Url.Basic

/-! # Parts of locators

A locator that names a host has a scheme, two slashes and an authority in front. What is put
behind it goes into the path, the query and the fragment, and nothing of what stands before
them changes.
-/

namespace Flowgate

namespace Url

/-- The text before the path. -/
def origin (u : Url) : String :=
  (if u.scheme = "" then "" else u.scheme ++ ":") ++
    (if u.authority = "" then "" else "//" ++ u.authority)

theorem toText_eq (u : Url) :
    u.toText = u.origin ++ u.path ++ (u.query.map ("?" ++ ·)).getD "" ++
      (u.fragment.map ("#" ++ ·)).getD "" := rfl

variable {scheme authority path : List Char} {query fragment : Option (List Char)} {u : Url}

/-- With a scheme, every part is brought into its form by itself. -/
theorem ofParts_eq_ok (hscheme : scheme ≠ []) :
    ofParts scheme authority path query fragment = .ok u ↔
      ∃ host port, hostForm (splitAuthority authority).2.1 = .ok host ∧
        readPort (String.ofList scheme) (splitAuthority authority).2.2 = .ok port ∧
        u = {
          scheme := String.ofList (scheme.map Char.toLower)
          user := String.ofList (percentEncode keepsUser (splitAuthority authority).1)
          host := String.ofList host
          port
          path := String.ofList (percentEncode keepsPath (normalizePath path))
          query := query.map fun cs => String.ofList (percentEncode keepsQuery cs)
          fragment := fragment.map fun cs => String.ofList (percentEncode keepsFragment cs) } := by
  have habsolute : scheme.isEmpty = false := by simpa using hscheme
  unfold ofParts
  simp only [bind_eq_ok, mapError_eq_ok, habsolute, Bool.not_false, Bool.true_or, Bool.not_true,
    Bool.false_and, Bool.false_eq_true, if_false, if_true]
  constructor
  · rintro ⟨host, hhost, port, hport, hu⟩
    exact ⟨host, port, hhost, hport, (Except.ok.inj hu).symm⟩
  · rintro ⟨host, port, hhost, hport, rfl⟩
    exact ⟨host, hhost, port, hport, rfl⟩

/-! ## Locators with an authority -/

/-- The characters that an authority ends before. -/
def endsAuthority (c : Char) : Bool := c == '/' || c == '?' || c == '#'

/-- A scheme and an authority, as they stand in front of a path. -/
structure IsFront (scheme authority : List Char) : Prop where
  nonempty : scheme ≠ []
  letter : (scheme.headD 'a').isAlpha = true
  scheme : ∀ c ∈ scheme, isSchemeChar c = true
  authority : ∀ c ∈ authority, endsAuthority c = false

/-- The text of a scheme and an authority. -/
def front (scheme authority : List Char) : List Char :=
  scheme ++ ':' :: '/' :: '/' :: authority

theorem splitScheme_append {rest : List Char} (hletter : (scheme.headD 'a').isAlpha = true)
    (hscheme : ∀ c ∈ scheme, isSchemeChar c = true) :
    splitScheme (scheme ++ ':' :: rest) = (scheme, rest) := by
  rw [splitScheme, Text.span_append hscheme (by simp; decide)]
  exact if_pos hletter

theorem splitScheme_eq {cs rest : List Char} (h : splitScheme cs = (scheme, rest))
    (hscheme : scheme ≠ []) :
    cs = scheme ++ ':' :: rest ∧ (scheme.headD 'a').isAlpha = true ∧
      ∀ c ∈ scheme, isSchemeChar c = true := by
  rw [splitScheme, List.span_eq_takeWhile_dropWhile] at h
  split at h
  next first more hspan =>
    obtain ⟨hfirst, hmore⟩ := Prod.mk.inj hspan
    split at h
    next hletter =>
      obtain ⟨rfl, rfl⟩ := Prod.mk.inj h
      refine ⟨?_, hletter, fun c hc => ?_⟩
      · rw [← hfirst, ← hmore, List.takeWhile_append_dropWhile]
      · exact List.mem_takeWhile_imp (hfirst ▸ hc)
    next =>
      cases h
      exact absurd rfl hscheme
  next =>
    cases h
    exact absurd rfl hscheme

theorem not_endsAuthority (c : Char) :
    (c != '/' && c != '?' && c != '#') = !endsAuthority c := by
  simp [endsAuthority, bne, Bool.not_or]

theorem splitSlashes_append {rest : List Char}
    (hauthority : ∀ c ∈ authority, endsAuthority c = false)
    (hrest : ∀ c ∈ rest.head?, endsAuthority c = true) :
    splitSlashes ('/' :: '/' :: (authority ++ rest)) = (authority, rest) := by
  simp only [splitSlashes, not_endsAuthority]
  exact Text.span_append (fun c hc => by simp [hauthority c hc]) fun c hc => by simp [hrest c hc]

theorem splitSlashes_eq {cs rest : List Char} (h : splitSlashes cs = (authority, rest))
    (hauthority : authority ≠ []) :
    cs = '/' :: '/' :: (authority ++ rest) ∧ (∀ c ∈ authority, endsAuthority c = false) ∧
      ∀ c ∈ rest.head?, endsAuthority c = true := by
  unfold splitSlashes at h
  split at h
  next more =>
    simp only [not_endsAuthority, List.span_eq_takeWhile_dropWhile] at h
    obtain ⟨rfl, rfl⟩ := Prod.mk.inj h
    refine ⟨by rw [List.takeWhile_append_dropWhile], fun c hc => ?_, fun c hc => ?_⟩
    · simpa using List.mem_takeWhile_imp hc
    · obtain ⟨tail, htail⟩ := List.head?_eq_some_iff.mp hc
      have hne : more.dropWhile (!endsAuthority ·) ≠ [] := by simp [htail]
      simpa [htail] using List.head_dropWhile_not (!endsAuthority ·) hne
  next =>
    cases h
    exact absurd rfl hauthority

/-- The scheme and the host of a locator come from those of its text. -/
theorem texts_of_ofParts (h : ofParts scheme authority path query fragment = .ok u) :
    u.scheme = String.ofList (scheme.map Char.toLower) ∧
      ∃ host, hostForm (splitAuthority authority).2.1 = .ok host ∧ u.host = String.ofList host := by
  unfold ofParts at h
  simp only [bind_eq_ok, mapError_eq_ok] at h
  obtain ⟨host, hhost, port, -, h⟩ := h
  split at h
  · cases h
  · split at h
    · cases h
    · cases h
      exact ⟨rfl, host, hhost, rfl⟩

/-- A text that is read as a locator is read as its parts. -/
theorem parse_eq_ok {s : String} (h : parse s = .ok u) :
    let (before, fragment) := Text.cutAt (· == '#') s.toList
    let (scheme, rest) := splitScheme before
    let (authority, rest) := splitSlashes rest
    let (path, query) := Text.cutAt (· == '?') rest
    ofParts scheme authority path query fragment = .ok u := by
  unfold parse at h
  dsimp only at h
  split at h
  · cases h
  · split at h
    · cases h
    · exact h

/-- A locator without marks that names a host has a scheme and an authority in front. -/
theorem front_of_parse {s : String} (h : parse s = .ok u) (habsolute : u.isAbsolute = true)
    (hmarks : ∀ c ∈ s.toList, c ≠ '?' ∧ c ≠ '#') :
    ∃ scheme authority path, IsFront scheme authority ∧
      s.toList = front scheme authority ++ path ∧ (path = [] ∨ path.head? = some '/') ∧
      ofParts scheme authority path none none = .ok u := by
  have hread := parse_eq_ok h
  rw [Text.cutAt_of_none fun c hc => by simpa using (hmarks c hc).2] at hread
  obtain ⟨hscheme, hhost⟩ : u.scheme ≠ "" ∧ u.host ≠ "" := by
    simpa [isAbsolute] using habsolute
  obtain ⟨scheme, rest, hsplit⟩ : ∃ scheme rest, splitScheme s.toList = (scheme, rest) :=
    ⟨_, _, rfl⟩
  obtain ⟨authority, path, hslashes⟩ : ∃ authority path, splitSlashes rest = (authority, path) :=
    ⟨_, _, rfl⟩
  simp only [hsplit, hslashes] at hread
  obtain ⟨hschemeText, hhostText⟩ := texts_of_ofParts hread
  -- the locator has a scheme and a host, which come from no empty parts
  have hne : scheme ≠ [] := by
    rintro rfl
    exact hscheme hschemeText
  have hplace : authority ≠ [] := by
    rintro rfl
    obtain ⟨host, hform, htext⟩ := hhostText
    cases hform
    exact hhost htext
  obtain ⟨hcs, hletter, hchars⟩ := splitScheme_eq hsplit hne
  obtain ⟨rfl, hauthority, hend⟩ := splitSlashes_eq hslashes hplace
  have hpath : ∀ c ∈ path, c ≠ '?' ∧ c ≠ '#' := fun c hc => hmarks c (by simp [hcs, hc])
  rw [Text.cutAt_of_none fun c hc => by simpa using (hpath c hc).1] at hread
  refine ⟨scheme, authority, path, ⟨hne, hletter, hchars, hauthority⟩, ?_, ?_, hread⟩
  · simpa [front] using hcs
  · cases path with
    | nil => exact .inl rfl
    | cons c rest =>
        have hc := hend c rfl
        obtain ⟨hquestion, hhash⟩ := hpath c List.mem_cons_self
        simp only [endsAuthority, Bool.or_eq_true, beq_iff_eq] at hc
        exact .inr (congrArg some ((hc.resolve_right hhash).resolve_right hquestion))

/-- What is put behind a front is the path, the query and the fragment. -/
theorem ofParts_of_parse {s : String} {rest : List Char} (hfront : IsFront scheme authority)
    (hs : s.toList = front scheme authority ++ rest)
    (hrest : ∀ c ∈ rest.head?, endsAuthority c = true) (h : parse s = .ok u) :
    let (before, fragment) := Text.cutAt (· == '#') rest
    let (path, query) := Text.cutAt (· == '?') before
    ofParts scheme authority path query fragment = .ok u := by
  have hread := parse_eq_ok h
  have hplain : ∀ c ∈ front scheme authority, (c == '#') = false := by
    intro c hc
    rw [beq_eq_false_iff_ne]
    rintro rfl
    rcases List.mem_append.mp hc with hscheme | hbehind
    · exact absurd (hfront.scheme _ hscheme) (by decide)
    · have hauthority : '#' ∈ authority := by simpa using hbehind
      exact absurd (hfront.authority _ hauthority) (by decide)
  have hbefore : ∀ c ∈ (Text.cutAt (· == '#') rest).1.head?, endsAuthority c = true := by
    intro c hc
    apply hrest
    unfold Text.cutAt at hc
    split at hc
    · exact hc
    · cases rest with
      | nil => cases hc
      | cons first tail =>
          rw [List.takeWhile_cons] at hc
          split at hc
          · exact hc
          · cases hc
  have hsplit : front scheme authority ++ (Text.cutAt (· == '#') rest).1 =
      scheme ++ ':' :: ('/' :: '/' :: (authority ++ (Text.cutAt (· == '#') rest).1)) := by
    simp [front]
  rw [hs, Text.cutAt_append hplain] at hread
  dsimp only at hread
  rw [hsplit, splitScheme_append hfront.letter hfront.scheme] at hread
  dsimp only at hread
  rw [splitSlashes_append hfront.authority hbefore] at hread
  exact hread

/-- A text that begins with a slash, put behind a locator without marks, changes nothing in
front of the path. -/
theorem parse_append {base more : String} {b : Url} (hb : parse base = .ok b)
    (habsolute : b.isAbsolute = true) (hmarks : ∀ c ∈ base.toList, c ≠ '?' ∧ c ≠ '#')
    (hmore : more.toList.head? = some '/') (hu : parse (base ++ more) = .ok u) :
    ∃ (path before added : List Char) (query fragment : Option (List Char)),
      (path = [] ∨ path.head? = some '/') ∧
      b.path = String.ofList (percentEncode keepsPath (normalizePath path)) ∧
      b.query = none ∧ b.fragment = none ∧
      Text.cutAt (· == '#') more.toList = (before, fragment) ∧
      Text.cutAt (· == '?') before = (added, query) ∧
      u = { b with
        path := String.ofList (percentEncode keepsPath (normalizePath (path ++ added)))
        query := query.map fun cs => String.ofList (percentEncode keepsQuery cs)
        fragment := fragment.map fun cs => String.ofList (percentEncode keepsFragment cs) } := by
  obtain ⟨scheme, authority, path, hfront, hbase, hpath, hparts⟩ :=
    front_of_parse hb habsolute hmarks
  obtain ⟨host, port, hhost, hport, rfl⟩ := (ofParts_eq_ok hfront.nonempty).mp hparts
  have hplain (mark : Char) (hmark : mark ≠ '/') (hfree : ∀ c ∈ base.toList, c ≠ mark) :
      ∀ c ∈ path, (c == mark) = false := fun c hc => by
    simpa using hfree c (by simp [hbase, hc])
  have htext : (base ++ more).toList = front scheme authority ++ (path ++ more.toList) := by
    rw [String.toList_append, hbase, List.append_assoc]
  have hread := ofParts_of_parse hfront htext ?_ hu
  · rw [Text.cutAt_append (hplain '#' (by decide) fun c hc => (hmarks c hc).2)] at hread
    dsimp only at hread
    rw [Text.cutAt_append (hplain '?' (by decide) fun c hc => (hmarks c hc).1)] at hread
    obtain ⟨host', port', hhost', hport', rfl⟩ := (ofParts_eq_ok hfront.nonempty).mp hread
    cases hhost.symm.trans hhost'
    cases hport.symm.trans hport'
    exact ⟨path, _, _, _, _, hpath, rfl, rfl, rfl, rfl, rfl, rfl⟩
  · intro c hc
    have hslash : (path ++ more.toList).head? = some '/' := by
      rcases hpath with rfl | hpath
      · exact hmore
      · simp [hpath]
    cases hslash.symm.trans hc
    rfl

end Url

end Flowgate
