import Flowgate.Proofs.Json.Fields
import Flowgate.Proofs.Listing.Composition
import Flowgate.Proofs.Listing.Places

/-! # Tags that are none

What is wanted of a workflow are tags with a text for a name, so that everything else among its
tags can be left out without a change to the matches. Nearly all of it does no harm where it is,
but the name of a tag is looked up as it stands: a list or an object for a name is a fault, and
one such workflow is enough for it.
-/

namespace Flowgate.Listing

variable {v workflow : Json} {workflows : List Json} {wanted : List String} {fault : Fault}

/-- A text is a tag, and so is an object with a text for its name. -/
def isTag : Json → Bool
  | .str _ => true
  | .obj fields =>
      match Json.getField "name" fields with
      | .str _ => true
      | _ => false
  | _ => false

/-- The fields of a workflow with nothing but tags for its tags: what is no list is taken away, and
out of a list everything that is no tag. -/
def tidyFields (fields : List (String × Json)) : List (String × Json) :=
  match fields.lookup "tags" with
  | some (.arr tags) => Json.setField "tags" (.arr (tags.filter isTag)) fields
  | _ => fields.filter fun field => field.1 != "tags"

/-- A workflow with nothing but tags for its tags. -/
def tidy : Json → Json
  | .obj fields => .obj (tidyFields fields)
  | v => v

/-- The criteria of those who want one of several tags. -/
def tagged (wanted : List String) : Criteria := ⟨.null, .null, texts wanted⟩

/-! ## The names of tags -/

theorem isTag_eq (v : Json) : isTag v = (tagName? v).any (·.IsText) := by
  cases v with
  | obj fields =>
      simp only [isTag, tagName?, Option.any_some]
      cases Json.getField "name" fields <;> rfl
  | _ => rfl

theorem filterMap_filter_isTag (tags : List Json) :
    (tags.filter isTag).filterMap tagName? = (tags.filterMap tagName?).filter (·.IsText) := by
  induction tags with
  | nil => rfl
  | cons tag rest ih =>
      rw [List.filter_cons, isTag_eq]
      cases hname : tagName? tag with
      | none => simp [hname, ih]
      | some name => by_cases htext : name.IsText <;> simp [hname, htext, ih]

theorem lookup_tidyFields (fields : List (String × Json)) :
    (tidyFields fields).lookup "tags" =
      match fields.lookup "tags" with
      | some (.arr tags) => some (.arr (tags.filter isTag))
      | _ => none := by
  unfold tidyFields
  split
  · rw [Json.lookup_setField, if_pos rfl]
  · rw [Json.lookup_filter_key (· != "tags")]
    rfl

/-- What is left of the names of its tags in a tidy workflow are the texts. -/
theorem tagsOf_tidy (workflow : Json) :
    tagsOf (tidy workflow) = (tagsOf workflow).filter (·.IsText) := by
  cases workflow with
  | obj fields =>
      simp only [tagsOf, tidy, fieldOf, Json.field?, lookup_tidyFields]
      cases fields.lookup "tags" with
      | none => rfl
      | some tags =>
          cases tags with
          | arr entries => exact filterMap_filter_isTag entries
          | _ => rfl
  | _ => rfl

theorem isText_of_same {tag : String} {name : Json} (h : (Json.str tag).same name = true) :
    name.IsText := by
  cases name with
  | str s => exact ⟨s, rfl⟩
  | _ => simp [Json.same, Json.sameNumber, Json.number?] at h

/-- A workflow has one of the wanted tags, tidy or not. -/
theorem isTagged_tidy (wanted : List String) (workflow : Json) :
    isTagged (texts wanted) (tidy workflow) = isTagged (texts wanted) workflow := by
  by_cases hwanted : wanted = []
  · simp [hwanted, isTagged, texts, Json.truthy]
  · rw [Bool.eq_iff_iff, isTagged_texts hwanted, isTagged_texts hwanted, tagsOf_tidy]
    constructor
    · rintro ⟨name, hname, hsame⟩
      exact ⟨name, List.mem_of_mem_filter hname, hsame⟩
    · rintro ⟨name, hname, tag, htag, hsame⟩
      refine ⟨name, List.mem_filter.mpr ⟨hname, ?_⟩, tag, htag, hsame⟩
      exact decide_eq_true (isText_of_same hsame)

theorem isTaggable_tidy (h : ∃ fields, workflow = .obj fields) : IsTaggable (tidy workflow) := by
  obtain ⟨fields, rfl⟩ := h
  constructor
  · exact ⟨tidyFields fields, rfl⟩
  · intro name hname
    rw [tagsOf_tidy] at hname
    exact isKey_of_isTextOrNull (.inr (of_decide_eq_true (List.mem_filter.mp hname).2))

/-! ## Faults -/

theorem exists_of_keep_eq_error {test : Json → Except Fault Bool}
    (h : keep test workflows = .error fault) : ∃ v ∈ workflows, test v = .error fault := by
  induction workflows with
  | nil => cases h
  | cons v rest ih =>
      rw [keep, bind_eq_error] at h
      rcases h with hfirst | ⟨passes, -, hrest⟩
      · exact ⟨v, List.mem_cons_self, hfirst⟩
      · rcases bind_eq_error.mp hrest with hothers | ⟨kept, -, hkept⟩
        · obtain ⟨other, hother, hfault⟩ := ih hothers
          exact ⟨other, List.mem_cons_of_mem v hother, hfault⟩
        · cases hkept

theorem fault_of_asKey (h : v.asKey = .error fault) : ∃ kind, fault = .notKey kind := by
  cases v <;> cases h <;> exact ⟨_, rfl⟩

theorem fault_of_hasTag {wanted : List Json} (hobject : ∃ fields, workflow = .obj fields)
    (h : hasTag wanted workflow = .error fault) : ∃ kind, fault = .notKey kind := by
  have hnames : tagNames workflow = .ok (tagsOf workflow) := tagNames_eq_ok_iff.mpr ⟨hobject, rfl⟩
  simp only [hasTag, hnames, bind_eq_error] at h
  rcases h with hfault | ⟨names, hok, hkeys⟩
  · cases hfault
  · rcases hkeys with hfault | ⟨keys, -, hpure⟩
    · obtain ⟨name, -, hname⟩ := exists_of_mapM_eq_error hfault
      exact fault_of_asKey hname
    · cases hpure

/-! ## Listings -/

theorem isMetBy_tagged (wanted : List String) (workflow : Json) :
    (tagged wanted).isMetBy workflow = isTagged (texts wanted) workflow := by
  simp [tagged, Criteria.isMetBy, isNamed, isInState, Json.isNull]

theorem places_tidy (wanted : List String) (workflows : List Json) :
    (tagged wanted).places workflows = (tagged wanted).places (workflows.map tidy) := by
  apply places_congr
  apply List.forall₂_map_right_iff.mpr
  apply List.forall₂_same.mpr
  intro workflow _
  rw [isMetBy_tagged, isMetBy_tagged, isTagged_tidy]

theorem select_tagged_eq (wanted : List String) (workflows : List Json) :
    (tagged wanted).select workflows = tagStep (texts wanted) workflows :=
  rfl

theorem isKey_of_mem_texts {tag : Json} (h : tag ∈ wanted.map Json.str) : IsKey tag := by
  obtain ⟨s, -, rfl⟩ := List.mem_map.mp h
  exact isKey_of_isTextOrNull (.inr ⟨s, rfl⟩)

theorem select_tagged (h : wanted = [] ∨ ∀ workflow ∈ workflows, IsTaggable workflow) :
    (tagged wanted).select workflows = .ok (workflows.filter (isTagged (texts wanted))) := by
  rw [select_tagged_eq]
  refine tagStep_eq_ok_iff.mpr ⟨?_, rfl⟩
  intro hset
  have hwanted : wanted ≠ [] := by
    rintro rfl
    cases hset
  exact ⟨⟨wanted.map .str, rfl, fun tag htag => isKey_of_mem_texts htag⟩, h.resolve_left hwanted⟩

theorem select_tagged_eq_keep (hwanted : wanted ≠ []) :
    (tagged wanted).select workflows = keep (hasTag (wantedTags (texts wanted))) workflows := by
  have hset : (texts wanted).truthy = true := by simp [texts, Json.truthy, hwanted]
  have hkeys : (wanted.map Json.str).mapM Json.asKey = .ok (wanted.map .str) :=
    mapM_asKey_eq_ok_iff.mpr ⟨fun tag htag => isKey_of_mem_texts htag, rfl⟩
  rw [select_tagged_eq, tagStep, if_pos hset]
  change (wanted.map Json.str).mapM Json.asKey >>= _ = _
  rw [hkeys]
  rfl

theorem select_tagged_of_untaggable (hwanted : wanted ≠ [])
    (h : ∀ workflow ∈ workflows, ∃ fields, workflow = .obj fields)
    (hworkflow : workflow ∈ workflows) (huntaggable : ¬ IsTaggable workflow) :
    ∃ kind, (tagged wanted).select workflows = .error (.notKey kind) := by
  have hset : (texts wanted).truthy = true := by simp [texts, Json.truthy, hwanted]
  rw [select_tagged_eq_keep hwanted]
  cases hrun : keep (hasTag (wantedTags (texts wanted))) workflows with
  | ok found =>
      have hready := ((decides_hasTag hset).keep_eq_ok_iff.mp hrun).1
      exact absurd (hready workflow hworkflow) huntaggable
  | error fault =>
      obtain ⟨other, hother, hfault⟩ := exists_of_keep_eq_error hrun
      obtain ⟨kind, rfl⟩ := fault_of_hasTag (h other hother) hfault
      exact ⟨kind, rfl⟩

/-- Whatever is found among the tags of workflows, a tidy listing can always be looked through for
wanted tags. So can the listing itself unless a tag has a list or an object for its name, and
then the matches are at the same places; with such a tag there is a fault. -/
theorem tagged_page_by_names (wanted : List String)
    (h : ∀ workflow ∈ workflows, ∃ fields, workflow = .obj fields) (offset limit : Int) :
    ∃ clean, (tagged wanted).page offset limit (workflows.map tidy) = .ok clean ∧
      ((wanted = [] ∨ ∀ workflow ∈ workflows, IsTaggable workflow) →
        ∃ page, (tagged wanted).page offset limit workflows = .ok page ∧
          Alike workflows (workflows.map tidy) ((tagged wanted).places workflows) page clean) ∧
      (wanted ≠ [] → ∀ workflow ∈ workflows, ¬ IsTaggable workflow →
        ∃ kind, (tagged wanted).page offset limit workflows = .error (.notKey kind)) := by
  have htidy : ∀ workflow ∈ workflows.map tidy, IsTaggable workflow := by
    intro cleaned hcleaned
    obtain ⟨workflow, hworkflow, rfl⟩ := List.mem_map.mp hcleaned
    exact isTaggable_tidy (h workflow hworkflow)
  have hclean : (tagged wanted).select (workflows.map tidy) = .ok _ := select_tagged (.inr htidy)
  have hpage := Criteria.page_of_select hclean offset limit
  refine ⟨_, hpage, ?_, ?_⟩
  · intro htaggable
    have hselect := select_tagged htaggable
    have hrun := Criteria.page_of_select hselect offset limit
    have hboth : Abreast (fun _ _ => True) ((tagged wanted).select workflows)
        ((tagged wanted).select (workflows.map tidy)) := by
      rw [hselect, hclean]
      exact .ok trivial
    have halike : Abreast (Alike workflows (workflows.map tidy) ((tagged wanted).places workflows))
        ((tagged wanted).page offset limit workflows)
        ((tagged wanted).page offset limit (workflows.map tidy)) :=
      alike_run (places_tidy wanted workflows) hboth ⟨.int offset, .int limit⟩
    rw [hrun, hpage] at halike
    cases halike with
    | ok hshown => exact ⟨_, hrun, hshown⟩
  · intro hwanted workflow hworkflow huntaggable
    obtain ⟨kind, hkind⟩ := select_tagged_of_untaggable hwanted h hworkflow huntaggable
    refine ⟨kind, ?_⟩
    change (tagged wanted).select workflows >>= _ = _
    rw [hkind]
    rfl

/-- A text in the place of the tags, and entries that are no tags, do no harm. -/
theorem tagged_page_of_malformed_tags :
    let odd : Json := .obj [("tags",
      .arr [.null, .int 7, .obj [("name", .null)], .obj [("name", .str "ops")]])]
    let loose : Json := .obj [("tags", .str "ops")]
    ∃ page clean, (tagged ["ops"]).page 0 50 [odd, loose] = .ok page ∧
      (tagged ["ops"]).page 0 50 ([odd, loose].map tidy) = .ok clean ∧
      page.data = [odd] ∧ clean.total = 1 ∧ clean.data.length = 1 := by
  intro odd loose
  have hobjects : ∀ workflow ∈ [odd, loose], ∃ fields, workflow = .obj fields := by
    simp [odd, loose]
  have htaggable : ∀ workflow ∈ [odd, loose], IsTaggable workflow := by
    simp only [List.forall_mem_cons]
    refine ⟨⟨⟨_, rfl⟩, ?_⟩, ⟨⟨_, rfl⟩, nofun⟩, nofun⟩
    have hnames : tagsOf odd = [.null, .str "ops"] := rfl
    simp [hnames, IsKey, Json.kind]
  obtain ⟨clean, hclean, htidy, -⟩ := tagged_page_by_names ["ops"] hobjects 0 50
  obtain ⟨page, hpage, halike⟩ := htidy (.inr htaggable)
  have hrun : (tagged ["ops"]).page 0 50 [odd, loose] = .ok ⟨[odd], 1, .int 0, .int 50⟩ := rfl
  cases hrun.symm.trans hpage
  exact ⟨_, clean, hpage, hclean, rfl, halike.total.2.trans halike.total.1.symm, halike.count.symm⟩

/-- A list in the place of a tag's name is a fault. -/
theorem tagged_page_fails_on_listed_name :
    (tagged ["ops"]).page 0 50 [.obj [("tags", .arr [.obj [("name", .arr [.str "ops"])]])]] =
      .error (.notKey .arr) :=
  rfl

end Flowgate.Listing
