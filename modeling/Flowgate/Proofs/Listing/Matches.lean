import Flowgate.Listing.Criteria
import Flowgate.Proofs.Itemwise
import Mathlib.Data.List.Infix

/-! # The workflows that meet criteria

Criteria are applied to a listing one after the other, and each of them may fail on a workflow.
Where none fails, what is left are the workflows that meet every criterion, in their order.
-/

namespace Flowgate.Listing

variable {search active tags workflow : Json} {workflows found : List Json}

/-! ## What is asked of a workflow -/

/-- A field of a workflow, null where it has none. -/
def fieldOf (key : String) (workflow : Json) : Json := (workflow.field? key).getD .null

/-- The text that a value is; what is no text has the empty one. -/
def textOf : Json → String
  | .str s => s
  | _ => ""

/-- A text is a tag of its own name, and an object has its name in a field. -/
def tagName? : Json → Option Json
  | .str s => some (.str s)
  | .obj fields => some (Json.getField "name" fields)
  | _ => none

/-- The names of the tags of a workflow. -/
def tagsOf (workflow : Json) : List Json :=
  match fieldOf "tags" workflow with
  | .arr tags => tags.filterMap tagName?
  | _ => []

/-- The tags that are wanted: the items of a list, and of other values that have items. -/
def wantedTags (tags : Json) : List Json :=
  match tags.items with
  | .ok wanted => wanted
  | .error _ => []

/-- The term occurs in the name, both of them in lower case. What is no text is no term. -/
def isNamed (search workflow : Json) : Bool :=
  match search with
  | .str term =>
      decide ((Text.lowercase term).toList <:+:
        (Text.lowercase (textOf (fieldOf "name" workflow))).toList)
  | _ => true

/-- The state is the one that is asked for. Null asks for none. -/
def isInState (active workflow : Json) : Bool :=
  active.isNull || (fieldOf "active" workflow).same active

/-- A tag is among the wanted ones, if any is wanted. -/
def isTagged (tags workflow : Json) : Bool :=
  !tags.truthy || (tagsOf workflow).any fun name => (wantedTags tags).any (·.same name)

/-- A workflow meets all of the criteria. -/
def Criteria.isMetBy (c : Criteria) (workflow : Json) : Bool :=
  isNamed c.search workflow && isInState c.active workflow && isTagged c.tags workflow

/-! ## Tests -/

/-- A test goes through where a workflow is ready for it, and tells whether a condition is met. -/
def Decides (test : Json → Except Fault Bool) (ready : Json → Prop) (met : Json → Bool) : Prop :=
  ∀ workflow passes, test workflow = .ok passes ↔ ready workflow ∧ met workflow = passes

/-- What is kept by a test that is decided are the workflows that meet its condition. -/
theorem Decides.keep_eq_ok_iff {test : Json → Except Fault Bool} {ready : Json → Prop}
    {met : Json → Bool} (h : Decides test ready met) :
    keep test workflows = .ok found ↔
      (∀ workflow ∈ workflows, ready workflow) ∧ workflows.filter met = found := by
  induction workflows generalizing found with
  | nil => simp [keep]
  | cons workflow rest ih =>
      simp only [keep, bind_eq_ok, h workflow, ih, List.forall_mem_cons]
      constructor
      · rintro ⟨passes, ⟨hready, rfl⟩, kept, ⟨hrest, rfl⟩, hfound⟩
        refine ⟨⟨hready, hrest⟩, ?_⟩
        cases hfound
        rw [List.filter_cons]
      · rintro ⟨⟨hready, hrest⟩, rfl⟩
        refine ⟨_, ⟨hready, rfl⟩, _, ⟨hrest, rfl⟩, ?_⟩
        rw [List.filter_cons]
        rfl

theorem occursIn_iff_isInfix {part cs : List Char} : occursIn part cs = true ↔ part <:+: cs := by
  induction cs with
  | nil => simp [occursIn]
  | cons c rest ih => simp [occursIn, ih, List.infix_cons_iff]

theorem get_eq_ok_iff {key : String} {field : Json} :
    workflow.get key = .ok field ↔
      (∃ fields, workflow = .obj fields) ∧ fieldOf key workflow = field := by
  cases workflow <;> simp [Json.get, fieldOf, Json.field?, Json.getField]

/-- A text, or a value that counts as unset. -/
def IsTextOrUnset (v : Json) : Prop := v.truthy = true → ∃ s, v = .str s

theorem lower_orEmpty_eq_ok_iff {name : Json} {text : String} :
    lower (if name.truthy then name else .str "") = .ok text ↔
      IsTextOrUnset name ∧ Text.lowercase (textOf name) = text := by
  unfold IsTextOrUnset
  cases name with
  | str s => by_cases hs : s = "" <;> simp [Json.truthy, lower, textOf, hs]
  | _ => split <;> simp_all [lower, textOf]

/-- A workflow that can be searched. -/
def IsSearchable (workflow : Json) : Prop :=
  (∃ fields, workflow = .obj fields) ∧ IsTextOrUnset (fieldOf "name" workflow)

theorem decides_nameHolds (term : String) :
    Decides (nameHolds (Text.lowercase term)) IsSearchable (isNamed (.str term)) := by
  intro workflow passes
  simp only [nameHolds, bind_eq_ok, get_eq_ok_iff]
  constructor
  · rintro ⟨_, ⟨hobject, rfl⟩, text, hlower, hpasses⟩
    obtain ⟨htext, rfl⟩ := lower_orEmpty_eq_ok_iff.mp hlower
    cases hpasses
    refine ⟨⟨hobject, htext⟩, ?_⟩
    simp [isNamed, ← occursIn_iff_isInfix]
  · rintro ⟨⟨hobject, htext⟩, rfl⟩
    refine ⟨_, ⟨hobject, rfl⟩, _, lower_orEmpty_eq_ok_iff.mpr ⟨htext, rfl⟩, ?_⟩
    simp [isNamed, ← occursIn_iff_isInfix, pure, Except.pure]

theorem decides_hasState (hactive : active.isNull = false) :
    Decides (hasState active) (∃ fields, · = .obj fields) (isInState active) := by
  intro workflow passes
  cases workflow <;> simp [hasState, Json.get, Except.map, isInState, hactive, fieldOf,
    Json.field?, Json.getField]

theorem tagNames_eq_ok_iff {names : List Json} :
    tagNames workflow = .ok names ↔
      (∃ fields, workflow = .obj fields) ∧ tagsOf workflow = names := by
  simp only [tagNames, bind_eq_ok, get_eq_ok_iff, tagsOf, and_assoc, exists_and_left,
    exists_eq_left']
  apply and_congr_right
  intro _
  cases fieldOf "tags" workflow with
  | arr tags =>
      change Except.ok (tags.filterMap tagName?) = .ok names ↔ _
      simp
  | _ => simp [pure, Except.pure]

/-- A value that a set may hold: neither a list nor an object. -/
def IsKey (v : Json) : Prop := v.kind ≠ .arr ∧ v.kind ≠ .obj

theorem asKey_eq_ok_iff {v key : Json} : v.asKey = .ok key ↔ IsKey v ∧ v = key := by
  cases v <;> simp [Json.asKey, IsKey, Json.kind]

theorem mapM_asKey_eq_ok_iff {values keys : List Json} :
    values.mapM Json.asKey = .ok keys ↔ (∀ v ∈ values, IsKey v) ∧ values = keys := by
  rw [mapM_eq_ok]
  constructor
  · intro h
    induction h with
    | nil => simp
    | cons hhead _ ih =>
        obtain ⟨hkey, rfl⟩ := asKey_eq_ok_iff.mp hhead
        obtain ⟨hkeys, rfl⟩ := ih
        exact ⟨List.forall_mem_cons.mpr ⟨hkey, hkeys⟩, rfl⟩
  · rintro ⟨hkeys, rfl⟩
    apply List.forall₂_same.mpr
    intro v hv
    exact asKey_eq_ok_iff.mpr ⟨hkeys v hv, rfl⟩

/-- A workflow whose tags can be looked up: the name of each may stand in a set. -/
def IsTaggable (workflow : Json) : Prop :=
  (∃ fields, workflow = .obj fields) ∧ ∀ name ∈ tagsOf workflow, IsKey name

theorem decides_hasTag (htags : tags.truthy = true) :
    Decides (hasTag (wantedTags tags)) IsTaggable (isTagged tags) := by
  intro workflow passes
  simp only [hasTag, bind_eq_ok, tagNames_eq_ok_iff, mapM_asKey_eq_ok_iff]
  constructor
  · rintro ⟨_, ⟨hobject, rfl⟩, _, ⟨hkeys, rfl⟩, hpasses⟩
    cases hpasses
    refine ⟨⟨hobject, hkeys⟩, ?_⟩
    simp [isTagged, htags]
  · rintro ⟨⟨hobject, hkeys⟩, rfl⟩
    refine ⟨_, ⟨hobject, rfl⟩, _, ⟨hkeys, rfl⟩, ?_⟩
    simp [isTagged, htags, pure, Except.pure]

/-! ## Criteria -/

/-- A criterion that is unset is met by every workflow. -/
theorem isNamed_of_unset (h : ¬ search.truthy = true) : isNamed search workflow = true := by
  cases search with
  | str term =>
      have hempty : term = "" := by simpa [Json.truthy] using h
      simp [isNamed, hempty, Text.lowercase, Text.lowerFrom]
  | _ => rfl

theorem isInState_of_unset (h : active.isNull = true) : isInState active workflow = true := by
  simp [isInState, h]

theorem isTagged_of_unset (h : ¬ tags.truthy = true) : isTagged tags workflow = true := by
  simp [isTagged, h]

/-- A step fails only where its criterion is set, and not on workflows that are ready for it. -/
theorem searchStep_eq_ok_iff :
    searchStep search workflows = .ok found ↔
      (search.truthy = true →
        (∃ term, search = .str term) ∧ ∀ workflow ∈ workflows, IsSearchable workflow) ∧
      workflows.filter (isNamed search) = found := by
  unfold searchStep
  split
  next hset =>
    simp only [hset, true_implies, bind_eq_ok]
    cases search with
    | str term => simp [lower, (decides_nameHolds term).keep_eq_ok_iff]
    | _ => simp [lower]
  next hunset =>
    rw [List.filter_eq_self.mpr fun _ _ => isNamed_of_unset hunset]
    simp [hunset]

theorem activeStep_eq_ok_iff :
    activeStep active workflows = .ok found ↔
      (active.isNull = false → ∀ workflow ∈ workflows, ∃ fields, workflow = .obj fields) ∧
      workflows.filter (isInState active) = found := by
  unfold activeStep
  split
  next hunset =>
    rw [List.filter_eq_self.mpr fun _ _ => isInState_of_unset hunset]
    simp [hunset]
  next hset =>
    have hactive : active.isNull = false := by simpa using hset
    simp [hactive, (decides_hasState hactive).keep_eq_ok_iff]

theorem tagStep_eq_ok_iff :
    tagStep tags workflows = .ok found ↔
      (tags.truthy = true →
        (∃ wanted, tags.items = .ok wanted ∧ ∀ tag ∈ wanted, IsKey tag) ∧
          ∀ workflow ∈ workflows, IsTaggable workflow) ∧
      workflows.filter (isTagged tags) = found := by
  unfold tagStep
  split
  next hset =>
    simp only [hset, true_implies, bind_eq_ok, mapM_asKey_eq_ok_iff]
    cases hitems : tags.items with
    | error fault => simp
    | ok wanted =>
      have hwanted : wantedTags tags = wanted := by simp [wantedTags, hitems]
      have hdecides := decides_hasTag hset
      rw [hwanted] at hdecides
      simp [hdecides.keep_eq_ok_iff, and_assoc]
  next hunset =>
    rw [List.filter_eq_self.mpr fun _ _ => isTagged_of_unset hunset]
    simp [hunset]

/-- What is selected are the workflows that meet all criteria, in their order. -/
theorem Criteria.filter_of_select {c : Criteria} (h : c.select workflows = .ok found) :
    workflows.filter c.isMetBy = found := by
  obtain ⟨named, hnamed, hrest⟩ := bind_eq_ok.mp h
  obtain ⟨living, hliving, htagged⟩ := bind_eq_ok.mp hrest
  obtain ⟨-, rfl⟩ := searchStep_eq_ok_iff.mp hnamed
  obtain ⟨-, rfl⟩ := activeStep_eq_ok_iff.mp hliving
  obtain ⟨-, rfl⟩ := tagStep_eq_ok_iff.mp htagged
  simp only [List.filter_filter]
  apply List.filter_congr
  intro workflow _
  simp only [Criteria.isMetBy]
  grind

/-- Criteria do not fail where all workflows are ready for those that are set. -/
theorem Criteria.select_of_ready {c : Criteria}
    (hsearch : c.search.truthy = true →
      (∃ term, c.search = .str term) ∧ ∀ workflow ∈ workflows, IsSearchable workflow)
    (hactive : c.active.isNull = false → ∀ workflow ∈ workflows, ∃ fields, workflow = .obj fields)
    (htags : c.tags.truthy = true →
      (∃ wanted, c.tags.items = .ok wanted ∧ ∀ tag ∈ wanted, IsKey tag) ∧
        ∀ workflow ∈ workflows, IsTaggable workflow) :
    c.select workflows = .ok (workflows.filter c.isMetBy) := by
  have hnamed := searchStep_eq_ok_iff.mpr ⟨hsearch, rfl⟩
  have hliving : activeStep c.active (workflows.filter (isNamed c.search)) =
      .ok ((workflows.filter (isNamed c.search)).filter (isInState c.active)) := by
    refine activeStep_eq_ok_iff.mpr ⟨?_, rfl⟩
    intro hset workflow hmem
    exact hactive hset workflow (List.mem_of_mem_filter hmem)
  have htagged : tagStep c.tags
      ((workflows.filter (isNamed c.search)).filter (isInState c.active)) =
        .ok (((workflows.filter (isNamed c.search)).filter (isInState c.active)).filter
          (isTagged c.tags)) := by
    refine tagStep_eq_ok_iff.mpr ⟨?_, rfl⟩
    intro hset
    refine ⟨(htags hset).1, ?_⟩
    intro workflow hmem
    exact (htags hset).2 workflow (List.mem_of_mem_filter (List.mem_of_mem_filter hmem))
  have hselect : c.select workflows = .ok _ :=
    bind_eq_ok.mpr ⟨_, hnamed, bind_eq_ok.mpr ⟨_, hliving, htagged⟩⟩
  rw [hselect, Criteria.filter_of_select hselect]

end Flowgate.Listing
