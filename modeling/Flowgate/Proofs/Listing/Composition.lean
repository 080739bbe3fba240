import Flowgate.Proofs.Listing.Selection

/-! # Criteria one by one

Each of the criteria is a filter of its own: what all of them leave of a listing is left as well
by one after the other, in any order, and nothing that is left is taken away by asking again.
-/

namespace Flowgate.Listing

open Engine

variable {c : Criteria} {workflows found : List Json}

/-! ## What criteria leave -/

/-- What criteria leave of a listing: the first page holds it, if there is room on that page for
the whole listing. -/
def Criteria.Leaves (c : Criteria) (workflows found : List Json) : Prop :=
  ∀ limit : Int, workflows.length ≤ limit →
    ∃ page, c.page 0 limit workflows = .ok page ∧ page.data = found

/-- What criteria leave when each is asked of what the one before it left. -/
def LeaveInTurn : List Criteria → List Json → List Json → Prop
  | [], workflows, found => workflows = found
  | c :: rest, workflows, found => ∃ left, c.Leaves workflows left ∧ LeaveInTurn rest left found

/-- The criteria apart, each with the other two unset. -/
def Criteria.parts (c : Criteria) : List Criteria :=
  [⟨c.search, .null, .null⟩, ⟨.null, c.active, .null⟩, ⟨.null, .null, c.tags⟩]

/-- A list of texts. -/
def texts (items : List String) : Json := .arr (items.map .str)

theorem data_pageAt_of_room {limit : Int} (hroom : found.length ≤ limit) :
    (pageAt 0 limit found).data = found := by
  obtain ⟨size, rfl⟩ := Int.eq_ofNat_of_zero_le (by omega : 0 ≤ limit)
  by_cases hzero : size = 0
  · have hnil : found = [] := List.eq_nil_of_length_eq_zero (by omega)
    simp [hnil, pageAt, slice]
  · rw [← Int.natCast_zero, data_pageAt (by omega), List.drop_zero,
      List.take_of_length_le (by omega)]

/-- Criteria that select something leave just that. -/
theorem Criteria.leaves_of_select (h : c.select workflows = .ok (workflows.filter c.isMetBy)) :
    c.Leaves workflows (workflows.filter c.isMetBy) := by
  intro limit hlimit
  refine ⟨_, Criteria.page_of_select h 0 limit, ?_⟩
  apply data_pageAt_of_room
  have hle := List.length_filter_le c.isMetBy workflows
  omega

theorem Criteria.leaves_filter (hc : c.IsDocumented)
    (h : ∀ workflow ∈ workflows, IsEntry workflow) :
    c.Leaves workflows (workflows.filter c.isMetBy) :=
  c.leaves_of_select (c.select_eq_ok hc h)

theorem Criteria.Leaves.unique {other : List Json} (h : c.Leaves workflows found)
    (hother : c.Leaves workflows other) : found = other := by
  obtain ⟨page, hpage, rfl⟩ := h workflows.length (Int.le_refl _)
  obtain ⟨again, hagain, rfl⟩ := hother workflows.length (Int.le_refl _)
  cases hpage.symm.trans hagain
  rfl

/-- Asked in turn, criteria leave what meets every one of them. -/
theorem leaveInTurn_filter {steps : List Criteria} (hsteps : ∀ step ∈ steps, step.IsDocumented)
    (h : ∀ workflow ∈ workflows, IsEntry workflow) :
    LeaveInTurn steps workflows (workflows.filter fun v => steps.all (·.isMetBy v)) := by
  induction steps generalizing workflows with
  | nil => simp [LeaveInTurn]
  | cons step rest ih =>
      obtain ⟨hstep, hrest⟩ := List.forall_mem_cons.mp hsteps
      refine ⟨_, step.leaves_filter hstep h, ?_⟩
      have hleft : ∀ workflow ∈ workflows.filter step.isMetBy, IsEntry workflow := by
        intro workflow hmem
        exact h workflow (List.mem_of_mem_filter hmem)
      -- what the rest leaves of what this step left is left by all of them at once
      have hturn := ih hrest hleft
      rw [List.filter_filter] at hturn
      convert hturn using 3 with v
      rw [List.all_cons, Bool.and_comm]

/-! ## The parts of criteria -/

theorem isDocumented_of_mem_parts (hc : c.IsDocumented) {part : Criteria} (h : part ∈ c.parts) :
    part.IsDocumented := by
  simp only [Criteria.parts, List.mem_cons, List.not_mem_nil, or_false] at h
  rcases h with rfl | rfl | rfl
  · exact ⟨hc.search, .inl rfl⟩
  · exact ⟨.inl rfl, .inl rfl⟩
  · exact ⟨.inl rfl, hc.tags⟩

/-- A workflow meets criteria that meets each of their parts, in whatever order these are. -/
theorem all_isMetBy_of_perm {steps : List Criteria} (hperm : steps.Perm c.parts)
    (workflow : Json) : steps.all (·.isMetBy workflow) = c.isMetBy workflow := by
  rw [hperm.all_eq]
  simp [Criteria.parts, Criteria.isMetBy, isNamed, isInState, isTagged, Json.isNull, Json.truthy,
    Bool.and_assoc]

/-- Of tags that are wanted one is enough. -/
theorem isTagged_texts {items : List String} (hitems : items ≠ []) (workflow : Json) :
    isTagged (texts items) workflow = true ↔
      ∃ name ∈ tagsOf workflow, ∃ tag ∈ items, (Json.str tag).same name = true := by
  have hset : (texts items).truthy = true := by simp [texts, Json.truthy, hitems]
  rw [isTagged, hset]
  simp [wantedTags, texts, Json.items]

theorem isTagged_append {first second : List String} (hfirst : first ≠ []) (hsecond : second ≠ [])
    (workflow : Json) :
    isTagged (texts (first ++ second)) workflow = true ↔
      isTagged (texts first) workflow = true ∨ isTagged (texts second) workflow = true := by
  have happend : first ++ second ≠ [] := by simp [hfirst]
  simp only [isTagged_texts, hfirst, hsecond, happend, ne_eq, not_false_iff, List.mem_append]
  constructor
  · rintro ⟨name, hname, tag, htag | htag, hsame⟩
    · exact .inl ⟨name, hname, tag, htag, hsame⟩
    · exact .inr ⟨name, hname, tag, htag, hsame⟩
  · rintro (⟨name, hname, tag, htag, hsame⟩ | ⟨name, hname, tag, htag, hsame⟩)
    · exact ⟨name, hname, tag, .inl htag, hsame⟩
    · exact ⟨name, hname, tag, .inr htag, hsame⟩

theorem isDocumented_tags (hc : c.IsDocumented) (items : List String) :
    Criteria.IsDocumented { c with tags := texts items } := by
  refine ⟨hc.search, .inr ⟨_, rfl, ?_⟩⟩
  intro item hitem
  obtain ⟨s, -, rfl⟩ := List.mem_map.mp hitem
  exact ⟨s, rfl⟩

/-- Criteria are filters that do not depend on each other. They leave some of the workflows in
their order; so do their parts in turn, in any order; asked again they leave the same; and where
one of several tags is wanted, a workflow is left if it is for some of them or for the others. -/
theorem Criteria.compose_as_filters (hc : c.IsDocumented)
    (h : ∀ workflow ∈ workflows, IsEntry workflow) :
    ∃ found, c.Leaves workflows found ∧ found.Sublist workflows ∧
      (∀ steps : List Criteria, steps.Perm c.parts → LeaveInTurn steps workflows found) ∧
      c.Leaves found found ∧
      ∀ first second : List String, first ≠ [] → second ≠ [] → ∃ either one other,
        Criteria.Leaves { c with tags := texts (first ++ second) } workflows either ∧
        Criteria.Leaves { c with tags := texts first } workflows one ∧
        Criteria.Leaves { c with tags := texts second } workflows other ∧
        ∀ workflow, workflow ∈ either ↔ workflow ∈ one ∨ workflow ∈ other := by
  refine ⟨workflows.filter c.isMetBy, c.leaves_filter hc h, List.filter_sublist, ?_, ?_, ?_⟩
  · intro steps hperm
    have hsteps : ∀ step ∈ steps, step.IsDocumented := by
      intro step hstep
      exact isDocumented_of_mem_parts hc (hperm.mem_iff.mp hstep)
    simpa only [all_isMetBy_of_perm hperm] using leaveInTurn_filter hsteps h
  · have hfound : ∀ workflow ∈ workflows.filter c.isMetBy, IsEntry workflow := by
      intro workflow hmem
      exact h workflow (List.mem_of_mem_filter hmem)
    simpa only [List.filter_filter, Bool.and_self] using c.leaves_filter hc hfound
  · intro first second hfirst hsecond
    refine ⟨_, _, _, leaves_filter (isDocumented_tags hc _) h,
      leaves_filter (isDocumented_tags hc _) h, leaves_filter (isDocumented_tags hc _) h, ?_⟩
    intro workflow
    simp only [List.mem_filter, Criteria.isMetBy, Bool.and_eq_true,
      isTagged_append hfirst hsecond]
    tauto

/-- A workflow that all of three criteria leave, beside one without tags. -/
theorem compose_three_criteria :
    let sales : Json := .obj [("name", .str "Lead"), ("active", .bool true),
      ("tags", .arr [.obj [("name", .str "sales")]])]
    let bare : Json := .obj [("name", .str "lead"), ("active", .bool true)]
    let c : Criteria := ⟨.str "LEAD", .bool true, texts ["sales"]⟩
    c.IsDocumented ∧ (∀ workflow ∈ [sales, bare], IsEntry workflow) ∧
      c.Leaves [sales, bare] [sales] ∧ LeaveInTurn c.parts.reverse [sales, bare] [sales] := by
  intro sales bare c
  have hc : c.IsDocumented := ⟨.inr ⟨_, rfl⟩, .inr ⟨_, rfl, by simp⟩⟩
  have hentries : ∀ workflow ∈ [sales, bare], IsEntry workflow := by
    simp only [List.forall_mem_cons]
    refine ⟨.of_fields (.inr ⟨_, rfl⟩) ?_, .of_fields (.inr ⟨_, rfl⟩) nofun, nofun⟩
    intro tags htags tag htag own hown
    cases htags
    rw [List.mem_singleton.mp htag] at hown
    cases hown
    exact .inr ⟨_, rfl⟩
  obtain ⟨found, hfound, -, hturn, -⟩ := Criteria.compose_as_filters hc hentries
  have hpage : c.page 0 2 [sales, bare] = .ok ⟨[sales], 1, .int 0, .int 2⟩ := rfl
  obtain ⟨page, hsame, rfl⟩ := hfound 2 (by decide)
  cases hpage.symm.trans hsame
  exact ⟨hc, hentries, hfound, hturn _ (List.reverse_perm _)⟩

end Flowgate.Listing
