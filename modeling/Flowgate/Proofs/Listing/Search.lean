import Flowgate.Proofs.Listing.Composition
import Flowgate.Proofs.Text.Lowercase

/-! # Searching by a part of the name

The term and the name are brought to lower case apart from each other. A name that holds the
term as it stands is found if each capital sigma of the term ends a word in the name just if it
does in the term. Terms that settle their capital sigmas are found in every name that holds them,
and no other terms are.
-/

namespace Flowgate.Listing

open Text

variable {workflow : Json} {workflows : List Json} {term : String}

/-- The criteria of a search by name. -/
def searching (term : String) : Criteria := ⟨.str term, .null, .null⟩

/-- A search by name leaves a workflow. -/
def Finds (term : String) (workflows : List Json) (workflow : Json) : Prop :=
  ∃ found, (searching term).Leaves workflows found ∧ workflow ∈ found

/-- A search does not fail where all workflows can be searched. -/
theorem select_searching (term : String) (h : ∀ v ∈ workflows, IsSearchable v) :
    (searching term).select workflows = .ok (workflows.filter (searching term).isMetBy) := by
  apply Criteria.select_of_ready
  · intro _
    exact ⟨⟨term, rfl⟩, h⟩
  · intro hset
    cases hset
  · intro hset
    cases hset

/-- It finds the workflows that hold the term in their names, in lower case. -/
theorem isMetBy_searching {name : String} (hname : fieldOf "name" workflow = .str name) :
    (searching term).isMetBy workflow = true ↔
      lowerFrom [] term.toList <:+: lowerFrom [] name.toList := by
  simp [searching, Criteria.isMetBy, isNamed, isInState, isTagged, Json.isNull, Json.truthy,
    hname, textOf, lowercase]

theorem finds_iff (h : ∀ v ∈ workflows, IsSearchable v) {name : String}
    (hname : fieldOf "name" workflow = .str name) :
    Finds term workflows workflow ↔
      workflow ∈ workflows ∧ lowerFrom [] term.toList <:+: lowerFrom [] name.toList := by
  have hleaves := Criteria.leaves_of_select (select_searching term h)
  rw [← isMetBy_searching hname, ← List.mem_filter]
  constructor
  · rintro ⟨found, hfound, hmem⟩
    exact hfound.unique hleaves ▸ hmem
  · intro hmem
    exact ⟨_, hleaves, hmem⟩

/-- A workflow of which no more than the name is told. -/
def named (name : String) : Json := .obj [("name", .str name)]

theorem fieldOf_named (name : String) : fieldOf "name" (named name) = .str name := rfl

theorem isSearchable_named (name : String) : IsSearchable (named name) :=
  ⟨⟨_, rfl⟩, fun _ => ⟨name, rfl⟩⟩

/-- A name that holds a term as it stands is found where the capital sigmas of the term end words
in the name as they do in the term. The terms with which every such name is found are those that
settle their capital sigmas. -/
theorem literal_term_is_found (term : String) :
    (∀ workflows, (∀ v ∈ workflows, IsSearchable v) → ∀ workflow ∈ workflows,
      ∀ front back : String, fieldOf "name" workflow = .str (front ++ term ++ back) →
      (∀ first last, term.toList = first ++ 'Σ' :: last →
        endsWord (first.reverse ++ front.toList.reverse) (last ++ back.toList) =
          endsWord first.reverse last) →
      Finds term workflows workflow) ∧
    ((∀ workflows, (∀ v ∈ workflows, IsSearchable v) → ∀ workflow ∈ workflows,
      ∀ name, fieldOf "name" workflow = .str name → term.toList <:+: name.toList →
      Finds term workflows workflow) ↔
      SettlesSigmas term.toList) := by
  refine ⟨?_, ?_, ?_⟩
  · intro workflows hworkflows workflow hmem front back hname hagree
    rw [finds_iff hworkflows hname]
    refine ⟨hmem, ?_⟩
    simpa only [String.toList_append] using isInfix_of_agree hagree
  · intro hall
    apply (isInfix_iff_settlesSigmas term.toList).mp
    intro front back
    let name := String.ofList (front ++ term.toList ++ back)
    have hholds : term.toList <:+: name.toList := by
      rw [String.toList_ofList]
      exact ⟨front, back, rfl⟩
    have hsearchable := List.forall_mem_singleton.mpr (isSearchable_named name)
    have hfinds := hall _ hsearchable _ (List.mem_singleton_self _) name (fieldOf_named name) hholds
    have hlower := ((finds_iff hsearchable (fieldOf_named name)).mp hfinds).2
    simpa only [name, String.toList_ofList] using hlower
  · intro hsettles workflows hworkflows workflow hmem name hname hholds
    obtain ⟨front, back, hsplit⟩ := hholds
    rw [finds_iff hworkflows hname, ← hsplit]
    exact ⟨hmem, isInfix_of_settlesSigmas hsettles front back⟩

/-- A sigma with a letter behind it is found inside a word. -/
theorem literal_sigma_is_found_inside :
    SettlesSigmas "ΣΑ".toList ∧ Finds "ΣΑ" [named "ΑΣΑ", named ""] (named "ΑΣΑ") := by
  have hsettles : SettlesSigmas "ΣΑ".toList := by
    intro front back hsplit
    cases front with
    | nil =>
        obtain ⟨-, rfl⟩ := List.cons.inj hsplit
        decide +kernel
    | cons d front => simp [List.singleton_eq_append_iff] at hsplit
  refine ⟨hsettles, ?_⟩
  apply (literal_term_is_found "ΣΑ").2.mpr hsettles _ ?_ _ List.mem_cons_self "ΑΣΑ" rfl
  · exact ⟨['Α'], [], rfl⟩
  · simp [isSearchable_named]

/-- A sigma is not found at the end of a word. -/
theorem literal_sigma_is_missed_at_end :
    "Σ".toList <:+: "ΑΣ".toList ∧
      (searching "Σ").page 0 50 [named "ΑΣ"] = .ok ⟨[], 0, .int 0, .int 50⟩ := by
  refine ⟨⟨['Α'], [], rfl⟩, ?_⟩
  have hunmet : [named "ΑΣ"].filter (searching "Σ").isMetBy = [] := by
    rw [List.filter_eq_nil_iff]
    intro v hv
    rw [List.mem_singleton.mp hv, isMetBy_searching (fieldOf_named "ΑΣ")]
    decide +kernel
  have hselect := select_searching "Σ"
    (List.forall_mem_singleton.mpr (isSearchable_named "ΑΣ"))
  rw [hunmet] at hselect
  exact bind_eq_ok.mpr ⟨_, hselect, Window.page_int 0 50 []⟩

end Flowgate.Listing
