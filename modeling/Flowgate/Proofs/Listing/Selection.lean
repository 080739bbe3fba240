import Flowgate.Proofs.Json.Shape
import Flowgate.Proofs.Listing.Pages

/-! # Selecting from workflows of the documented form

What the engine documents of a workflow is enough for every criterion and every window that
is given in the form that is asked for: no step of a selection fails.
-/

namespace Flowgate

namespace Engine

/-- A text, or null where it is unset. -/
def IsTextOrNull (v : Json) : Prop := v.NullOr Json.IsText

/-- A list of nodes with names, or null where it is unset. -/
def IsNodeList (v : Json) : Prop :=
  v = .null ∨ ∃ nodes, v = .arr nodes ∧
    ∀ node ∈ nodes, ∃ fields name, node = .obj fields ∧ fields.lookup "name" = some (.str name)

/-- What the engine documents of a workflow. Tags are texts, or objects with a name; a
workflow may come without any of the fields. -/
inductive IsWorkflow : Json → Prop
  | of_fields {fields : List (String × Json)} :
      IsTextOrNull (Json.getField "name" fields) →
      (∀ tags, Json.getField "tags" fields = .arr tags → ∀ tag ∈ tags, ∀ own, tag = .obj own →
        IsTextOrNull (Json.getField "name" own)) →
      IsNodeList (Json.getField "nodes" fields) → IsWorkflow (.obj fields)

/-- A page of workflows, or all of them in a list. -/
inductive IsPage : Json → Prop
  | list {items : List Json} : (∀ workflow ∈ items, IsWorkflow workflow) → IsPage (.arr items)
  | page {fields : List (String × Json)} {items : List Json} :
      (fields.lookup "data").getD (.arr []) = .arr items →
      (∀ workflow ∈ items, IsWorkflow workflow) → IsPage (.obj fields)

end Engine

namespace Listing

open Engine

variable {workflow : Json} {workflows : List Json}

/-- What is looked at in a workflow for a listing: its name, and the names of its tags, are texts
or null. -/
inductive IsEntry : Json → Prop
  | of_fields {fields : List (String × Json)} :
      IsTextOrNull (Json.getField "name" fields) →
      (∀ tags, Json.getField "tags" fields = .arr tags → ∀ tag ∈ tags, ∀ own, tag = .obj own →
        IsTextOrNull (Json.getField "name" own)) → IsEntry (.obj fields)

theorem isSearchable_of_isEntry (h : IsEntry workflow) : IsSearchable workflow := by
  cases h with
  | of_fields hname _ =>
      refine ⟨⟨_, rfl⟩, ?_⟩
      intro hset
      apply hname.resolve_left
      intro hnull
      cases hset.symm.trans (congrArg Json.truthy hnull)

theorem isKey_of_isTextOrNull {v : Json} (h : IsTextOrNull v) : IsKey v := by
  rcases h with rfl | ⟨s, rfl⟩ <;> simp [IsKey, Json.kind]

theorem isTaggable_of_isEntry (h : IsEntry workflow) : IsTaggable workflow := by
  cases h with
  | @of_fields fields _ htags =>
      refine ⟨⟨_, rfl⟩, ?_⟩
      intro name hname
      have hfield : fieldOf "tags" (.obj fields) = Json.getField "tags" fields := rfl
      rw [tagsOf, hfield] at hname
      split at hname
      next tags harr =>
        obtain ⟨tag, htag, hkept⟩ := List.mem_filterMap.mp hname
        apply isKey_of_isTextOrNull
        cases tag with
        | str s => exact .inr ⟨s, (Option.some.inj hkept).symm⟩
        | obj own => exact Option.some.inj hkept ▸ htags tags harr _ htag own rfl
        | _ => cases hkept
      next => cases hname

/-- Criteria of the form that agents are told, each of which may be unset. -/
structure Criteria.IsDocumented (c : Criteria) : Prop where
  search : IsTextOrNull c.search
  tags : c.tags = .null ∨ ∃ items, c.tags = .arr items ∧ ∀ item ∈ items, ∃ s, item = .str s

/-- No criterion fails on a documented workflow. -/
theorem Criteria.select_eq_ok {c : Criteria} (hc : c.IsDocumented)
    (h : ∀ workflow ∈ workflows, IsEntry workflow) :
    c.select workflows = .ok (workflows.filter c.isMetBy) := by
  apply Criteria.select_of_ready
  · intro hset
    refine ⟨hc.search.resolve_left ?_, ?_⟩
    · intro hnull
      simp [hnull, Json.truthy] at hset
    · intro workflow hmem
      exact isSearchable_of_isEntry (h workflow hmem)
  · intro _ workflow hmem
    cases h workflow hmem
    exact ⟨_, rfl⟩
  · intro hset
    constructor
    · rcases hc.tags with hnull | ⟨items, hitems, htexts⟩
      · simp [hnull, Json.truthy] at hset
      · refine ⟨items, by rw [hitems]; rfl, ?_⟩
        intro tag htag
        exact isKey_of_isTextOrNull (.inr (htexts tag htag))
    · intro workflow hmem
      exact isTaggable_of_isEntry (h workflow hmem)

end Listing

end Flowgate
