import Flowgate.Proofs.FailFast
import Flowgate.Proofs.Itemwise
import Flowgate.Workflow.Identity

/-! # Declared names

What the three walks over the declared names give: the identifiers of a definition
without repetitions, the identifiers of first declarations, and the names that are
declared more than once.
-/

namespace Flowgate.NodeSpec

/-- The entry of a node in a table of identifiers. -/
def entry (n : NodeSpec) (index : Nat) : String × String := (n.name, NodeId.of index n.name)

/-! ## Identifiers -/

/-- One step of naming that succeeds: the name is new, and its entry comes first. -/
theorem identifyFrom_cons_eq_ok {seen : List String} {index : Nat} {n : NodeSpec}
    {rest : List NodeSpec} {ids : NameTable}
    (h : identifyFrom seen index (n :: rest) = .ok ids) :
    n.name ∉ seen ∧ ∃ others, identifyFrom (n.name :: seen) (index + 1) rest = .ok others ∧
      ids = n.entry index :: others := by
  rw [identifyFrom] at h
  split at h
  · cases h
  next hseen =>
    cases hrest : identifyFrom (n.name :: seen) (index + 1) rest with
    | error cause => simp [hrest, Except.map] at h
    | ok others =>
        simp only [hrest, Except.map, Except.ok.injEq] at h
        exact ⟨hseen, others, rfl, h.symm⟩

/-- Naming succeeds just on names that are new and distinct, and then every node has
the identifier of its own position. -/
theorem identifyFrom_eq_ok {seen : List String} {index : Nat} {nodes : List NodeSpec}
    {ids : NameTable} (h : identifyFrom seen index nodes = .ok ids) :
    (nodes.map (·.name)).Nodup ∧ (∀ n ∈ nodes, n.name ∉ seen) ∧
      ids = (nodes.zipIdx index).map fun (n, i) => n.entry i := by
  induction nodes generalizing seen index ids with
  | nil =>
      cases h
      simp
  | cons n rest ih =>
      obtain ⟨hseen, others, hrest, rfl⟩ := identifyFrom_cons_eq_ok h
      obtain ⟨hnodup, hnew, hothers⟩ := ih hrest
      simp only [List.mem_cons, not_or] at hnew
      refine ⟨?_, ?_, ?_⟩
      · refine List.nodup_cons.mpr ⟨?_, hnodup⟩
        intro hmem
        obtain ⟨m, hm, hname⟩ := List.mem_map.mp hmem
        exact (hnew m hm).1 hname
      · intro m hm
        rcases List.mem_cons.mp hm with rfl | hm
        · exact hseen
        · exact (hnew m hm).2
      · rw [List.zipIdx_cons, List.map_cons, hothers]

/-- Naming looks at nothing but the names. -/
theorem identifyFrom_congr {seen : List String} {index : Nat} {nodes others : List NodeSpec}
    (h : nodes.map (·.name) = others.map (·.name)) :
    identifyFrom seen index nodes = identifyFrom seen index others := by
  induction nodes generalizing seen index others with
  | nil => rw [List.map_eq_nil_iff.mp h.symm]
  | cons n rest ih =>
      obtain ⟨m, remaining, rfl, hname, hrest⟩ := List.map_eq_cons_iff.mp h.symm
      rw [identifyFrom, identifyFrom, hname, ih hrest.symm]

/-- A table without repetitions is also the table of first declarations. -/
theorem firstFrom_eq_of_identifyFrom {seen : List String} {index : Nat} {nodes : List NodeSpec}
    {ids : NameTable} (h : identifyFrom seen index nodes = .ok ids) :
    firstFrom seen index nodes = ids := by
  induction nodes generalizing seen index ids with
  | nil =>
      cases h
      rfl
  | cons n rest ih =>
      obtain ⟨hseen, others, hrest, rfl⟩ := identifyFrom_cons_eq_ok h
      rw [firstFrom, if_neg hseen, ih hrest]
      rfl

/-- First declarations know a name just if it is declared and was not seen before. -/
theorem lookup_firstFrom_isSome {seen : List String} {index : Nat} {nodes : List NodeSpec}
    {name : String} :
    ((firstFrom seen index nodes).lookup name).isSome ↔
      name ∉ seen ∧ name ∈ nodes.map (·.name) := by
  induction nodes generalizing seen index with
  | nil => simp [firstFrom]
  | cons n rest ih =>
      by_cases hseen : n.name ∈ seen
      · rw [firstFrom, if_pos hseen, ih, List.map_cons, List.mem_cons]
        constructor
        · exact fun ⟨hnew, hmem⟩ => ⟨hnew, .inr hmem⟩
        · rintro ⟨hnew, rfl | hmem⟩
          · exact absurd hseen hnew
          · exact ⟨hnew, hmem⟩
      · rw [firstFrom, if_neg hseen, List.map_cons, List.mem_cons]
        by_cases hname : name = n.name
        · subst hname
          rw [List.lookup_cons_self]
          simp [hseen]
        · rw [List.lookup_cons, beq_eq_false_iff_ne.mpr hname, ih, List.mem_cons]
          simp only [hname, false_or]

theorem lookup_firstIds_isSome {nodes : List NodeSpec} {name : String} :
    ((firstIds nodes).lookup name).isSome ↔ name ∈ nodes.map (·.name) := by
  rw [firstIds, lookup_firstFrom_isSome]
  simp only [List.not_mem_nil, not_false_eq_true, true_and]

/-- Naming stops with the first repetition, which is the head of all repetitions. -/
theorem identifyFrom_failsFirst (seen : List String) (index : Nat) (nodes : List NodeSpec) :
    FailsFirst (identifyFrom seen index nodes)
      ((repeatedFrom seen [] nodes).map .duplicateName) := by
  induction nodes generalizing seen index with
  | nil => exact .passes []
  | cons n rest ih =>
      by_cases hseen : n.name ∈ seen
      · simp only [identifyFrom, repeatedFrom, hseen, if_true, true_and, List.not_mem_nil,
          not_false_eq_true, List.map_cons]
        exact .fails _ _
      · simp only [identifyFrom, repeatedFrom, hseen, if_false, false_and]
        exact (ih (n.name :: seen) (index + 1)).map _

theorem identify_failsFirst (nodes : List NodeSpec) :
    FailsFirst (identify nodes) ((repeatedNames nodes).map .duplicateName) :=
  identifyFrom_failsFirst [] 0 nodes

/-! ## The table of a definition without repetitions -/

section Identify

variable {nodes : List NodeSpec} {ids : NameTable}

theorem nodup_of_identify (h : identify nodes = .ok ids) : (nodes.map (·.name)).Nodup :=
  (identifyFrom_eq_ok h).1

theorem firstIds_of_identify (h : identify nodes = .ok ids) : firstIds nodes = ids :=
  firstFrom_eq_of_identifyFrom h

/-- A name stands for the identifier of the position at which it is declared, and for
no other. -/
theorem lookup_identify (h : identify nodes = .ok ids) {name id : String} :
    ids.lookup name = some id ↔
      ∃ (index : Nat) (n : NodeSpec), nodes[index]? = some n ∧ n.name = name ∧
        NodeId.of index name = id := by
  obtain ⟨hnodup, -, hids⟩ := identifyFrom_eq_ok h
  have hkeys : ids.map Prod.fst = nodes.map (·.name) := by
    rw [hids, List.map_map]
    exact zipIdx_map_item (·.name) nodes
  rw [lookup_eq_some_iff_mem (hkeys ▸ hnodup), hids, List.mem_map]
  constructor
  · rintro ⟨⟨n, index⟩, hmem, hentry⟩
    obtain ⟨rfl, rfl⟩ := Prod.mk.inj hentry
    exact ⟨index, n, List.mk_mem_zipIdx_iff_getElem?.mp hmem, rfl, rfl⟩
  · rintro ⟨index, n, hn, rfl, rfl⟩
    exact ⟨(n, index), List.mk_mem_zipIdx_iff_getElem?.mpr hn, rfl⟩

end Identify

end Flowgate.NodeSpec
