import Flowgate.Proofs.Workflow.Payload
import Mathlib.Data.List.Induction

/-! # Connections by source and output

Grouping loses no edge, doubles none and keeps the order of those that leave a source by the
same output. What holds of the edges grouped so far is told slot by slot, and adding one edge
changes one slot only.
-/

namespace Flowgate

/-- Where an edge leads. -/
def Graph.Edge.target (e : Graph.Edge) : Target := ⟨e.targetName, e.targetInput⟩

namespace Wiring

open Flowgate.Graph

variable {edges : List Edge} {w : Wiring} {source : String} {outputs : List (List Target)}

/-- Where the edges lead that leave a source by an output, in order. -/
def targets (edges : List Edge) (source : String) (output : Nat) : List Target :=
  (edges.filter fun e => e.sourceName = source ∧ e.sourceOutput = output).map Edge.target

/-- The outputs of a source; none where it is no source. -/
def outputsOf (w : Wiring) (source : String) : List (List Target) := (w.lookup source).getD []

/-- All that is listed, slot by slot, with the source and the output of its slot. -/
def entries (w : Wiring) : List (String × Nat × Target) :=
  w.flatMap fun (source, outputs) =>
    outputs.zipIdx.flatMap fun (slot, output) => slot.map (source, output, ·)

/-- A wiring groups edges by source and output. -/
structure Groups (w : Wiring) (edges : List Edge) : Prop where
  sources : ∀ source, source ∈ w.map Prod.fst ↔ source ∈ edges.map (·.sourceName)
  /-- Sources stand in the order of their first use. -/
  firstUse : (w.map Prod.fst).Pairwise fun first second =>
    (edges.map (·.sourceName)).idxOf first < (edges.map (·.sourceName)).idxOf second
  /-- There are as many outputs as the largest one in use asks for. -/
  width : ∀ source outputs, w.lookup source = some outputs →
    (∃ e ∈ edges, e.sourceName = source ∧ outputs.length = 1 + e.sourceOutput) ∧
      ∀ e ∈ edges, e.sourceName = source → 1 + e.sourceOutput ≤ outputs.length
  last : ∀ source outputs, w.lookup source = some outputs →
    ∃ slot, outputs.getLast? = some slot ∧ slot ≠ []
  slots : ∀ source outputs, w.lookup source = some outputs →
    ∀ (output : Nat) (h : output < outputs.length), outputs[output] = targets edges source output
  perm : w.entries.Perm (edges.map fun e => (e.sourceName, e.sourceOutput, e.target))

/-! ## One output -/

theorem length_place (output : Nat) (target : Target) (outputs : List (List Target)) :
    (place output target outputs).length = max outputs.length (1 + output) := by
  simp only [place, List.length_modify, List.length_append, List.length_replicate]
  omega

/-- Outputs that are added empty do not show. -/
theorem getD_append_replicate (outputs : List (List Target)) (count k : Nat) :
    (outputs ++ List.replicate count [])[k]?.getD [] = outputs[k]?.getD [] := by
  by_cases hk : k < outputs.length
  · rw [List.getElem?_append_left hk]
  · rw [List.getElem?_append_right (Nat.le_of_not_lt hk), List.getElem?_replicate,
      List.getElem?_eq_none (Nat.le_of_not_lt hk)]
    split <;> rfl

/-- A target is put behind those of its output, and no other output changes. -/
theorem getD_place (output : Nat) (target : Target) (outputs : List (List Target)) (k : Nat) :
    (place output target outputs)[k]?.getD [] =
      outputs[k]?.getD [] ++ if k = output then [target] else [] := by
  have hpadded := getD_append_replicate outputs (output + 1 - outputs.length) k
  rw [place, List.getElem?_modify]
  by_cases houtput : k = output
  · subst houtput
    have hthere : k < (outputs ++ List.replicate (k + 1 - outputs.length) []).length := by
      rw [List.length_append, List.length_replicate]
      omega
    rw [List.getElem?_eq_getElem hthere, Option.getD_some] at hpadded
    simp only [List.getElem?_eq_getElem hthere, if_true, Option.map_eq_map, Option.map_some,
      Option.getD_some, hpadded]
  · simp only [Ne.symm houtput, houtput, if_false, Option.map_eq_map, Option.map_id',
      List.append_nil, hpadded]

/-- What the outputs list, each target with its output; the first output has a number. -/
def listed (first : Nat) (outputs : List (List Target)) : List (Nat × Target) :=
  (outputs.zipIdx first).flatMap fun (slot, output) => slot.map (output, ·)

theorem listed_cons (first : Nat) (slot : List Target) (outputs : List (List Target)) :
    listed first (slot :: outputs) = slot.map (first, ·) ++ listed (first + 1) outputs := by
  rw [listed, List.zipIdx_cons, List.flatMap_cons]
  rfl

theorem listed_replicate (first count : Nat) : listed first (List.replicate count []) = [] := by
  induction count generalizing first with
  | zero => rfl
  | succ count ih => rw [List.replicate_succ, listed_cons, ih, List.map_nil, List.append_nil]

theorem listed_append (first : Nat) (outputs more : List (List Target)) :
    listed first (outputs ++ more) =
      listed first outputs ++ listed (first + outputs.length) more := by
  rw [listed, List.zipIdx_append, List.flatMap_append]
  rfl

/-- Adding at an output adds one entry. -/
theorem listed_modify {outputs : List (List Target)} {output : Nat} (h : output < outputs.length)
    (first : Nat) (target : Target) :
    (listed first (outputs.modify output (· ++ [target]))).Perm
      ((first + output, target) :: listed first outputs) := by
  induction outputs generalizing first output with
  | nil => exact absurd h (Nat.not_lt_zero output)
  | cons slot rest ih =>
      cases output with
      | zero =>
          rw [List.modify_zero_cons, listed_cons, listed_cons, List.map_append, List.append_assoc]
          exact List.perm_middle
      | succ output =>
          have hrest := ih (Nat.lt_of_succ_lt_succ h) (first + 1)
          rw [List.modify_succ_cons, listed_cons, listed_cons]
          rw [Nat.add_right_comm, Nat.add_assoc first output 1] at hrest
          exact (hrest.append_left _).trans List.perm_middle

theorem listed_place (output : Nat) (target : Target) (outputs : List (List Target)) :
    (listed 0 (place output target outputs)).Perm ((output, target) :: listed 0 outputs) := by
  have hthere : output < (outputs ++ List.replicate (output + 1 - outputs.length) []).length := by
    rw [List.length_append, List.length_replicate]
    omega
  have hperm := listed_modify hthere 0 target
  rwa [listed_append, listed_replicate, List.append_nil, Nat.zero_add] at hperm

/-! ## One edge -/

theorem lookup_cons_of_ne {other : String} (h : other ≠ source) :
    List.lookup other ((source, outputs) :: w) = List.lookup other w := by
  rw [List.lookup_cons, beq_eq_false_iff_ne.mpr h]

/-- Only the outputs of the source change. -/
theorem lookup_add (w : Wiring) (source : String) (output : Nat) (target : Target)
    (other : String) :
    (w.add source output target).lookup other =
      if other = source then some (place output target (w.outputsOf source))
      else w.lookup other := by
  induction w with
  | nil =>
      by_cases hother : other = source
      · simp [add, outputsOf, hother]
      · simp [add, hother]
  | cons entry rest ih =>
      obtain ⟨s, outputs⟩ := entry
      rw [add]
      by_cases hs : s = source
      · subst hs
        by_cases hother : other = s
        · simp [outputsOf, hother]
        · rw [if_pos rfl, if_neg hother, lookup_cons_of_ne hother, lookup_cons_of_ne hother]
      · rw [if_neg hs, outputsOf, lookup_cons_of_ne (Ne.symm hs)]
        by_cases hother : other = s
        · subst hother
          simp [hs]
        · rw [lookup_cons_of_ne hother, lookup_cons_of_ne hother]
          exact ih

/-- Adding an edge adds one entry. -/
theorem entries_add (w : Wiring) (source : String) (output : Nat) (target : Target) :
    (w.add source output target).entries.Perm ((source, output, target) :: w.entries) := by
  have hcons (s : String) (outputs : List (List Target)) (rest : Wiring) :
      entries ((s, outputs) :: rest) =
        (listed 0 outputs).map (fun entry => (s, entry)) ++ rest.entries := by
    simp [entries, listed, List.map_flatMap, Function.comp_def]
  induction w with
  | nil =>
      rw [add, hcons]
      exact ((listed_place output target []).map _).append_right _
  | cons entry rest ih =>
      obtain ⟨s, outputs⟩ := entry
      rw [add]
      split
      next hs =>
        subst hs
        rw [hcons, hcons]
        exact ((listed_place output target outputs).map _).append_right _
      next =>
        rw [hcons, hcons]
        exact (ih.append_left _).trans List.perm_middle

/-! ## All edges -/

theorem ofEdges_concat (edges : List Edge) (e : Edge) :
    ofEdges (edges ++ [e]) = (ofEdges edges).add e.sourceName e.sourceOutput e.target := by
  rw [ofEdges, List.foldl_append]
  rfl

theorem targets_concat (edges : List Edge) (e : Edge) (source : String) (output : Nat) :
    targets (edges ++ [e]) source output = targets edges source output ++
      if e.sourceName = source ∧ e.sourceOutput = output then [e.target] else [] := by
  rw [targets, List.filter_append, List.map_append]
  congr 1
  split <;> simp_all

/-- Every slot lists the targets of its edges. -/
theorem getD_outputsOf_ofEdges (edges : List Edge) (source : String) (output : Nat) :
    ((ofEdges edges).outputsOf source)[output]?.getD [] = targets edges source output := by
  induction edges using List.reverseRecOn with
  | nil => rfl
  | append_singleton edges e ih =>
      rw [ofEdges_concat, targets_concat, ← ih, outputsOf, lookup_add]
      by_cases hsource : e.sourceName = source
      · subst hsource
        rw [if_pos rfl, Option.getD_some, getD_place]
        by_cases houtput : e.sourceOutput = output
        · simp [houtput]
        · simp [houtput, Ne.symm houtput]
      · rw [if_neg (Ne.symm hsource), if_neg fun h => hsource h.1, List.append_nil]
        rfl

theorem mem_sources_ofEdges (edges : List Edge) (source : String) :
    source ∈ (ofEdges edges).map Prod.fst ↔ source ∈ edges.map (·.sourceName) := by
  induction edges using List.reverseRecOn with
  | nil => rfl
  | append_singleton edges e ih =>
      rw [ofEdges_concat, map_fst_add, List.map_append, List.mem_append, ← ih]
      split
      next hthere =>
        rw [List.map_singleton, List.mem_singleton]
        exact ⟨.inl, fun h => h.elim id fun heq => heq ▸ hthere⟩
      next => rw [List.mem_append, List.map_singleton]

/-- A source that is used again keeps its place, and a new one goes to the end. -/
theorem pairwise_sources_ofEdges (edges : List Edge) :
    ((ofEdges edges).map Prod.fst).Pairwise fun first second =>
      (edges.map (·.sourceName)).idxOf first < (edges.map (·.sourceName)).idxOf second := by
  induction edges using List.reverseRecOn with
  | nil => exact .nil
  | append_singleton edges e ih =>
      have hkept {source : String} (h : source ∈ (ofEdges edges).map Prod.fst) :
          ((edges ++ [e]).map (·.sourceName)).idxOf source =
            (edges.map (·.sourceName)).idxOf source := by
        rw [List.map_append, List.idxOf_append_of_mem ((mem_sources_ofEdges edges source).mp h)]
      have hold := ih.imp_of_mem fun hfirst hsecond hlt => by
        rwa [← hkept hfirst, ← hkept hsecond] at hlt
      rw [ofEdges_concat, map_fst_add]
      split
      next => exact hold
      next hnew =>
        refine List.pairwise_append.mpr ⟨hold, List.pairwise_singleton _ _, ?_⟩
        intro first hfirst second hsecond
        rw [List.mem_singleton.mp hsecond, hkept hfirst, List.map_append,
          List.idxOf_append_of_notMem ((mem_sources_ofEdges edges _).not.mp hnew)]
        have hlt := List.idxOf_lt_length_of_mem ((mem_sources_ofEdges edges first).mp hfirst)
        omega

/-- The last output of a source is in use. -/
theorem exists_last_of_lookup_ofEdges (edges : List Edge) {source : String}
    {outputs : List (List Target)} (h : (ofEdges edges).lookup source = some outputs) :
    ∃ e ∈ edges, e.sourceName = source ∧ outputs.length = 1 + e.sourceOutput := by
  induction edges using List.reverseRecOn generalizing outputs with
  | nil => cases h
  | append_singleton edges e ih =>
      rw [ofEdges_concat, lookup_add] at h
      have hearlier {outputs : List (List Target)}
          (hlookup : (ofEdges edges).lookup source = some outputs) :
          ∃ other ∈ edges ++ [e], other.sourceName = source ∧
            outputs.length = 1 + other.sourceOutput := by
        obtain ⟨other, hother, hlast⟩ := ih hlookup
        exact ⟨other, List.mem_append_left [e] hother, hlast⟩
      split at h
      next hsource =>
        cases h
        rw [length_place]
        have hlast : e ∈ edges ++ [e] := List.mem_append_right edges List.mem_cons_self
        cases hlookup : (ofEdges edges).lookup e.sourceName with
        | none => exact ⟨e, hlast, hsource.symm, by simp [outputsOf, hlookup]⟩
        | some before =>
            rw [← hsource] at hlookup
            obtain ⟨other, hother, hname, hlength⟩ := hearlier hlookup
            rw [← hsource, outputsOf, hlookup, Option.getD_some]
            rcases Nat.le_total before.length (1 + e.sourceOutput) with hle | hle
            · exact ⟨e, hlast, hsource.symm, Nat.max_eq_right hle⟩
            · exact ⟨other, hother, hname, (Nat.max_eq_left hle).trans hlength⟩
      next => exact hearlier h

theorem perm_entries_ofEdges (edges : List Edge) :
    (ofEdges edges).entries.Perm
      (edges.map fun e => (e.sourceName, e.sourceOutput, e.target)) := by
  induction edges using List.reverseRecOn with
  | nil => exact .refl _
  | append_singleton edges e ih =>
      rw [ofEdges_concat, List.map_append]
      refine (entries_add ..).trans ((ih.cons _).trans ?_)
      exact (List.perm_append_singleton ..).symm

theorem mem_targets {e : Edge} (h : e ∈ edges) :
    e.target ∈ targets edges e.sourceName e.sourceOutput :=
  List.mem_map_of_mem (List.mem_filter.mpr ⟨h, by simp⟩)

theorem getElem_of_lookup_ofEdges (h : (ofEdges edges).lookup source = some outputs)
    {output : Nat} (houtput : output < outputs.length) :
    outputs[output] = targets edges source output := by
  have hslot := getD_outputsOf_ofEdges edges source output
  rwa [outputsOf, h, Option.getD_some, List.getElem?_eq_getElem houtput,
    Option.getD_some] at hslot

/-- An output in use is there: a slot that is not would be empty. -/
theorem lt_length_of_lookup_ofEdges {e : Edge} (he : e ∈ edges)
    (h : (ofEdges edges).lookup e.sourceName = some outputs) :
    e.sourceOutput < outputs.length := by
  have hslot := getD_outputsOf_ofEdges edges e.sourceName e.sourceOutput
  by_contra hshort
  rw [outputsOf, h, Option.getD_some, List.getElem?_eq_none (Nat.le_of_not_lt hshort),
    Option.getD_none] at hslot
  exact List.ne_nil_of_mem (mem_targets he) hslot.symm

theorem groups_ofEdges (edges : List Edge) : (ofEdges edges).Groups edges where
  sources := mem_sources_ofEdges edges
  firstUse := pairwise_sources_ofEdges edges
  width := by
    intro source outputs hlookup
    refine ⟨exists_last_of_lookup_ofEdges edges hlookup, ?_⟩
    rintro e he rfl
    have hlt := lt_length_of_lookup_ofEdges he hlookup
    omega
  last := by
    intro source outputs hlookup
    obtain ⟨e, he, rfl, hlength⟩ := exists_last_of_lookup_ofEdges edges hlookup
    have hlt := lt_length_of_lookup_ofEdges he hlookup
    refine ⟨outputs[e.sourceOutput], ?_, ?_⟩
    · rw [List.getLast?_eq_getElem?, hlength, Nat.add_sub_cancel_left,
        List.getElem?_eq_getElem hlt]
    · rw [getElem_of_lookup_ofEdges hlookup hlt]
      exact List.ne_nil_of_mem (mem_targets he)
  slots := fun source outputs hlookup output h => getElem_of_lookup_ofEdges hlookup h
  perm := perm_entries_ofEdges edges

end Wiring

/-- What is sent for the connections of a workflow groups its edges by source and output, and
there are as many entries as edges. -/
theorem Graph.payload_groups_edges (g : Graph) :
    let w := g.payload.connections
    g.payload.toJson.field? "connections" = some (.obj (w.map fun (source, outputs) =>
        (source, .obj [("main", .arr (outputs.map fun slot => .arr (slot.map fun t =>
          .obj [("node", .str t.node), ("type", .str "main"), ("index", .nat t.index)])))]))) ∧
      w.Groups g.edges ∧ w.entries.length = g.edges.length := by
  intro w
  have hgroups := Wiring.groups_ofEdges g.edges
  exact ⟨rfl, hgroups, hgroups.perm.length_eq.trans (List.length_map _)⟩

end Flowgate
