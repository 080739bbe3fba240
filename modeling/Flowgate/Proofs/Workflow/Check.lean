import Flowgate.Proofs.Exchange
import Flowgate.Proofs.Workflow.Links
import Flowgate.Proofs.Workflow.Repeats
import Flowgate.Workflow.Check

/-! # Checking and compiling

Checking lists every structural error of a definition. Compiling stops with the head
of that list, and the list is told here without the walks that gather it.
-/

namespace Flowgate.WorkflowSpec

/-! ## Compiling stops with the first error -/

/-- The stages of compiling and the parts of the list run side by side. The ends are
checked against first declarations, which is the table of the compiler once names are
known to be distinct. -/
theorem wire_failsFirst (spec : WorkflowSpec) : FailsFirst spec.wire spec.check := by
  unfold wire check NodeSpec.requireSome
  by_cases hempty : spec.nodes.isEmpty
  · simp only [hempty, if_true]
    exact .fails _ _
  · simp only [hempty, Bool.false_eq_true, if_false, List.append_assoc]
    change FailsFirst (NodeSpec.identify spec.nodes >>= _) _
    apply (NodeSpec.identify_failsFirst spec.nodes).bind
    intro ids hids
    apply (ConnectionSpec.linkAll_failsFirst spec.connections).bind
    intro links hlinks
    -- names are distinct from here on, so both sides look ends up in one table
    rw [NodeSpec.firstIds_of_identify hids, ← List.append_nil (List.flatMap _ _)]
    refine (FailsFirst.mapM ?_).bind fun edges _ => .passes (_, edges)
    refine (mapM_eq_ok.mp hlinks).imp ?_
    rintro ⟨c, index⟩ l hl
    obtain ⟨hindex, hsource, htarget, -, -⟩ := ConnectionSpec.link_eq_ok.mp hl
    simpa only [hindex, hsource, htarget] using NamedLink.bind_failsFirst ids l

theorem compile_failsFirst (defaultName : String) (spec : WorkflowSpec) :
    FailsFirst (spec.compile defaultName) spec.check := by
  rw [← List.append_nil spec.check]
  exact spec.wire_failsFirst.bind fun (nodes, edges) _ => .passes _

/-- Compiling succeeds just on definitions without structural errors, and otherwise
fails with the cause that stands first among them, whatever the link. -/
theorem compile_agrees_with_check (defaultName : String) (spec : WorkflowSpec) (l : Link) :
    ((∃ g, (Exchange.compile (some defaultName) spec).answer l = .ok g) ↔ spec.check = []) ∧
      ∀ f, (Exchange.compile (some defaultName) spec).answer l = .error f →
        ∃ cause first, f = .definition cause ∧ spec.check.head? = some first ∧
          cause.report.kind = first.report.kind ∧
          cause.report.toJson = first.report.toJson := by
  have hagree : FailsFirst ((Exchange.compile (some defaultName) spec).answer l)
      (spec.check.map Failure.definition) := by
    rw [Exchange.answer_compile_some]
    exact (spec.compile_failsFirst defaultName).mapError Failure.definition
  constructor
  · rw [hagree.exists_ok_iff, List.map_eq_nil_iff]
  · intro f hf
    have hhead := hagree.head?_of_error hf
    rw [List.head?_map, Option.map_eq_some_iff] at hhead
    obtain ⟨first, hfirst, hcause⟩ := hhead
    exact ⟨first, first, hcause.symm, hfirst, rfl, rfl⟩

/-- A repeated name, a port below zero and an end without a node: the name comes
first. -/
theorem compile_stops_at_repeated_name :
    let node (name : String) : NodeSpec := ⟨name, "t", [], .whole 1, none, none⟩
    let spec : WorkflowSpec :=
      ⟨none, [node "A", node "B", node "A"], [⟨"A", "C", .int (-1), .null⟩]⟩
    (Exchange.compile (some "W") spec).answer ⟨[], [], []⟩ =
        .error (.definition (.duplicateName "A")) ∧
      spec.check.head?.map (·.report.toJson) =
        some (CompileError.duplicateName "A").report.toJson := by
  intro node spec
  have hanswer : (Exchange.compile (some "W") spec).answer ⟨[], [], []⟩ =
      .error (.definition (.duplicateName "A")) := rfl
  refine ⟨hanswer, ?_⟩
  obtain ⟨cause, first, hcause, hfirst, -, hreport⟩ :=
    (compile_agrees_with_check "W" spec ⟨[], [], []⟩).2 _ hanswer
  cases hcause
  rw [hfirst, Option.map_some, hreport]

/-! ## The list of errors -/

/-- The connection that an error is about. -/
def connection? : CompileError → Option Nat
  | .unknownReference index _ _ => some index
  | .invalidPort index _ _ => some index
  | _ => none

/-- Lists of errors about distinct connections share no error. -/
theorem nodup_flatMap_zipIdx {errors : ConnectionSpec × Nat → List CompileError}
    (hnodup : ∀ numbered, (errors numbered).Nodup)
    (habout : ∀ numbered, ∀ e ∈ errors numbered, connection? e = some numbered.2)
    (connections : List ConnectionSpec) : (connections.zipIdx.flatMap errors).Nodup := by
  refine List.nodup_flatMap.mpr ⟨fun numbered _ => hnodup numbered, ?_⟩
  refine (pairwise_place_ne connections).imp ?_
  intro first second hne e hfirst hsecond
  have heq := (habout first e hfirst).symm.trans (habout second e hsecond)
  exact hne (Option.some.inj heq)

/-- The errors of all ports, connection by connection. -/
def allPortErrors (spec : WorkflowSpec) : List CompileError :=
  spec.connections.zipIdx.flatMap fun (c, index) => c.portErrors index

/-- The dangling ends of all connections, connection by connection. -/
def allDanglingEnds (spec : WorkflowSpec) : List CompileError :=
  spec.connections.zipIdx.flatMap fun (c, index) =>
    NamedLink.danglingEnds index c.source c.target (NodeSpec.firstIds spec.nodes)

theorem check_eq (spec : WorkflowSpec) :
    spec.check =
      if spec.nodes.isEmpty then [.emptyWorkflow]
      else (NodeSpec.repeatedNames spec.nodes).map .duplicateName ++ spec.allPortErrors ++
        spec.allDanglingEnds := rfl

theorem mem_portErrors {index : Nat} {c : ConnectionSpec} {e : CompileError}
    (h : e ∈ c.portErrors index) : ∃ field v, e = .invalidPort index field v := by
  obtain ⟨⟨field, v⟩, -, he⟩ := List.mem_filterMap.mp h
  obtain ⟨-, he⟩ := Option.ite_none_right_eq_some.mp he
  exact ⟨field, v, (Option.some.inj he).symm⟩

theorem mem_danglingEnds {index : Nat} {source target : String} {ids : NameTable}
    {e : CompileError} (h : e ∈ NamedLink.danglingEnds index source target ids) :
    ∃ side name, e = .unknownReference index side name := by
  obtain ⟨⟨side, name⟩, -, he⟩ := List.mem_filterMap.mp h
  obtain ⟨-, he⟩ := Option.ite_none_right_eq_some.mp he
  exact ⟨side, name, (Option.some.inj he).symm⟩

theorem nodup_allPortErrors (spec : WorkflowSpec) : spec.allPortErrors.Nodup := by
  apply nodup_flatMap_zipIdx
  · intro (c, index)
    change (c.portErrors index).Nodup
    rw [ConnectionSpec.portErrors_eq]
    split <;> split <;> simp
  · intro (c, index) e he
    obtain ⟨field, v, rfl⟩ := mem_portErrors he
    rfl

theorem nodup_allDanglingEnds (spec : WorkflowSpec) : spec.allDanglingEnds.Nodup := by
  apply nodup_flatMap_zipIdx
  · intro (c, index)
    change (NamedLink.danglingEnds index c.source c.target _).Nodup
    rw [NamedLink.danglingEnds_firstIds]
    split <;> split <;> simp
  · intro (c, index) e he
    obtain ⟨side, name, rfl⟩ := mem_danglingEnds he
    rfl

/-- No error is listed twice. -/
theorem nodup_check (spec : WorkflowSpec) : spec.check.Nodup := by
  rw [check_eq]
  split
  · exact List.nodup_singleton _
  · have hnames := (NodeSpec.repeats_repeatedNames spec.nodes).nodup.map
      fun _ _ => CompileError.duplicateName.inj
    have hport (e : CompileError) (he : e ∈ spec.allPortErrors) :
        ∃ index field v, e = .invalidPort index field v := by
      obtain ⟨⟨c, index⟩, -, he⟩ := List.mem_flatMap.mp he
      exact ⟨index, mem_portErrors he⟩
    have hend (e : CompileError) (he : e ∈ spec.allDanglingEnds) :
        ∃ index side name, e = .unknownReference index side name := by
      obtain ⟨⟨c, index⟩, -, he⟩ := List.mem_flatMap.mp he
      exact ⟨index, mem_danglingEnds he⟩
    -- the three parts share nothing: each holds errors of a cause of its own
    refine List.nodup_append.mpr ⟨List.nodup_append.mpr
      ⟨hnames, spec.nodup_allPortErrors, ?_⟩, spec.nodup_allDanglingEnds, ?_⟩
    · intro e he other hother
      obtain ⟨name, -, rfl⟩ := List.mem_map.mp he
      obtain ⟨index, field, v, rfl⟩ := hport other hother
      simp
    · intro e he other hother
      obtain ⟨index, side, name, rfl⟩ := hend other hother
      rcases List.mem_append.mp he with he | he
      · obtain ⟨repeated, -, rfl⟩ := List.mem_map.mp he
        simp
      · obtain ⟨connection, field, v, rfl⟩ := hport e he
        simp

/-- The list of a definition without nodes has one error. Any other list is, in this
order: the names declared more than once; for each connection the ports that no value
admits, the output first; for each connection the ends that no node bears, the source
first. No error is listed twice. -/
theorem check_lists_every_error (spec : WorkflowSpec) :
    (spec.nodes = [] → spec.check = [.emptyWorkflow]) ∧
      (spec.nodes ≠ [] →
        ∃ repeated, NodeSpec.Repeats spec.nodeNames repeated ∧
          spec.check =
            repeated.map .duplicateName ++
            (spec.connections.zipIdx.flatMap fun (c, index) =>
              (if Port.Admits c.sourceOutput then []
                else [.invalidPort index .sourceOutput c.sourceOutput]) ++
              (if Port.Admits c.targetInput then []
                else [.invalidPort index .targetInput c.targetInput])) ++
            (spec.connections.zipIdx.flatMap fun (c, index) =>
              (if c.source ∈ spec.nodeNames then []
                else [.unknownReference index .source c.source]) ++
              (if c.target ∈ spec.nodeNames then []
                else [.unknownReference index .target c.target]))) ∧
      spec.check.Nodup := by
  refine ⟨?_, ?_, spec.nodup_check⟩
  · intro hnodes
    rw [check_eq, hnodes]
    rfl
  · intro hnodes
    refine ⟨NodeSpec.repeatedNames spec.nodes, NodeSpec.repeats_repeatedNames spec.nodes, ?_⟩
    have hempty : ¬ spec.nodes.isEmpty := by simpa using hnodes
    rw [check_eq, if_neg hempty, allPortErrors, allDanglingEnds]
    simp only [ConnectionSpec.portErrors_eq, NamedLink.danglingEnds_firstIds]
    rfl

/-- A name declared three times, a flag and a negative number as ports of a connection
that also dangles, and a second connection whose source dangles. -/
theorem check_of_mixed_errors :
    let node (name : String) : NodeSpec := ⟨name, "t", [], .whole 1, none, none⟩
    let spec : WorkflowSpec :=
      ⟨none, [node "A", node "B", node "B", node "A", node "A"],
        [⟨"A", "C", .bool true, .int (-1)⟩, ⟨"D", "B", .null, .int 2⟩]⟩
    spec.nodes ≠ [] ∧
      ∃ repeated, NodeSpec.Repeats spec.nodeNames repeated ∧
        spec.check = repeated.map .duplicateName ++
          [.invalidPort 0 .sourceOutput (.bool true), .invalidPort 0 .targetInput (.int (-1)),
            .unknownReference 0 .target "C", .unknownReference 1 .source "D"] := by
  intro node spec
  have hnodes : spec.nodes ≠ [] := List.cons_ne_nil _ _
  obtain ⟨repeated, hrepeats, hcheck⟩ := (check_lists_every_error spec).2.1 hnodes
  refine ⟨hnodes, repeated, hrepeats, ?_⟩
  rw [hcheck, List.append_assoc]
  rfl

end Flowgate.WorkflowSpec
