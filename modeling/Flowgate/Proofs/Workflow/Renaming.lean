import Flowgate.Proofs.Workflow.Check
import Flowgate.Proofs.Workflow.Compile
import Flowgate.Workflow.Payload
import Mathlib.Logic.Equiv.Basic

/-! # Renaming nodes

Names are only compared with each other. A definition in which all names were exchanged, different
ones for different ones, is checked, compiled and rendered as it was before, under the new names.
-/

namespace Flowgate

section Renamed

variable (f : String → String)

def NodeSpec.rename (n : NodeSpec) : NodeSpec := { n with name := f n.name }

def ConnectionSpec.rename (c : ConnectionSpec) : ConnectionSpec :=
  { c with source := f c.source, target := f c.target }

/-- A definition with other names of nodes, where they are declared and where connections refer
to them. -/
def WorkflowSpec.rename (spec : WorkflowSpec) : WorkflowSpec :=
  { spec with
    nodes := spec.nodes.map (NodeSpec.rename f)
    connections := spec.connections.map (ConnectionSpec.rename f) }

/-- An error about another name. Only two kinds of errors carry the name of a node. -/
def CompileError.rename : CompileError → CompileError
  | .duplicateName name => .duplicateName (f name)
  | .unknownReference connection side name => .unknownReference connection side (f name)
  | cause => cause

/-- A node under another name, which also gives it another identifier. -/
def Graph.Node.rename (m : Node) : Node :=
  { m with name := f m.name, id := NodeId.of m.index (f m.name) }

def Target.rename (t : Target) : Target := { t with node := f t.node }

/-- The same outputs, which list their targets under other names. -/
def Wiring.renameTargets (outputs : List (List Target)) : List (List Target) :=
  outputs.map fun slot => slot.map (Target.rename f)

/-- The same wiring under other names of sources and targets. -/
def Wiring.rename (w : Wiring) : Wiring :=
  w.map fun (source, outputs) => (f source, renameTargets f outputs)

/-- An edge that only names its ends otherwise: they are the same two nodes. -/
structure Graph.Edge.Renames (nodes : List Node) (e renamed : Edge) : Prop where
  index : renamed.index = e.index
  sourceName : renamed.sourceName = f e.sourceName
  targetName : renamed.targetName = f e.targetName
  sourceOutput : renamed.sourceOutput = e.sourceOutput
  targetInput : renamed.targetInput = e.targetInput
  source : ∃ m ∈ nodes, m.id = e.sourceId ∧ (m.rename f).id = renamed.sourceId
  target : ∃ m ∈ nodes, m.id = e.targetId ∧ (m.rename f).id = renamed.targetId

/-- A graph that differs in the names of nodes, and in the identifiers made from them, only. -/
structure Graph.Renames (g renamed : Graph) : Prop where
  name : renamed.name = g.name
  nodes : renamed.nodes = g.nodes.map (Node.rename f)
  edges : List.Forall₂ (Edge.Renames f g.nodes) g.edges renamed.edges

end Renamed

variable {f : String → String}

/-! ## Checking -/

namespace NodeSpec

theorem map_name_rename (nodes : List NodeSpec) :
    (nodes.map (rename f)).map (·.name) = (nodes.map (·.name)).map f := by
  rw [List.map_map, List.map_map]
  rfl

/-- The walk over the names finds the same repetitions under the new names. -/
theorem repeatedFrom_rename (hf : Function.Injective f) (seen found : List String)
    (nodes : List NodeSpec) :
    repeatedFrom (seen.map f) (found.map f) (nodes.map (rename f)) =
      (repeatedFrom seen found nodes).map f := by
  induction nodes generalizing seen found with
  | nil => rfl
  | cons n rest ih =>
      have hname (names : List String) : (n.rename f).name ∈ names.map f ↔ n.name ∈ names :=
        List.mem_map_of_injective hf
      simp only [List.map_cons, repeatedFrom, hname]
      split
      next =>
        rw [List.map_cons, ← ih]
        rfl
      next => exact ih (n.name :: seen) found

theorem repeatedNames_rename (hf : Function.Injective f) (nodes : List NodeSpec) :
    repeatedNames (nodes.map (rename f)) = (repeatedNames nodes).map f :=
  repeatedFrom_rename hf [] [] nodes

end NodeSpec

/-- An end dangles under its new name just if it did before. -/
theorem NamedLink.danglingEnds_rename (hf : Function.Injective f) (index : Nat)
    (source target : String) (nodes : List NodeSpec) :
    danglingEnds index (f source) (f target) (NodeSpec.firstIds (nodes.map (NodeSpec.rename f))) =
      (danglingEnds index source target (NodeSpec.firstIds nodes)).map
        (CompileError.rename f) := by
  rw [danglingEnds_firstIds, danglingEnds_firstIds, NodeSpec.map_name_rename, List.map_append]
  simp only [List.mem_map_of_injective hf]
  congr 1 <;> split <;> rfl

namespace WorkflowSpec

theorem zipIdx_rename (spec : WorkflowSpec) :
    (spec.rename f).connections.zipIdx =
      spec.connections.zipIdx.map (Prod.map (ConnectionSpec.rename f) id) :=
  List.zipIdx_map

theorem allPortErrors_rename (spec : WorkflowSpec) :
    (spec.rename f).allPortErrors = spec.allPortErrors.map (CompileError.rename f) := by
  rw [allPortErrors, allPortErrors, zipIdx_rename, List.flatMap_map, List.map_flatMap]
  congr 1
  funext numbered
  obtain ⟨c, index⟩ := numbered
  change c.portErrors index = (c.portErrors index).map (CompileError.rename f)
  rw [ConnectionSpec.portErrors_eq, List.map_append]
  congr 1 <;> split <;> rfl

theorem allDanglingEnds_rename (hf : Function.Injective f) (spec : WorkflowSpec) :
    (spec.rename f).allDanglingEnds = spec.allDanglingEnds.map (CompileError.rename f) := by
  rw [allDanglingEnds, allDanglingEnds, zipIdx_rename, List.flatMap_map, List.map_flatMap]
  congr 1
  funext numbered
  obtain ⟨c, index⟩ := numbered
  exact NamedLink.danglingEnds_rename hf index c.source c.target spec.nodes

theorem check_rename (hf : Function.Injective f) (spec : WorkflowSpec) :
    (spec.rename f).check = spec.check.map (CompileError.rename f) := by
  have hempty : (spec.rename f).nodes.isEmpty = spec.nodes.isEmpty := List.isEmpty_map
  have hnames : (NodeSpec.repeatedNames (spec.rename f).nodes).map CompileError.duplicateName =
      ((NodeSpec.repeatedNames spec.nodes).map .duplicateName).map (CompileError.rename f) := by
    change (NodeSpec.repeatedNames (spec.nodes.map (NodeSpec.rename f))).map _ = _
    rw [NodeSpec.repeatedNames_rename hf, List.map_map, List.map_map]
    rfl
  rw [check_eq, check_eq, hempty, hnames, allPortErrors_rename, allDanglingEnds_rename hf]
  split
  · rfl
  · rw [List.map_append, List.map_append]

/-! ## Compiling -/

/-- There is an answer just if there is no error and a name for the workflow. -/
theorem exists_answer_iff {defaultName : Option String} {spec : WorkflowSpec} {l : Link} :
    (∃ g, (Exchange.compile defaultName spec).answer l = .ok g) ↔
      spec.check = [] ∧ (spec.title defaultName some).isSome := by
  rw [← (spec.compile_failsFirst (defaultName.getD "")).exists_ok_iff, Exchange.answer_compile]
  cases spec.compile (defaultName.getD "") with
  | error cause => simp
  | ok g => cases spec.title defaultName some <;> simp

section Wired

variable {spec : WorkflowSpec} {nodes renamedNodes : List Graph.Node}
  {edges renamedEdges : List Graph.Edge}

theorem nodes_rename (h : spec.wire = .ok (nodes, edges))
    (hrenamed : (spec.rename f).wire = .ok (renamedNodes, renamedEdges)) :
    renamedNodes = nodes.map (Graph.Node.rename f) := by
  have hzip : (spec.rename f).nodes.zipIdx =
      spec.nodes.zipIdx.map (Prod.map (NodeSpec.rename f) id) := List.zipIdx_map
  rw [nodes_of_wire h, nodes_of_wire hrenamed, hzip, List.map_map, List.map_map]
  rfl

/-- An identifier that a name has and the one that the new name has are those of one node, since
no other node bears either name. -/
theorem exists_node_rename (hf : Function.Injective f) (hdistinct : (nodes.map (·.name)).Nodup)
    {name id renamedId : String} (h : ∃ m ∈ nodes, m.name = name ∧ m.id = id)
    (hrenamed : ∃ m ∈ nodes.map (Graph.Node.rename f), m.name = f name ∧ m.id = renamedId) :
    ∃ m ∈ nodes, m.id = id ∧ (m.rename f).id = renamedId := by
  obtain ⟨m, hm, hname, hid⟩ := h
  obtain ⟨_, hmem, hotherName, hotherId⟩ := hrenamed
  obtain ⟨other, hother, rfl⟩ := List.mem_map.mp hmem
  have hsame : other.name = m.name := (hf hotherName).trans hname.symm
  rw [List.inj_on_of_nodup_map hdistinct hother hm hsame] at hotherId
  exact ⟨m, hm, hid, hotherId⟩

theorem edges_rename (hf : Function.Injective f) (h : spec.wire = .ok (nodes, edges))
    (hrenamed : (spec.rename f).wire = .ok (renamedNodes, renamedEdges)) :
    List.Forall₂ (Graph.Edge.Renames f nodes) edges renamedEdges := by
  have hdistinct : (nodes.map (·.name)).Nodup := by
    rw [map_name_of_wire h]
    exact nodup_names_of_wire h
  have hedges := edges_of_wire hrenamed
  rw [zipIdx_rename, List.forall₂_map_left_iff, nodes_rename h hrenamed] at hedges
  -- an edge and the renamed one stand for one connection, which has one value for each port
  refine (forall₂_comp (edges_of_wire h).flip hedges).imp ?_
  rintro e renamed ⟨⟨c, index⟩, hstands, hrenames⟩
  have hport {v : Json} {p q : Nat} (hp : v = .null ∧ p = 0 ∨ v = .int p)
      (hq : v = .null ∧ q = 0 ∨ v = .int q) : q = p :=
    Option.some.inj ((Port.ofJson?_eq_some.mpr hq).symm.trans (Port.ofJson?_eq_some.mpr hp))
  exact {
    index := hrenames.index.trans hstands.index.symm
    sourceName := by rw [hrenames.sourceName, hstands.sourceName]; rfl
    targetName := by rw [hrenames.targetName, hstands.targetName]; rfl
    sourceOutput := hport hstands.output hrenames.output
    targetInput := hport hstands.input hrenames.input
    source := exists_node_rename hf hdistinct hstands.source hrenames.source
    target := exists_node_rename hf hdistinct hstands.target hrenames.target }

end Wired

/-- Both answers come from the same stages, so they differ in what is made of names only. -/
theorem renames_of_answer (hf : Function.Injective f) {spec : WorkflowSpec}
    {defaultName : Option String} {l m : Link} {g renamed : Graph}
    (h : (Exchange.compile defaultName spec).answer l = .ok g)
    (hrenamed : (Exchange.compile defaultName (spec.rename f)).answer m = .ok renamed) :
    g.Renames f renamed := by
  obtain ⟨hwire, htitle⟩ := wire_of_answer h
  obtain ⟨hwireRenamed, htitleRenamed⟩ := wire_of_answer hrenamed
  have hsame : (spec.rename f).title defaultName some = spec.title defaultName some := rfl
  exact {
    name := Option.some.inj (htitleRenamed.symm.trans (hsame.trans htitle))
    nodes := nodes_rename hwire hwireRenamed
    edges := edges_rename hf hwire hwireRenamed }

end WorkflowSpec

/-! ## Rendering -/

namespace Wiring

theorem place_rename (output : Nat) (target : Target) (outputs : List (List Target)) :
    place output (target.rename f) (renameTargets f outputs) =
      renameTargets f (place output target outputs) := by
  have hpadded : renameTargets f outputs ++ List.replicate (output + 1 - outputs.length) [] =
      renameTargets f (outputs ++ List.replicate (output + 1 - outputs.length) []) := by
    rw [renameTargets, renameTargets, List.map_append, List.map_replicate, List.map_nil]
  have hlength : (renameTargets f outputs).length = outputs.length := List.length_map _
  rw [place, place, hlength, hpadded]
  apply List.ext_getElem?
  intro k
  simp only [renameTargets, List.getElem?_modify, List.getElem?_map]
  by_cases hk : output = k <;> simp [hk, Function.comp_def]

/-- Under the new name of its source a target is added where it was added before. -/
theorem add_rename (hf : Function.Injective f) (source : String) (output : Nat) (target : Target)
    (w : Wiring) :
    (w.rename f).add (f source) output (target.rename f) =
      (w.add source output target).rename f := by
  induction w with
  | nil =>
      change [(f source, place output (target.rename f) (renameTargets f []))] = _
      rw [place_rename]
      rfl
  | cons entry rest ih =>
      obtain ⟨s, outputs⟩ := entry
      change add (f source) output (target.rename f)
        ((f s, renameTargets f outputs) :: rename f rest) = _
      rw [add, add]
      by_cases hs : s = source
      · rw [if_pos hs, if_pos (congrArg f hs), place_rename]
        rfl
      · rw [if_neg hs, if_neg (hf.ne hs), ih]
        rfl

theorem ofEdges_rename (hf : Function.Injective f) {nodes : List Graph.Node}
    {edges renamed : List Graph.Edge}
    (h : List.Forall₂ (Graph.Edge.Renames f nodes) edges renamed) :
    ofEdges renamed = (ofEdges edges).rename f := by
  -- by induction on the edges, for whatever was grouped before
  suffices hfold : ∀ w : Wiring,
      renamed.foldl (fun w e => w.add e.sourceName e.sourceOutput ⟨e.targetName, e.targetInput⟩)
          (w.rename f) =
        (edges.foldl (fun w e =>
          w.add e.sourceName e.sourceOutput ⟨e.targetName, e.targetInput⟩) w).rename f from
    hfold []
  induction h with
  | nil => exact fun _ => rfl
  | @cons e other edges renamed hhead _ ih =>
      intro w
      rw [List.foldl_cons, List.foldl_cons, ← ih, ← add_rename hf, hhead.sourceName,
        hhead.sourceOutput, hhead.targetName, hhead.targetInput]
      rfl

end Wiring

/-- All names may be exchanged for other ones, if different names stay different. The errors are
those found before, under the new names; there is a graph just if there was one, and it differs in
names and in the identifiers made from them only; and what the engine is sent for the connections
has the same entries in the same order under the new names. -/
theorem WorkflowSpec.names_are_only_compared (hf : Function.Injective f) (spec : WorkflowSpec)
    (defaultName : Option String) (l m : Link) :
    (spec.rename f).check = spec.check.map (CompileError.rename f) ∧
      ((∃ g, (Exchange.compile defaultName (spec.rename f)).answer m = .ok g) ↔
        ∃ g, (Exchange.compile defaultName spec).answer l = .ok g) ∧
      ∀ g renamed, (Exchange.compile defaultName spec).answer l = .ok g →
        (Exchange.compile defaultName (spec.rename f)).answer m = .ok renamed →
        g.Renames f renamed ∧
          g.payload.toJson.field? "connections" = some g.payload.connections.toJson ∧
          renamed.payload.toJson.field? "connections" =
            some (g.payload.connections.rename f).toJson := by
  refine ⟨spec.check_rename hf, ?_, ?_⟩
  · rw [exists_answer_iff, exists_answer_iff, spec.check_rename hf, List.map_eq_nil_iff]
    rfl
  · intro g renamed h hrenamed
    have hrenames := renames_of_answer hf h hrenamed
    refine ⟨hrenames, rfl, ?_⟩
    change some renamed.payload.connections.toJson = _
    rw [Graph.payload, Wiring.ofEdges_rename hf hrenames.edges]
    rfl

/-- Two names that differ in case only are exchanged for each other, in a definition with errors
and in one without. -/
theorem WorkflowSpec.names_swapped_with_capitals :
    let f : String → String := Equiv.swap "a" "A"
    let node (name : String) : NodeSpec := ⟨name, "t", [], .whole 1, none, none⟩
    let broken : WorkflowSpec :=
      ⟨none, [node "a", node "A", node "a"], [⟨"b", "a", .null, .int (-1)⟩]⟩
    let spec : WorkflowSpec :=
      ⟨none, [node "a", node "A"], [⟨"A", "a", .null, .int 1⟩, ⟨"a", "a", .int 1, .null⟩]⟩
    Function.Injective f ∧
      (broken.rename f).check = [.duplicateName "A", .invalidPort 0 .targetInput (.int (-1)),
        .unknownReference 0 .source "b"] ∧
      ∃ g renamed, (Exchange.compile (some "W") spec).answer ⟨[], [], []⟩ = .ok g ∧
        (Exchange.compile (some "W") (spec.rename f)).answer ⟨[], [], []⟩ = .ok renamed ∧
        g.Renames f renamed ∧
        renamed.payload.toJson.field? "connections" = some (.obj [
          ("a", .obj [("main", .arr [.arr [
            .obj [("node", .str "A"), ("type", .str "main"), ("index", .int 1)]]])]),
          ("A", .obj [("main", .arr [.arr [], .arr [
            .obj [("node", .str "A"), ("type", .str "main"), ("index", .int 0)]]])])]) := by
  intro f node broken spec
  have hf : Function.Injective f := (Equiv.swap "a" "A").injective
  obtain ⟨hrenames, -, hconnections⟩ := (spec.names_are_only_compared hf (some "W") ⟨[], [], []⟩
    ⟨[], [], []⟩).2.2 _ _ rfl rfl
  refine ⟨hf, ?_, _, _, rfl, rfl, hrenames, hconnections⟩
  rw [(broken.names_are_only_compared hf none ⟨[], [], []⟩ ⟨[], [], []⟩).1]
  rfl

end Flowgate
