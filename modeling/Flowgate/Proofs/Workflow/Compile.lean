import Flowgate.Proofs.Exchange
import Flowgate.Proofs.Workflow.Links

/-! # What a compiled workflow holds

A definition that compiles is kept whole: a graph has its nodes and its connections,
one for one and in order. Names are distinct then, so every node and every end of an
edge has the identifier of the one node that bears the name.
-/

namespace Flowgate

namespace Graph

/-- A node of a graph stands for the node declared at a place of the list: it adds an
identifier and, where none was given, a position in the row. -/
structure Node.StandsFor (m : Node) (place : Nat) (n : NodeSpec) : Prop where
  index : m.index = place
  id : m.id = NodeId.of place n.name
  name : m.name = n.name
  type : m.type = n.type
  typeVersion : m.typeVersion = n.typeVersion
  parameters : m.parameters = n.parameters
  credentials : m.credentials = n.credentials
  given : ∀ position, n.position = some position → m.position = position
  laidOut : n.position = none → m.position = (250 + 200 * (place : Int), 300)

/-- An edge of a graph stands for the connection declared at a place of the list: its
ends are the identifiers of the nodes that bear the names, and its ports those given or
zero. -/
structure Edge.StandsFor (e : Edge) (place : Nat) (c : ConnectionSpec) (nodes : List Node) :
    Prop where
  index : e.index = place
  sourceName : e.sourceName = c.source
  targetName : e.targetName = c.target
  source : ∃ m ∈ nodes, m.name = c.source ∧ m.id = e.sourceId
  target : ∃ m ∈ nodes, m.name = c.target ∧ m.id = e.targetId
  output : c.sourceOutput = .null ∧ e.sourceOutput = 0 ∨ c.sourceOutput = .int e.sourceOutput
  input : c.targetInput = .null ∧ e.targetInput = 0 ∨ c.targetInput = .int e.targetInput

end Graph

/-- A graph has the name, the nodes and the connections of a definition, in order, and
nothing else. Its nodes have distinct names, so a name means one node. -/
structure Graph.Faithful (g : Graph) (defaultName : Option String) (spec : WorkflowSpec) :
    Prop where
  named : ∀ name, spec.name = some name → name ≠ "" → g.name = name
  unnamed : spec.name = none ∨ spec.name = some "" → defaultName = some g.name
  nodes : List.Forall₂ (fun (n, place) m => m.StandsFor place n) spec.nodes.zipIdx g.nodes
  distinct : (g.nodes.map (·.name)).Nodup
  edges : List.Forall₂ (fun (c, place) e => e.StandsFor place c g.nodes)
    spec.connections.zipIdx g.edges

namespace NodeSpec

theorem resolve_standsFor (n : NodeSpec) (index : Nat) :
    (n.resolve index (NodeId.of index n.name)).StandsFor index n where
  index := rfl
  id := rfl
  name := rfl
  type := rfl
  typeVersion := rfl
  parameters := rfl
  credentials := rfl
  given position hgiven := by
    change Layout.placeOf index n = position
    rw [Layout.placeOf, hgiven, Option.getD_some]
  laidOut hnone := by
    change Layout.placeOf index n = _
    rw [Layout.placeOf, hnone, Option.getD_none]
    rfl

/-- In a table without repetitions every node finds its own identifier. -/
theorem resolveAll_of_identify {nodes : List NodeSpec} {ids : NameTable}
    (h : identify nodes = .ok ids) :
    resolveAll nodes ids =
      nodes.zipIdx.map fun (n, index) => n.resolve index (NodeId.of index n.name) := by
  unfold resolveAll
  rw [← List.filterMap_eq_map]
  apply List.filterMap_congr
  rintro ⟨n, index⟩ hmem
  have hn := List.mk_mem_zipIdx_iff_getElem?.mp hmem
  have hlookup := (lookup_identify h).mpr ⟨index, n, hn, rfl, rfl⟩
  simp only [hlookup, Option.map_some, Function.comp_apply]

end NodeSpec

namespace WorkflowSpec

variable {spec : WorkflowSpec} {nodes : List Graph.Node} {edges : List Graph.Edge}

theorem wire_eq_ok (h : spec.wire = .ok (nodes, edges)) :
    ∃ ids links, NodeSpec.identify spec.nodes = .ok ids ∧
      ConnectionSpec.linkAll spec.connections = .ok links ∧
      links.mapM (NamedLink.bind ids) = .ok edges ∧
      nodes = NodeSpec.resolveAll spec.nodes ids := by
  unfold wire at h
  obtain ⟨-, -, h⟩ := bind_eq_ok.mp h
  obtain ⟨ids, hids, h⟩ := bind_eq_ok.mp h
  obtain ⟨links, hlinks, h⟩ := bind_eq_ok.mp h
  obtain ⟨bound, hbound, h⟩ := bind_eq_ok.mp h
  cases h
  exact ⟨ids, links, hids, hlinks, hbound, rfl⟩

theorem nodes_ne_nil_of_wire (h : spec.wire = .ok (nodes, edges)) : spec.nodes ≠ [] := by
  intro hnil
  rw [wire, hnil] at h
  cases h

theorem nodup_names_of_wire (h : spec.wire = .ok (nodes, edges)) : spec.nodeNames.Nodup := by
  obtain ⟨ids, -, hids, -⟩ := wire_eq_ok h
  exact NodeSpec.nodup_of_identify hids

theorem nodes_of_wire (h : spec.wire = .ok (nodes, edges)) :
    nodes = spec.nodes.zipIdx.map fun (n, index) =>
      n.resolve index (NodeId.of index n.name) := by
  obtain ⟨ids, -, hids, -, -, hnodes⟩ := wire_eq_ok h
  rw [hnodes, NodeSpec.resolveAll_of_identify hids]

theorem map_name_of_wire (h : spec.wire = .ok (nodes, edges)) :
    nodes.map (·.name) = spec.nodeNames := by
  rw [nodes_of_wire h, List.map_map, nodeNames]
  exact zipIdx_map_item (·.name) spec.nodes

/-- Every identifier of the table is that of a node of the graph. -/
theorem exists_node_of_lookup (h : spec.wire = .ok (nodes, edges)) {ids : NameTable}
    (hids : NodeSpec.identify spec.nodes = .ok ids) {name id : String}
    (hlookup : ids.lookup name = some id) : ∃ m ∈ nodes, m.name = name ∧ m.id = id := by
  obtain ⟨index, n, hn, rfl, rfl⟩ := (NodeSpec.lookup_identify hids).mp hlookup
  refine ⟨n.resolve index (NodeId.of index n.name), ?_, rfl, rfl⟩
  rw [nodes_of_wire h]
  exact List.mem_map.mpr ⟨(n, index), List.mk_mem_zipIdx_iff_getElem?.mpr hn, rfl⟩

/-- Settling ports and binding ends keep the connections one for one. -/
theorem edges_of_wire (h : spec.wire = .ok (nodes, edges)) :
    List.Forall₂ (fun (c, index) e => e.StandsFor index c nodes) spec.connections.zipIdx edges := by
  obtain ⟨ids, links, hids, hlinks, hedges, -⟩ := wire_eq_ok h
  refine (forall₂_comp (mapM_eq_ok.mp hlinks) (mapM_eq_ok.mp hedges)).imp ?_
  rintro ⟨c, index⟩ e ⟨l, hlink, hbind⟩
  obtain ⟨hindex, hsource, htarget, houtput, hinput⟩ := ConnectionSpec.link_eq_ok.mp hlink
  obtain ⟨hsourceId, htargetId, heindex, hsourceName, htargetName, heoutput, heinput⟩ :=
    NamedLink.bind_eq_ok.mp hbind
  rw [hsource] at hsourceId hsourceName
  rw [htarget] at htargetId htargetName
  exact {
    index := heindex.trans hindex
    sourceName := hsourceName
    targetName := htargetName
    source := exists_node_of_lookup h hids hsourceId
    target := exists_node_of_lookup h hids htargetId
    output := heoutput ▸ houtput
    input := heinput ▸ hinput }

/-! ## The answer of the compiler -/

/-- A name found with a default that may be missing is the name found with any text in
its stead. -/
theorem title_getD {defaultName : Option String} {name : String}
    (h : spec.title defaultName some = some name) :
    spec.title (defaultName.getD "") id = name := by
  cases hname : spec.name with
  | none =>
      simp only [title, hname] at h ⊢
      rw [h, Option.getD_some]
  | some given =>
      by_cases hempty : given = ""
      · simp only [title, hname, hempty, if_true] at h ⊢
        rw [h, Option.getD_some]
      · simp only [title, hname, hempty, if_false, Option.some.injEq] at h ⊢
        exact h

/-- An answer of the compiler is a definition that was wired, under its name. -/
theorem wire_of_answer {defaultName : Option String} {l : Link} {g : Graph}
    (h : (Exchange.compile defaultName spec).answer l = .ok g) :
    spec.wire = .ok (g.nodes, g.edges) ∧ spec.title defaultName some = some g.name := by
  rw [Exchange.answer_compile] at h
  cases hcompile : spec.compile (defaultName.getD "") with
  | error cause => simp [hcompile] at h
  | ok compiled =>
      obtain ⟨⟨nodes, edges⟩, hwire, hcompiled⟩ := bind_eq_ok.mp hcompile
      cases hcompiled
      cases htitle : spec.title defaultName some with
      | none => simp [hcompile, htitle] at h
      | some name =>
          simp only [hcompile, htitle, Option.isNone_some, Bool.false_eq_true, if_false,
            Except.ok.injEq] at h
          subst h
          exact ⟨hwire, by rw [title_getD htitle]⟩

/-- What the compiler answers is faithful to the definition: the name, one node for each
declared node with its own identifier and position, and one edge for each connection
with the identifiers of the nodes named. -/
theorem faithful_of_answer {defaultName : Option String} {l : Link} {g : Graph}
    (h : (Exchange.compile defaultName spec).answer l = .ok g) :
    g.Faithful defaultName spec := by
  obtain ⟨hwire, htitle⟩ := wire_of_answer h
  exact {
    named := by
      intro name hname hne
      simp only [title, hname, hne, if_false, Option.some.injEq] at htitle
      exact htitle.symm
    unnamed := by
      rintro (hname | hname)
      · simpa only [title, hname] using htitle
      · simpa only [title, hname, if_true] using htitle
    nodes := by
      rw [nodes_of_wire hwire, List.forall₂_map_right_iff, List.forall₂_same]
      intro (n, place) _
      exact n.resolve_standsFor place
    distinct := by
      rw [map_name_of_wire hwire]
      exact nodup_names_of_wire hwire
    edges := edges_of_wire hwire }

/-- Two nodes, the first at a position of its own, and a connection back from the
second: the empty name gives way to the default. -/
theorem faithful_of_two_nodes :
    let spec : WorkflowSpec :=
      ⟨some "", [⟨"A", "t", [("k", .bool true)], .whole 2, some (7, -3), none⟩,
        ⟨"B", "u", [], .whole 1, none, some []⟩], [⟨"B", "A", .null, .int 3⟩]⟩
    ∃ g, (Exchange.compile (some "W") spec).answer ⟨[], [], []⟩ = .ok g ∧
      g.Faithful (some "W") spec :=
  ⟨_, rfl, faithful_of_answer (l := ⟨[], [], []⟩) rfl⟩

end WorkflowSpec

end Flowgate
