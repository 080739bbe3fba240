import Flowgate.Proofs.Reading.Success
import Flowgate.Proofs.Workflow.Compile
import Flowgate.Workflow.Payload

/-! # Rendered workflows are definitions

The engine's form of a compiled workflow lies in the language of definitions. Read and
compiled again it gives the same graph, so rendering is a fixed point of the compiler.
Only empty credentials do not come back, as the engine's form leaves them out.
-/

namespace Flowgate

namespace Graph

/-- An edge as a connection of a definition. -/
def Edge.definition (e : Edge) : Json :=
  .obj [("source", .str e.sourceName), ("target", .str e.targetName),
    ("sourceOutput", .nat e.sourceOutput), ("targetInput", .nat e.targetInput)]

/-- A graph as a definition: its name, its nodes as the engine is sent them, and one
connection for each edge. -/
def definition (g : Graph) : Json :=
  .obj [("name", .str g.name), ("nodes", (g.payload.toJson.field? "nodes").getD .null),
    ("connections", .arr (g.edges.map Edge.definition))]

/-- A node whose credentials are absent if they are empty. -/
def Node.withoutEmptyCredentials (m : Node) : Node :=
  { m with credentials := m.credentials.filter fun fields => !fields.isEmpty }

/-- A graph whose nodes have no empty credentials. -/
def withoutEmptyCredentials (g : Graph) : Graph :=
  { g with nodes := g.nodes.map Node.withoutEmptyCredentials }

/-- The engine's form does not tell empty credentials from absent ones. -/
theorem Node.toJson_withoutEmptyCredentials (m : Node) :
    m.withoutEmptyCredentials.toJson = m.toJson := by
  obtain ⟨id, index, name, type, version, parameters, position, credentials⟩ := m
  match credentials with
  | none => rfl
  | some [] => rfl
  | some (_ :: _) => rfl

theorem payload_withoutEmptyCredentials (g : Graph) :
    g.withoutEmptyCredentials.payload.toJson = g.payload.toJson := by
  have hnodes : (g.nodes.map Node.withoutEmptyCredentials).map Node.toJson =
      g.nodes.map Node.toJson := by
    rw [List.map_map]
    exact List.map_congr_left fun m _ => m.toJson_withoutEmptyCredentials
  simp only [Payload.toJson, payload, withoutEmptyCredentials, hnodes]

/-! ## Reading the engine's form -/

/-- The node that is declared by the engine's form of a node. -/
def Node.declaration (m : Node) : NodeSpec :=
  ⟨m.name, m.type, m.parameters, m.typeVersion, some m.position,
    m.withoutEmptyCredentials.credentials⟩

/-- The connection that is declared for an edge. -/
def Edge.declaration (e : Edge) : ConnectionSpec :=
  ⟨e.sourceName, e.targetName, .nat e.sourceOutput, .nat e.targetInput⟩

/-- What is declared by a graph as a definition. -/
def declaration (g : Graph) : WorkflowSpec :=
  ⟨some g.name, g.nodes.map Node.declaration, g.edges.map Edge.declaration⟩

end Graph

/-- What every node that was read keeps to. -/
structure NodeSpec.Readable (n : NodeSpec) : Prop where
  name : n.name ≠ ""
  type : n.type ≠ ""
  version : n.typeVersion.isPositive

namespace Json

open Reading

theorem toVersion_toJson (version : TypeVersion) : version.toJson.toVersion = .ok version := by
  cases version <;> rfl

theorem readable_of_readNode {v : Json} {n : NodeSpec} (h : v.readNode = .ok n) :
    n.Readable := by
  obtain ⟨fields, -, hname, htype, -, hversion, -, -⟩ := readNode_eq_ok.mp h
  obtain ⟨givenName, -, hname⟩ := required_eq_ok.mp hname
  obtain ⟨givenType, -, htype⟩ := required_eq_ok.mp htype
  refine ⟨(readName_eq_ok.mp hname).2, (readName_eq_ok.mp htype).2, ?_⟩
  rcases optional_eq_ok.mp hversion with ⟨-, hdefault⟩ | ⟨key, given, -, hgiven⟩
  · rw [hdefault]
    decide
  · exact (readVersion_eq_ok.mp hgiven).2

theorem readable_of_readWorkflow {v : Json} {spec : WorkflowSpec}
    (h : v.readWorkflow = .ok spec) : ∀ n ∈ spec.nodes, n.Readable := by
  obtain ⟨fields, -, -, hnodes, -⟩ := readWorkflow_eq_ok.mp h
  intro n hn
  rcases optional_eq_ok.mp hnodes with ⟨-, habsent⟩ | ⟨key, given, -, hgiven⟩
  · simp [habsent] at hn
  · rcases readParts_eq_ok.mp hgiven with ⟨-, hnone⟩ | ⟨items, -, hitems⟩
    · simp [hnone] at hn
    · obtain ⟨item, -, hitem⟩ := exists_left_of_mem_right hitems hn
      exact readable_of_readNode hitem

theorem readNode_toJson {m : Graph.Node} (h : m.declaration.Readable) :
    m.toJson.readNode = .ok m.declaration := by
  have hversion : m.typeVersion.toJson.readVersion = .ok m.typeVersion :=
    readVersion_eq_ok.mpr ⟨toVersion_toJson _, h.version⟩
  have hname : (Json.str m.name).readName = .ok m.name := readName_eq_ok.mpr ⟨rfl, h.name⟩
  have htype : (Json.str m.type).readName = .ok m.type := readName_eq_ok.mpr ⟨rfl, h.type⟩
  refine readNode_eq_ok.mpr ⟨_, rfl, ?_, ?_, ?_, ?_, ?_, ?_⟩
  · exact required_eq_ok.mpr ⟨_, rfl, hname⟩
  · exact required_eq_ok.mpr ⟨_, rfl, htype⟩
  · exact optional_eq_ok.mpr (.inr ⟨"parameters", _, rfl, rfl⟩)
  · exact optional_eq_ok.mpr (.inr ⟨"typeVersion", _, rfl, hversion⟩)
  · exact optional_eq_ok.mpr (.inr ⟨"position", _, rfl, rfl⟩)
  · obtain ⟨id, index, name, type, version, parameters, position, credentials⟩ := m
    match credentials with
    | none => exact optional_eq_ok.mpr (.inl ⟨rfl, rfl⟩)
    | some [] => exact optional_eq_ok.mpr (.inl ⟨rfl, rfl⟩)
    | some (_ :: _) => exact optional_eq_ok.mpr (.inr ⟨"credentials", _, rfl, rfl⟩)

theorem readConnection_definition (e : Graph.Edge) :
    e.definition.readConnection = .ok e.declaration := by
  refine readConnection_eq_ok.mpr ⟨_, rfl, ?_, ?_, ?_, ?_⟩
  · exact required_eq_ok.mpr ⟨_, rfl, rfl⟩
  · exact required_eq_ok.mpr ⟨_, rfl, rfl⟩
  · exact optional_eq_ok.mpr (.inr ⟨"sourceOutput", _, rfl, rfl⟩)
  · exact optional_eq_ok.mpr (.inr ⟨"targetInput", _, rfl, rfl⟩)

/-- A graph of readable nodes is read back from its definition. -/
theorem readWorkflow_definition {g : Graph} (h : ∀ m ∈ g.nodes, m.declaration.Readable) :
    g.definition.readWorkflow = .ok g.declaration := by
  refine readWorkflow_eq_ok.mpr ⟨_, rfl, ?_, ?_, ?_⟩
  · exact optional_eq_ok.mpr (.inr ⟨"name", _, rfl, rfl⟩)
  · refine optional_eq_ok.mpr (.inr ⟨"nodes", .arr (g.nodes.map Graph.Node.toJson), rfl, ?_⟩)
    refine readParts_eq_ok.mpr (.inr ⟨_, rfl, ?_⟩)
    change List.Forall₂ _ _ (g.nodes.map Graph.Node.declaration)
    rw [List.forall₂_map_left_iff, List.forall₂_map_right_iff, List.forall₂_same]
    exact fun m hm => readNode_toJson (h m hm)
  · refine optional_eq_ok.mpr (.inr ⟨"connections", _, rfl, ?_⟩)
    refine readParts_eq_ok.mpr (.inr ⟨_, rfl, ?_⟩)
    change List.Forall₂ _ _ (g.edges.map Graph.Edge.declaration)
    rw [List.forall₂_map_left_iff, List.forall₂_map_right_iff, List.forall₂_same]
    exact fun e _ => readConnection_definition e

end Json

/-! ## Compiling what was rendered -/

namespace Graph

/-- The connection that an edge was bound from. -/
def Edge.link (e : Edge) : NamedLink :=
  ⟨e.index, e.sourceName, e.targetName, e.sourceOutput, e.targetInput⟩

theorem linkAll_declaration {edges : List Edge}
    (hplaces : ∀ (e : Edge) (place : Nat), edges[place]? = some e → e.index = place) :
    ConnectionSpec.linkAll (edges.map Edge.declaration) = .ok (edges.map Edge.link) := by
  unfold ConnectionSpec.linkAll
  rw [mapM_eq_ok, List.zipIdx_map, ← zipIdx_map_item Edge.link, List.forall₂_map_left_iff,
    List.forall₂_map_right_iff, List.forall₂_same]
  rintro ⟨e, place⟩ hmem
  have hindex := hplaces e place (List.mk_mem_zipIdx_iff_getElem?.mp hmem)
  exact ConnectionSpec.link_eq_ok.mpr ⟨hindex, rfl, rfl, .inr rfl, .inr rfl⟩

/-- An edge is bound again as it was bound before. -/
theorem bind_link {ids : NameTable} {links : List NamedLink} {edges : List Edge}
    (h : links.mapM (NamedLink.bind ids) = .ok edges) :
    (edges.map Edge.link).mapM (NamedLink.bind ids) = .ok edges := by
  rw [mapM_eq_ok] at h
  rw [mapM_eq_ok, List.forall₂_map_left_iff, List.forall₂_same]
  intro e he
  obtain ⟨l, -, hl⟩ := exists_left_of_mem_right h he
  obtain ⟨hsource, htarget, -, hsourceName, htargetName, -, -⟩ := NamedLink.bind_eq_ok.mp hl
  rw [← hsourceName] at hsource
  rw [← htargetName] at htarget
  exact NamedLink.bind_eq_ok.mpr ⟨hsource, htarget, rfl, rfl, rfl, rfl, rfl⟩

end Graph

namespace WorkflowSpec

variable {spec : WorkflowSpec} {g : Graph}

theorem title_declaration {defaultName : String}
    (h : spec.title (some defaultName) some = some g.name) :
    g.declaration.title (some defaultName) some = some g.name := by
  by_cases hempty : g.name = ""
  · have hdefault : defaultName = "" := by
      rw [hempty] at h
      cases hname : spec.name with
      | none => simpa only [title, hname, Option.some.injEq] using h
      | some given =>
          simp only [title, hname] at h
          split at h
          · exact Option.some.inj h
          next hgiven => exact absurd (Option.some.inj h) hgiven
    simp only [title, Graph.declaration, hempty, if_true, hdefault]
  · simp only [title, Graph.declaration, hempty, if_false]

/-- Nodes that carry their place and the identifier of their place are resolved to
themselves, up to empty credentials. -/
theorem resolveAll_declaration {ids : NameTable}
    (hids : NodeSpec.identify (g.nodes.map Graph.Node.declaration) = .ok ids)
    (hplaces : ∀ (m : Graph.Node) (place : Nat), g.nodes[place]? = some m →
      m.index = place ∧ m.id = NodeId.of place m.name) :
    NodeSpec.resolveAll (g.nodes.map Graph.Node.declaration) ids =
      g.nodes.map Graph.Node.withoutEmptyCredentials := by
  rw [NodeSpec.resolveAll_of_identify hids, List.zipIdx_map, List.map_map,
    ← zipIdx_map_item Graph.Node.withoutEmptyCredentials]
  apply List.map_congr_left
  rintro ⟨m, place⟩ hmem
  obtain ⟨hindex, hid⟩ := hplaces m place (List.mk_mem_zipIdx_iff_getElem?.mp hmem)
  change m.declaration.resolve place (NodeId.of place m.name) = m.withoutEmptyCredentials
  rw [← hid, ← hindex]
  rfl

/-- The definition that a graph renders to is wired to the graph itself. -/
theorem wire_declaration (h : spec.wire = .ok (g.nodes, g.edges)) :
    g.declaration.wire = .ok (g.nodes.map Graph.Node.withoutEmptyCredentials, g.edges) := by
  obtain ⟨ids, links, hids, -, hedges, -⟩ := wire_eq_ok h
  -- the names are those of the first run, and with them the identifiers
  have hnames : (g.nodes.map Graph.Node.declaration).map (·.name) =
      spec.nodes.map (·.name) := by
    rw [List.map_map]
    exact map_name_of_wire h
  have hids : NodeSpec.identify (g.nodes.map Graph.Node.declaration) = .ok ids := by
    rw [← hids]
    exact NodeSpec.identifyFrom_congr hnames
  have hsome : NodeSpec.requireSome (g.nodes.map Graph.Node.declaration) = .ok () := by
    rw [NodeSpec.requireSome, if_neg]
    intro hempty
    rw [List.isEmpty_iff.mp hempty] at hnames
    exact nodes_ne_nil_of_wire h (List.map_eq_nil_iff.mp hnames.symm)
  have hnodePlaces (m : Graph.Node) (place : Nat) (hm : g.nodes[place]? = some m) :
      m.index = place ∧ m.id = NodeId.of place m.name := by
    rw [nodes_of_wire h, List.getElem?_map, List.getElem?_zipIdx, Option.map_map] at hm
    obtain ⟨n, -, rfl⟩ := Option.map_eq_some_iff.mp hm
    exact ⟨Nat.zero_add place, congrArg (NodeId.of · n.name) (by simp)⟩
  have hedgePlaces (e : Graph.Edge) (place : Nat) (he : g.edges[place]? = some e) :
      e.index = place := by
    obtain ⟨c, -, hstands⟩ := getElem?_of_forall₂_zipIdx (edges_of_wire h) he
    exact hstands.index
  have hlinks := Graph.linkAll_declaration hedgePlaces
  rw [← resolveAll_declaration hids hnodePlaces]
  exact bind_eq_ok.mpr ⟨(), hsome, bind_eq_ok.mpr ⟨ids, hids, bind_eq_ok.mpr
    ⟨_, hlinks, bind_eq_ok.mpr ⟨_, Graph.bind_link hedges, rfl⟩⟩⟩⟩

/-- The definition that a graph renders to compiles to the graph itself. -/
theorem answer_compile_declaration {defaultName : String} {l : Link}
    (h : (Exchange.compile (some defaultName) spec).answer l = .ok g) (l' : Link) :
    (Exchange.compile (some defaultName) g.declaration).answer l' =
      .ok g.withoutEmptyCredentials := by
  obtain ⟨hwire, htitle⟩ := wire_of_answer h
  have htitle := title_getD (title_declaration htitle)
  rw [Exchange.answer_compile_some, compile, wire_declaration hwire]
  change Except.ok _ = _
  rw [Option.getD_some] at htitle
  rw [htitle]
  rfl

theorem readable_declaration_of_wire (hread : ∀ n ∈ spec.nodes, n.Readable)
    (h : spec.wire = .ok (g.nodes, g.edges)) : ∀ m ∈ g.nodes, m.declaration.Readable := by
  intro m hm
  rw [nodes_of_wire h] at hm
  obtain ⟨⟨n, place⟩, hmem, rfl⟩ := List.mem_map.mp hm
  have hn := hread n (List.mem_of_getElem? (List.mk_mem_zipIdx_iff_getElem?.mp hmem))
  exact ⟨hn.name, hn.type, hn.version⟩

/-- A compiled workflow in the engine's form is a definition again: under its own name,
with its nodes as the engine is sent them and one connection for each edge, it compiles,
to the same graph without empty credentials, and renders to the same payload. -/
theorem compile_of_rendered {defaultName : String} {v : Json} {l : Link} {g : Graph}
    (h : (Exchange.compileJson (some defaultName) v).answer l = .ok g) (l' : Link) :
    (Exchange.compileJson (some defaultName) g.definition).answer l' =
        .ok g.withoutEmptyCredentials ∧
      g.withoutEmptyCredentials.payload.toJson = g.payload.toJson := by
  refine ⟨?_, g.payload_withoutEmptyCredentials⟩
  rw [Exchange.answer_compileJson] at h
  cases hspec : ofJson v with
  | error cause => simp [hspec] at h
  | ok spec =>
      simp only [hspec] at h
      have hread := Json.readable_of_readWorkflow (ofJson_eq_ok.mp hspec)
      have hnodes := readable_declaration_of_wire hread (wire_of_answer h).1
      rw [Exchange.answer_compileJson, ofJson_eq_ok.mpr (Json.readWorkflow_definition hnodes)]
      exact answer_compile_declaration h l'

/-- A nameless workflow of two nodes, the first with a real version and empty credentials,
the second with a whole version written as a text, and a connection without ports. -/
theorem compile_of_rendered_two_nodes :
    let v : Json := .obj [("nodes", .arr [
        .obj [("name", "A"), ("type", "t"), ("typeVersion", .float (.ofInt 2)),
          ("credentials", .obj [])],
        .obj [("name", "B"), ("type", "u"), ("typeVersion", "3"),
          ("position", .arr [.bool true, "-4"])]]),
      ("connections", .arr [.obj [("source", "B"), ("target", "A")]])]
    ∃ g, (Exchange.compileJson (some "W") v).answer ⟨[], [], []⟩ = .ok g ∧
      (Exchange.compileJson (some "W") g.definition).answer ⟨[], [], []⟩ =
        .ok g.withoutEmptyCredentials ∧
      g.withoutEmptyCredentials.payload.toJson = g.payload.toJson := by
  intro v
  have hanswer : ∃ g, (Exchange.compileJson (some "W") v).answer ⟨[], [], []⟩ = .ok g :=
    ⟨_, rfl⟩
  obtain ⟨g, hg⟩ := hanswer
  exact ⟨g, hg, compile_of_rendered hg ⟨[], [], []⟩⟩

end WorkflowSpec

end Flowgate
