import Flowgate.Proofs.Digest.Uuid
import Flowgate.Proofs.Workflow.Compile

/-! # Identifiers identify

The text behind an identifier tells the position and the name, whatever digits and
colons the name itself holds: the digits in front of the first colon are the position.
Where the digest keeps the texts of one definition apart, identifiers name its nodes.
-/

namespace Flowgate

namespace NodeId

theorem toList_source (index : Nat) (name : String) :
    (source index name).toList = Nat.toDigits 10 index ++ ':' :: name.toList := by
  have htext : source index name = toString index ++ ":" ++ name := rfl
  rw [htext, String.toList_append, String.toList_append, Nat.toString_eq_repr, Nat.toList_repr,
    List.append_assoc]
  rfl

/-- The longest run of digits at the front is the position, as a colon is no digit. -/
theorem takeWhile_source (index : Nat) (name : String) :
    (source index name).toList.takeWhile Char.isDigit = Nat.toDigits 10 index := by
  rw [toList_source, List.takeWhile_append_of_pos]
  · have hcolon : Char.isDigit ':' = false := by decide
    rw [List.takeWhile_cons, hcolon]
    simp
  · intro c hc
    exact Nat.isDigit_of_mem_toDigits (by decide) (by decide) hc

theorem source_inj {i j : Nat} {n m : String} (h : source i n = source j m) : i = j ∧ n = m := by
  have hdigits : Nat.toDigits 10 i = Nat.toDigits 10 j := by
    rw [← takeWhile_source i n, h, takeWhile_source]
  have hindex : i = j := by
    rw [← Nat.ofDigitChars_ten_toDigits (n := i), hdigits, Nat.ofDigitChars_ten_toDigits]
  subst hindex
  have hlist := congrArg String.toList h
  rw [toList_source, toList_source, List.append_cancel_left_eq, List.cons.injEq] at hlist
  exact ⟨rfl, String.toList_injective hlist.2⟩

end NodeId

namespace WorkflowSpec

/-- The texts behind the identifiers of a definition. -/
def idSources (spec : WorkflowSpec) : List String :=
  spec.nodes.zipIdx.map fun (n, index) => NodeId.source index n.name

/-- Names may repeat, and still no two nodes have one text. -/
theorem nodup_idSources (spec : WorkflowSpec) : spec.idSources.Nodup := by
  refine List.pairwise_map.mpr ((pairwise_place_ne spec.nodes).imp ?_)
  intro (n, i) (m, j) hne heq
  exact hne (NodeId.source_inj heq).1

end WorkflowSpec

namespace Graph

theorem node?_of_mem {g : Graph} (hids : (g.nodes.map (·.id)).Nodup) {m : Node}
    (hm : m ∈ g.nodes) : g.node? m.id = some m := by
  unfold node?
  cases hfind : g.nodes.find? (·.id == m.id) with
  | none =>
      have hnone := List.find?_eq_none.mp hfind m hm
      simp at hnone
  | some found =>
      have hid : found.id = m.id := by simpa using List.find?_some hfind
      have hmem := List.mem_of_find?_eq_some hfind
      rw [List.inj_on_of_nodup_map hids hmem hm hid]

theorem node?_eq_none {g : Graph} {id : String} (hid : id ∉ g.nodes.map (·.id)) :
    g.node? id = none := by
  refine List.find?_eq_none.mpr ?_
  intro m hm heq
  exact hid (List.mem_map.mpr ⟨m, hm, by simpa using heq⟩)

/-- The bearer of a name is found by its identifier, and no other node has the name. -/
theorem node?_of_bearer {g : Graph} (hids : (g.nodes.map (·.id)).Nodup)
    (hnames : (g.nodes.map (·.name)).Nodup) {name id : String}
    (hbearer : ∃ m ∈ g.nodes, m.name = name ∧ m.id = id) :
    ∃ m, g.node? id = some m ∧ ∀ other, other ∈ g.nodes ∧ other.name = name ↔ other = m := by
  obtain ⟨m, hm, rfl, rfl⟩ := hbearer
  refine ⟨m, node?_of_mem hids hm, ?_⟩
  intro other
  constructor
  · rintro ⟨hother, hname⟩
    exact List.inj_on_of_nodup_map hnames hother hm hname
  · rintro rfl
    exact ⟨hm, rfl⟩

/-- Where names and identifiers are both distinct, the ends of an edge are one node just
if they have one name. -/
theorem isSelfLoop_iff {g : Graph} (hids : (g.nodes.map (·.id)).Nodup)
    (hnames : (g.nodes.map (·.name)).Nodup) {e : Edge}
    (hsource : ∃ m ∈ g.nodes, m.name = e.sourceName ∧ m.id = e.sourceId)
    (htarget : ∃ m ∈ g.nodes, m.name = e.targetName ∧ m.id = e.targetId) :
    e.isSelfLoop ↔ e.sourceName = e.targetName := by
  obtain ⟨m, hm, hmname, hmid⟩ := hsource
  obtain ⟨k, hk, hkname, hkid⟩ := htarget
  rw [Edge.isSelfLoop, beq_iff_eq, ← hmname, ← hkname, ← hmid, ← hkid]
  constructor
  · intro hid
    rw [List.inj_on_of_nodup_map hids hm hk hid]
  · intro hname
    rw [List.inj_on_of_nodup_map hnames hm hk hname]

/-- Identifiers identify the nodes of a graph, and lead from an edge to the nodes that it
names. -/
structure Identified (g : Graph) : Prop where
  distinct : (g.nodes.map (·.id)).Nodup
  found : ∀ m ∈ g.nodes, g.node? m.id = some m
  missing : ∀ id, id ∉ g.nodes.map (·.id) → g.node? id = none
  source : ∀ e ∈ g.edges, ∃ m, g.node? e.sourceId = some m ∧
    ∀ other, other ∈ g.nodes ∧ other.name = e.sourceName ↔ other = m
  target : ∀ e ∈ g.edges, ∃ m, g.node? e.targetId = some m ∧
    ∀ other, other ∈ g.nodes ∧ other.name = e.targetName ↔ other = m
  selfLoop : ∀ e ∈ g.edges, e.isSelfLoop ↔ e.sourceName = e.targetName

end Graph

namespace WorkflowSpec

variable {spec : WorkflowSpec} {nodes : List Graph.Node} {edges : List Graph.Edge}

theorem map_id_of_wire (h : spec.wire = .ok (nodes, edges)) :
    nodes.map (·.id) = spec.idSources.map fun text => (Uuid.ofName NodeId.space text).toText := by
  rw [nodes_of_wire h, List.map_map, idSources, List.map_map]
  rfl

/-- Distinct texts have distinct identifiers unless the digest collides on them. -/
theorem nodup_ids_of_wire (h : spec.wire = .ok (nodes, edges))
    (hfree : ∀ s ∈ spec.idSources, ∀ t ∈ spec.idSources,
      Uuid.ofName NodeId.space s = Uuid.ofName NodeId.space t → s = t) :
    (nodes.map (·.id)).Nodup := by
  rw [map_id_of_wire h]
  refine List.Nodup.map_on ?_ spec.nodup_idSources
  intro s hs t ht heq
  exact hfree s hs t ht (Uuid.toText_injective heq)

/-- The text behind an identifier tells position and name. So if the digest does not
collide on the texts of a definition that compiles, identifiers identify its nodes. -/
theorem ids_identify_nodes :
    (∀ (i j : Nat) (n m : String), (i, n) ≠ (j, m) → NodeId.source i n ≠ NodeId.source j m) ∧
      ∀ (defaultName : Option String) (spec : WorkflowSpec) (l : Link) (g : Graph),
        (Exchange.compile defaultName spec).answer l = .ok g →
        (∀ s ∈ spec.idSources, ∀ t ∈ spec.idSources,
          Uuid.ofName NodeId.space s = Uuid.ofName NodeId.space t → s = t) →
        g.Identified := by
  constructor
  · intro i j n m hne heq
    obtain ⟨rfl, rfl⟩ := NodeId.source_inj heq
    exact hne rfl
  · intro defaultName spec l g h hfree
    have hwire := (wire_of_answer h).1
    have hids := nodup_ids_of_wire hwire hfree
    have hnames : (g.nodes.map (·.name)).Nodup := by
      rw [map_name_of_wire hwire]
      exact nodup_names_of_wire hwire
    -- both ends of an edge are borne by nodes, each with the identifier of its end
    have hends (e : Graph.Edge) (he : e ∈ g.edges) :
        (∃ m ∈ g.nodes, m.name = e.sourceName ∧ m.id = e.sourceId) ∧
          ∃ m ∈ g.nodes, m.name = e.targetName ∧ m.id = e.targetId := by
      obtain ⟨⟨c, place⟩, -, hstands⟩ := exists_left_of_mem_right (edges_of_wire hwire) he
      rw [hstands.sourceName, hstands.targetName]
      exact ⟨hstands.source, hstands.target⟩
    exact {
      distinct := hids
      found := fun m hm => Graph.node?_of_mem hids hm
      missing := fun id hid => Graph.node?_eq_none hid
      source := fun e he => Graph.node?_of_bearer hids hnames (hends e he).1
      target := fun e he => Graph.node?_of_bearer hids hnames (hends e he).2
      selfLoop := fun e he => Graph.isSelfLoop_iff hids hnames (hends e he).1 (hends e he).2 }

/-- The names `1:a` and `a` at the first two places, where the digests differ. -/
theorem ids_identify_colon_names :
    let spec : WorkflowSpec :=
      ⟨none, [⟨"1:a", "t", [], .whole 1, none, none⟩, ⟨"a", "t", [], .whole 1, none, none⟩],
        [⟨"1:a", "a", .null, .null⟩, ⟨"a", "a", .null, .null⟩]⟩
    NodeId.source 0 "1:a" ≠ NodeId.source 1 "a" ∧
      ∃ g, (Exchange.compile (some "W") spec).answer ⟨[], [], []⟩ = .ok g ∧
        (∀ s ∈ spec.idSources, ∀ t ∈ spec.idSources,
          Uuid.ofName NodeId.space s = Uuid.ofName NodeId.space t → s = t) ∧
        g.Identified := by
  intro spec
  have hfree : ∀ s ∈ spec.idSources, ∀ t ∈ spec.idSources,
      Uuid.ofName NodeId.space s = Uuid.ofName NodeId.space t → s = t := by
    decide +kernel
  exact ⟨ids_identify_nodes.1 0 1 "1:a" "a" (by decide), _, rfl, hfree,
    ids_identify_nodes.2 (some "W") spec ⟨[], [], []⟩ _ rfl hfree⟩

end WorkflowSpec

end Flowgate
