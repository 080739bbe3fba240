import Flowgate.Proofs.Json.Writable
import Flowgate.Proofs.Reading.Success
import Flowgate.Proofs.Workflow.Compile
import Flowgate.Workflow.Payload

/-! # Keys of what is sent

What is sent for a workflow has every key once: its own keys are distinct, sources are
grouped, and the parameters and credentials are those of the definition.
-/

namespace Flowgate

namespace Json

variable {fields : List (String × Json)} {v : Json}

namespace UniqueKeys

theorem of_lookup {key : String} (h : UniqueKeys (.obj fields))
    (hlookup : fields.lookup key = some v) : UniqueKeys v := by
  cases h with
  | obj _ hfields => exact hfields _ (mem_of_lookup hlookup)

theorem of_fieldUnder {names : List String} {name : String} (h : UniqueKeys (.obj fields))
    (hfield : Reading.fieldUnder names fields = some (name, v)) : UniqueKeys v := by
  obtain ⟨key, -, hkey⟩ := List.exists_of_findSome?_eq_some hfield
  obtain ⟨w, hlookup, heq⟩ := Option.map_eq_some_iff.mp hkey
  cases heq
  exact h.of_lookup hlookup

theorem of_mem {items : List Json} (h : UniqueKeys (.arr items)) (hv : v ∈ items) :
    UniqueKeys v := by
  cases h with
  | arr hitems => exact hitems v hv

theorem record (hkeys : (fields.map Prod.fst).Nodup)
    (hvalues : fields.Forall fun kv => UniqueKeys kv.2) : UniqueKeys (.obj fields) :=
  .obj hkeys (List.forall_iff_forall_mem.mp hvalues)

theorem arr_map {α : Type} {f : α → Json} {xs : List α} (h : ∀ x ∈ xs, UniqueKeys (f x)) :
    UniqueKeys (.arr (xs.map f)) := by
  refine .arr fun v hv => ?_
  obtain ⟨x, hx, rfl⟩ := List.mem_map.mp hv
  exact h x hx

end UniqueKeys

theorem readMap_eq_ok {map : List (String × Json)} : v.readMap = .ok map ↔ v = .obj map := by
  cases v <;> simp [readMap, Reading.refuse]

theorem orNull_readMap_eq_ok {map : List (String × Json)} :
    Reading.orNull readMap v = .ok (some map) ↔ v = .obj map := by
  cases v <;> simp [Reading.orNull, readMap, Reading.refuse, Except.map]

end Json

/-- The values of a node that are kept as they were given have every key once. -/
structure NodeSpec.UniqueKeys (n : NodeSpec) : Prop where
  parameters : (Json.obj n.parameters).UniqueKeys
  credentials : ∀ fields, n.credentials = some fields → (Json.obj fields).UniqueKeys

namespace Json

open Reading

theorem uniqueKeys_of_readNode {v : Json} {n : NodeSpec} (hv : v.UniqueKeys)
    (h : v.readNode = .ok n) : n.UniqueKeys := by
  obtain ⟨fields, rfl, -, -, hparameters, -, -, hcredentials⟩ := readNode_eq_ok.mp h
  constructor
  · rcases optional_eq_ok.mp hparameters with ⟨-, hnone⟩ | ⟨name, w, hfield, hmap⟩
    · rw [hnone]
      exact .obj (by simp) (by simp)
    · rw [← readMap_eq_ok.mp hmap]
      exact hv.of_fieldUnder hfield
  · intro given hgiven
    rcases optional_eq_ok.mp hcredentials with ⟨-, hnone⟩ | ⟨name, w, hfield, hmap⟩
    · cases hgiven.symm.trans hnone
    · rw [hgiven, orNull_readMap_eq_ok] at hmap
      rw [← hmap]
      exact hv.of_fieldUnder hfield

theorem uniqueKeys_of_readWorkflow {v : Json} {spec : WorkflowSpec} (hv : v.UniqueKeys)
    (h : v.readWorkflow = .ok spec) {n : NodeSpec} (hn : n ∈ spec.nodes) : n.UniqueKeys := by
  obtain ⟨fields, rfl, -, hnodes, -⟩ := readWorkflow_eq_ok.mp h
  rcases optional_eq_ok.mp hnodes with ⟨-, hnone⟩ | ⟨name, w, hfield, hparts⟩
  · rw [hnone] at hn
    cases hn
  · rcases readParts_eq_ok.mp hparts with ⟨-, hnone⟩ | ⟨items, rfl, hitems⟩
    · rw [hnone] at hn
      cases hn
    · obtain ⟨item, hitem, hread⟩ := exists_left_of_mem_right hitems hn
      exact uniqueKeys_of_readNode ((hv.of_fieldUnder hfield).of_mem hitem) hread

end Json

/-! ## The engine's form -/

namespace Wiring

theorem map_fst_add (source : String) (output : Nat) (target : Target) (w : Wiring) :
    (w.add source output target).map Prod.fst =
      if source ∈ w.map Prod.fst then w.map Prod.fst else w.map Prod.fst ++ [source] := by
  induction w with
  | nil => rfl
  | cons entry rest ih =>
      obtain ⟨s, outputs⟩ := entry
      rw [add]
      by_cases hs : s = source
      · simp [hs]
      · rw [if_neg hs, List.map_cons, ih]
        by_cases hmem : source ∈ rest.map Prod.fst <;> simp_all [Ne.symm hs]

/-- Every source is grouped once. -/
theorem nodup_ofEdges (edges : List Graph.Edge) : ((ofEdges edges).map Prod.fst).Nodup := by
  -- by induction on the edges, for whatever was grouped before
  suffices h : ∀ w : Wiring, (w.map Prod.fst).Nodup → ((edges.foldl (fun w e =>
      w.add e.sourceName e.sourceOutput ⟨e.targetName, e.targetInput⟩) w).map Prod.fst).Nodup from
    h [] List.nodup_nil
  induction edges with
  | nil => exact fun _ h => h
  | cons e rest ih =>
      intro w hw
      refine ih _ ?_
      rw [map_fst_add]
      split
      next => exact hw
      next hnew =>
        rw [← List.concat_eq_append]
        exact hw.concat hnew

end Wiring

namespace Graph

theorem uniqueKeys_node {m : Node} (hparameters : (Json.obj m.parameters).UniqueKeys)
    (hcredentials : ∀ fields, m.credentials = some fields → (Json.obj fields).UniqueKeys) :
    m.toJson.UniqueKeys := by
  have hversion : m.typeVersion.toJson.UniqueKeys := by
    cases m.typeVersion with
    | whole i => exact .int i
    | real x => exact .float x
  have hposition : (Json.arr [.int m.position.1, .int m.position.2]).UniqueKeys := by
    refine .arr fun v hv => ?_
    rcases List.mem_pair.mp hv with rfl | rfl <;> exact .int _
  unfold Node.toJson
  dsimp only
  split
  next c rest hgiven =>
    exact .record (by simp)
      ⟨.str _, .str _, .str _, hversion, hposition, hparameters, hcredentials _ hgiven⟩
  next =>
    exact .record (by simp) ⟨.str _, .str _, .str _, hversion, hposition, hparameters⟩

theorem uniqueKeys_wiring (edges : List Edge) : (Wiring.ofEdges edges).toJson.UniqueKeys := by
  have htarget (t : Target) : t.toJson.UniqueKeys := by
    exact .record (by simp) ⟨.str _, .str _, .int _⟩
  refine .obj ?_ ?_
  · rw [List.map_map]
    exact Wiring.nodup_ofEdges edges
  · intro kv hkv
    obtain ⟨⟨source, outputs⟩, -, rfl⟩ := List.mem_map.mp hkv
    exact .record (by simp) (.arr_map fun targets _ => .arr_map fun t _ => htarget t)

/-- What is sent for a definition has every key once, as the definition has. -/
theorem uniqueKeys_payload {arguments : Json} {spec : WorkflowSpec} {defaultName : String}
    {g : Graph} (hkeys : arguments.UniqueKeys) (hread : WorkflowSpec.ofJson arguments = .ok spec)
    (hcompile : spec.compile defaultName = .ok g) : g.payload.toJson.UniqueKeys := by
  obtain ⟨⟨nodes, edges⟩, hwire, hgraph⟩ := bind_eq_ok.mp hcompile
  cases hgraph
  have hnodes : (Json.arr (nodes.map Node.toJson)).UniqueKeys := by
    refine .arr_map fun m hm => ?_
    rw [WorkflowSpec.nodes_of_wire hwire] at hm
    obtain ⟨⟨n, index⟩, hn, rfl⟩ := List.mem_map.mp hm
    have hplace := List.mk_mem_zipIdx_iff_getElem?.mp hn
    have hspec : n.UniqueKeys := Json.uniqueKeys_of_readWorkflow hkeys
      (WorkflowSpec.ofJson_eq_ok.mp hread) (List.mem_of_getElem? hplace)
    exact uniqueKeys_node hspec.parameters hspec.credentials
  have hsettings : (Json.obj workflowSettings).UniqueKeys :=
    .record (by simp [workflowSettings]) ⟨.str _, .bool _, .str _⟩
  exact .record (by simp) ⟨.str _, hnodes, uniqueKeys_wiring edges, hsettings⟩

end Graph

/-! ## Numbers of what is sent -/

/-- Under another name nothing but the name may stand in the way of what is sent. -/
theorem Payload.bodyFlaw?_with {p : Payload} (h : p.toJson.isWritable = true) (name : Json) :
    (Payload.toJson { p with name }).bodyFlaw? = name.bodyFlaw? := by
  have hrest := (Option.or_eq_none_iff.mp (Option.isNone_iff_eq_none.mp h)).2
  exact (congrArg name.bodyFlaw?.or hrest).trans Option.or_none

end Flowgate
