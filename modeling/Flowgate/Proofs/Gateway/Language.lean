import Flowgate.Gateway
import Flowgate.Proofs.Tool.Schema
import Flowgate.Proofs.Tool.Validation
import Flowgate.Proofs.Workflow.Compile
import Flowgate.Proofs.Workflow.Refusal

/-! # Definitions that the gateway passes on

The compiler takes more than the schema of its tool: null for what is unset, and texts and
flags for numbers. The schema is checked first, so of the definitions that compile those are
passed on that are written plainly.
-/

namespace Flowgate

namespace Json

/-! ## Plain definitions -/

/-- A number that is written as one. -/
def IsPlainNumber (v : Json) : Prop := Schema.Kind.number.admits v = true

/-- A node with numbers for its version and its position, and without null for either or for
its credentials. -/
structure IsPlainNode (fields : Fields) : Prop where
  version : ∀ v ∈ fields.lookup "typeVersion", v.IsPlainNumber
  position : ∀ v ∈ fields.lookup "position", v.ListOf IsPlainNumber
  credentials : ∀ v ∈ fields.lookup "credentials", v ≠ .null

/-- A connection without null for a port. -/
structure IsPlainConnection (fields : Fields) : Prop where
  output : ∀ v ∈ fields.lookup "sourceOutput", v ≠ .null
  input : ∀ v ∈ fields.lookup "targetInput", v ≠ .null

/-- A definition of plain nodes and plain connections, without null for its name or for its
connections. -/
structure IsPlain (fields : Fields) : Prop where
  name : ∀ v ∈ fields.lookup "name", v ≠ .null
  nodes : ∀ v ∈ fields.lookup "nodes", v.ListOf (ObjectOf IsPlainNode)
  connections : ∀ v ∈ fields.lookup "connections", v.ListOf (ObjectOf IsPlainConnection)

end Json

namespace Tool

open Json Schema

variable {fields : Fields} {v : Json}

/-! ## Schemas of single fields -/

theorem text_eq_none : Schema.text.violation v = none ↔ v.IsText := by
  rw [Schema.text, simple_eq_none, text_iff_str]
  rfl

theorem number_eq_none : Schema.number.violation v = none ↔ v.IsPlainNumber :=
  simple_eq_none

theorem anyObject_eq_none : Schema.anyObject.violation v = none ↔ v.IsObject := by
  rw [Schema.anyObject, simple_eq_none]
  cases v <;> simp [Kind.admits, IsObject, ObjectOf]

theorem numbers_eq_none : (Schema.list .number).violation v = none ↔ v.ListOf IsPlainNumber := by
  rw [list_eq_none]
  simp only [number_eq_none]
  rfl

theorem isObject_ne_null (h : v.IsObject) : v ≠ .null := by
  rintro rfl
  obtain ⟨_, heq, -⟩ := h
  cases heq

/-- Null apart, what may be null is as it should be. -/
theorem of_nullOr {p : Json → Prop} (h : v.NullOr p) (hne : v ≠ .null) : p v :=
  h.resolve_left hne

/-- A field that must be there and be a text. -/
theorem isText_of_needed {p : Json → Prop} {key : String} (hp : ∀ v, p v → v.IsText)
    (h : ∃ v ∈ fields.lookup key, p v) :
    (∀ v, fields.lookup key = some v → v.IsText) ∧ ∃ v, fields.lookup key = some v := by
  obtain ⟨v, hv, hpv⟩ := h
  refine ⟨fun w hw => ?_, v, hv⟩
  cases hv.symm.trans hw
  exact hp v hpv

theorem isText_of_nonEmpty (v : Json) (h : v.IsNonEmptyText) : v.IsText := by
  obtain ⟨s, hs, -⟩ := h
  exact ⟨s, hs⟩

/-- A value that stands for a port is a number unless it is null. -/
theorem isPlainNumber_iff_of_admits (h : Port.Admits v) : v.IsPlainNumber ↔ v ≠ .null := by
  cases v with
  | null => exact iff_of_false nofun fun hne => hne rfl
  | int i => exact iff_of_true rfl nofun
  | _ => exact h.elim

/-! ## Schemas of parts -/

theorem nodeSchema_eq_none {keys : List String} (h : IsNode keys fields) :
    nodeSchema.violation (.obj fields) = none ↔ IsPlainNode fields := by
  rw [nodeSchema, object_eq_none]
  simp only [bare, List.forall_mem_cons, text_eq_none, number_eq_none, numbers_eq_none,
    anyObject_eq_none]
  constructor
  · intro ⟨given, heq, hfields, _⟩
    cases heq
    obtain ⟨-, -, -, hversion, hposition, hcredentials, -⟩ := hfields
    exact ⟨hversion, hposition, fun v hv => isObject_ne_null (hcredentials v hv)⟩
  · intro hplain
    obtain ⟨htype, hasType⟩ := isText_of_needed isText_of_nonEmpty h.type
    obtain ⟨hname, hasName⟩ := isText_of_needed isText_of_nonEmpty h.name
    refine ⟨fields, rfl, ⟨htype, hname, h.parameters, hplain.version, hplain.position, ?_, nofun⟩,
      hasType, hasName, nofun⟩
    intro v hv
    exact of_nullOr (h.credentials v hv) (hplain.credentials v hv)

/-- A connection whose ports stand for ports of nodes. -/
structure IsLinked (fields : Fields) : Prop extends IsConnection fields where
  output : ∀ v ∈ fields.lookup "sourceOutput", Port.Admits v
  input : ∀ v ∈ fields.lookup "targetInput", Port.Admits v

theorem connectionSchema_eq_none (h : IsLinked fields) :
    connectionSchema.violation (.obj fields) = none ↔ IsPlainConnection fields := by
  rw [connectionSchema, object_eq_none]
  simp only [bare, defaulted, List.forall_mem_cons, text_eq_none, number_eq_none]
  constructor
  · intro ⟨given, heq, hfields, _⟩
    cases heq
    obtain ⟨-, -, houtput, hinput, -⟩ := hfields
    refine ⟨fun v hv => ?_, fun v hv => ?_⟩
    · exact (isPlainNumber_iff_of_admits (h.output v hv)).mp (houtput v hv)
    · exact (isPlainNumber_iff_of_admits (h.input v hv)).mp (hinput v hv)
  · intro hplain
    obtain ⟨hsource, hasSource⟩ := isText_of_needed (fun _ => id) h.source
    obtain ⟨htarget, hasTarget⟩ := isText_of_needed (fun _ => id) h.target
    refine ⟨fields, rfl, ⟨hsource, htarget, fun v hv => ?_, fun v hv => ?_, nofun⟩,
      hasSource, hasTarget, nofun⟩
    · exact (isPlainNumber_iff_of_admits (h.output v hv)).mpr (hplain.output v hv)
    · exact (isPlainNumber_iff_of_admits (h.input v hv)).mpr (hplain.input v hv)

/-- Where null is taken for an empty list, the schema of a list takes plain items only. -/
theorem parts_eq_none {schema : Schema} {p q : Fields → Prop}
    (h : v.NullOr (ListOf (ObjectOf p)))
    (hpart : ∀ fields, p fields → (schema.violation (.obj fields) = none ↔ q fields)) :
    (Schema.list schema).violation v = none ↔ v.ListOf (ObjectOf q) := by
  rw [list_eq_none]
  refine exists_congr fun items => and_congr_right fun hitems => ?_
  subst hitems
  rcases h with hnull | ⟨_, heq, hparts⟩
  · cases hnull
  · cases heq
    -- item by item: each is an object that was read, so the schema of its fields decides
    refine forall₂_congr fun item hitem => ?_
    obtain ⟨fields, rfl, hp⟩ := hparts item hitem
    rw [hpart fields hp]
    constructor
    · exact fun hq => ⟨fields, rfl, hq⟩
    · intro ⟨_, heq, hq⟩
      cases heq
      exact hq

/-! ## Definitions that compile -/

variable {spec : WorkflowSpec} {nodes : List Graph.Node} {edges : List Graph.Edge}

theorem admits_of_wire (h : spec.wire = .ok (nodes, edges)) :
    ∀ c ∈ spec.connections, Port.Admits c.sourceOutput ∧ Port.Admits c.targetInput := by
  have hadmits {v : Json} {port : Nat} (hport : v = .null ∧ port = 0 ∨ v = .int port) :
      Port.Admits v := by
    rcases hport with ⟨rfl, -⟩ | rfl
    · trivial
    · exact Int.natCast_nonneg port
  intro c hc
  obtain ⟨place, hplace⟩ := List.mem_iff_getElem?.mp hc
  obtain ⟨e, -, hstands⟩ := exists_left_of_mem_right (WorkflowSpec.edges_of_wire h).flip
    (List.mk_mem_zipIdx_iff_getElem?.mpr hplace)
  exact ⟨hadmits hstands.output, hadmits hstands.input⟩

theorem isLinked_of_readConnection {item : Json} {c : ConnectionSpec}
    (hread : item.readConnection = .ok c) (houtput : Port.Admits c.sourceOutput)
    (hinput : Port.Admits c.targetInput) : item.ObjectOf IsLinked := by
  obtain ⟨fields, rfl, -, -, hout, hin⟩ := readConnection_eq_ok.mp hread
  obtain ⟨_, heq, hconnection⟩ :=
    Demand.met_connection.mp ((follows_readConnection _).exists_ok_iff.mp ⟨c, hread⟩)
  cases heq
  refine ⟨fields, rfl, hconnection, ?_, ?_⟩
  · intro v hv
    rw [Reading.optional_of_lookup hv, Reading.within_eq_ok] at hout
    cases hout
    exact houtput
  · intro v hv
    rw [Reading.optional_of_lookup hv, Reading.within_eq_ok] at hin
    cases hin
    exact hinput

theorem isLinked_of_readWorkflow (hread : (Json.obj fields).readWorkflow = .ok spec)
    (hwire : spec.wire = .ok (nodes, edges)) :
    ∀ v ∈ fields.lookup "connections", v.NullOr (ListOf (ObjectOf IsLinked)) := by
  obtain ⟨_, heq, -, -, hconnections⟩ := readWorkflow_eq_ok.mp hread
  cases heq
  intro v hv
  rw [Reading.optional_of_lookup hv, Reading.within_eq_ok, readParts_eq_ok] at hconnections
  rcases hconnections with ⟨hnull, -⟩ | ⟨items, rfl, hitems⟩
  · exact .inl hnull
  · refine .inr ⟨items, rfl, fun item hitem => ?_⟩
    obtain ⟨c, hc, hconnection⟩ := exists_left_of_mem_right hitems.flip hitem
    obtain ⟨houtput, hinput⟩ := admits_of_wire hwire c hc
    exact isLinked_of_readConnection hconnection houtput hinput

/-- A definition that compiles has nodes. -/
theorem exists_nodes_of_readWorkflow (hread : (Json.obj fields).readWorkflow = .ok spec)
    (hwire : spec.wire = .ok (nodes, edges)) : ∃ v, fields.lookup "nodes" = some v := by
  obtain ⟨_, heq, -, hnodes, -⟩ := readWorkflow_eq_ok.mp hread
  cases heq
  cases hlookup : fields.lookup "nodes" with
  | some v => exact ⟨v, rfl⟩
  | none =>
      -- unset, the nodes are read as none, and a definition without nodes does not compile
      have hnone : Reading.fieldUnder ["nodes"] fields = none := by
        rw [Reading.fieldUnder, List.findSome?_cons, hlookup]
        rfl
      rw [Reading.optional, hnone] at hnodes
      exact absurd (Except.ok.inj hnodes).symm (WorkflowSpec.nodes_ne_nil_of_wire hwire)

/-- Of the definitions that compile, the schema takes those that are plain. -/
theorem definition_eq_none (hread : (Json.obj fields).readWorkflow = .ok spec)
    (hwire : spec.wire = .ok (nodes, edges)) :
    validateWorkflow.schema.violation (.obj fields) = none ↔ IsPlain fields := by
  obtain ⟨_, heq, hdefinition⟩ :=
    Demand.met_definition.mp ((follows_readWorkflow _).exists_ok_iff.mp ⟨spec, hread⟩)
  cases heq
  have hlinks := isLinked_of_readWorkflow hread hwire
  rw [schema, object_eq_none]
  simp only [definitionFields, bare, List.forall_mem_cons, text_eq_none]
  constructor
  · intro ⟨given, heq, hfields, _⟩
    cases heq
    obtain ⟨hname, hnodes, hconnections, -⟩ := hfields
    refine ⟨fun v hv => ?_, fun v hv => ?_, fun v hv => ?_⟩
    · obtain ⟨s, rfl⟩ := hname v hv
      nofun
    · exact (parts_eq_none (hdefinition.nodes v hv) fun _ => nodeSchema_eq_none).mp (hnodes v hv)
    · exact (parts_eq_none (hlinks v hv) fun _ => connectionSchema_eq_none).mp (hconnections v hv)
  · intro hplain
    refine ⟨fields, rfl, ⟨fun v hv => ?_, fun v hv => ?_, fun v hv => ?_, nofun⟩,
      exists_nodes_of_readWorkflow hread hwire, nofun⟩
    · exact of_nullOr (hdefinition.name v hv) (hplain.name v hv)
    · exact (parts_eq_none (hdefinition.nodes v hv) fun _ => nodeSchema_eq_none).mpr
        (hplain.nodes v hv)
    · exact (parts_eq_none (hlinks v hv) fun _ => connectionSchema_eq_none).mpr
        (hplain.connections v hv)

/-- A definition that compiles was read and wired. -/
theorem wire_of_compileArguments {arguments : Json} {l : Link} {g : Graph}
    (h : (compileArguments arguments).answer l = .ok g) :
    ∃ spec, arguments.readWorkflow = .ok spec ∧ spec.wire = .ok (g.nodes, g.edges) := by
  obtain ⟨spec, hspec, hcompile⟩ := Exchange.spec_of_compileJson h
  exact ⟨spec, WorkflowSpec.ofJson_eq_ok.mp hspec, (WorkflowSpec.wire_of_answer hcompile).1⟩

end Tool

namespace Gateway

open Exchange

variable {c : Client} {fields : Fields} {g : Graph} {l : Link}

theorem violation?_name (tool : Tool) (arguments : Json) :
    violation? tool.name arguments = tool.schema.violation arguments := by
  rw [violation?, Tool.ofName?_name]
  rfl

theorem callTool_of_violation {name : String} {arguments : Json} {violation : Schema.Violation}
    (h : violation? name (Tool.given arguments) = some violation) :
    callTool c name arguments =
      pure (callAnswer s!"Input validation error: {violation.message}" true) := by
  unfold Tool.given at h
  unfold callTool
  dsimp only
  rw [h]

/-- What the schema does not refuse is answered with the text of the tool's result. -/
theorem callTool_of_ok {name : String} {arguments result : Json}
    (hschema : violation? name (Tool.given arguments) = none)
    (hcall : (Tool.call c name (Tool.given arguments)).answer l = .ok result) :
    (callTool c name arguments).answer l = .ok (callAnswer result.pretty false) := by
  have htext : (do return callAnswer (← Tool.call c name (Tool.given arguments)).pretty false :
      Exchange Json).answer l = .ok (callAnswer result.pretty false) := by
    rw [(bind_pure_eq _).1, hcall]
    rfl
  unfold Tool.given at hschema
  unfold callTool
  dsimp only
  rw [hschema]
  exact (tryCatch_of_ok _ htext).1

/-- Of the definitions that compile, the gateway passes on those that are plain, and answers
with the text of the verdict. Any other is refused by its schema, though the tool itself
finds it valid. -/
theorem validate_passes_plain (c : Client)
    (h : (Tool.compileArguments (.obj fields)).answer l = .ok g) :
    (Tool.call c "validate_workflow" (.obj fields)).answer l = .ok (Tool.validVerdict g) ∧
      (Json.IsPlain fields → (callTool c "validate_workflow" (.obj fields)).answer l =
        .ok (callAnswer (Tool.validVerdict g).pretty false)) ∧
      (¬ Json.IsPlain fields → ∃ violation : Schema.Violation,
        (callTool c "validate_workflow" (.obj fields)).answer l =
            .ok (callAnswer s!"Input validation error: {violation.message}" true) ∧
          (callTool c "validate_workflow" (.obj fields)).after l = l) := by
  obtain ⟨spec, hread, hwire⟩ := Tool.wire_of_compileArguments h
  have hplain := Tool.definition_eq_none hread hwire
  rw [← violation?_name, ← Tool.given_obj fields] at hplain
  have hcall : (Tool.call c "validate_workflow" (.obj fields)).answer l =
      .ok (Tool.validVerdict g) := by
    rcases Tool.verdict_cases (.obj fields) with ⟨other, hcompiled, hverdict⟩ |
      ⟨cause, later, hcompiled, -⟩
    · cases h.symm.trans (hcompiled l)
      apply Tool.call_validate_eq
      rwa [Tool.given_obj]
    · cases h.symm.trans (hcompiled l)
  refine ⟨hcall, fun hfields => ?_, fun hfields => ?_⟩
  · apply callTool_of_ok (hplain.mpr hfields)
    rwa [Tool.given_obj]
  · obtain ⟨violation, hviolation⟩ := Option.ne_none_iff_exists'.mp (mt hplain.mp hfields)
    have hrefused : callTool c "validate_workflow" (.obj fields) = _ :=
      callTool_of_violation hviolation
    rw [hrefused]
    exact ⟨violation, rfl, rfl⟩

/-- A node by itself is passed on. -/
theorem validate_passes_single_node :
    let fields : Fields := [("nodes", .arr [.obj [("name", "a"), ("type", "t")]])]
    let c : Client := ⟨"http://n8n.test/api/v1", "key", .int 30⟩
    ∃ g, (Tool.compileArguments (.obj fields)).answer ⟨[], [], []⟩ = .ok g ∧
      (callTool c "validate_workflow" (.obj fields)).answer ⟨[], [], []⟩ =
        .ok (callAnswer (Tool.validVerdict g).pretty false) := by
  intro fields c
  obtain ⟨g, hg⟩ : ∃ g, (Tool.compileArguments (.obj fields)).answer ⟨[], [], []⟩ = .ok g :=
    ⟨_, rfl⟩
  have hnode : Json.IsPlainNode [("name", "a"), ("type", "t")] := ⟨nofun, nofun, nofun⟩
  have hplain : Json.IsPlain fields := by
    refine ⟨nofun, fun v hv => ?_, nofun⟩
    cases hv
    exact ⟨_, rfl, by simpa using ⟨_, rfl, hnode⟩⟩
  exact ⟨g, hg, (validate_passes_plain c hg).2.1 hplain⟩

/-- Null for connections compiles, and is refused by the schema. -/
theorem validate_refuses_null_connections :
    let arguments : Json := .obj [("nodes", .arr [.obj [("name", "a"), ("type", "t")]]),
      ("connections", .null)]
    (∃ g, (Tool.compileArguments arguments).answer ⟨[], [], []⟩ = .ok g) ∧
      (callTool ⟨"http://n8n.test/api/v1", "key", .int 30⟩ "validate_workflow" arguments).answer
          ⟨[], [], []⟩ =
        .ok (callAnswer "Input validation error: None is not of type 'array'" true) := by
  intro arguments
  exact ⟨⟨_, rfl⟩, rfl⟩

end Gateway

end Flowgate
