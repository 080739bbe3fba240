import Flowgate.Proofs.FailFast
import Flowgate.Proofs.Workflow.Names
import Flowgate.Workflow.Compile

/-! # Ports and ends of connections

What settling the ports of a connection and binding its ends give, and that each
stops with the head of what is collected about the same connection.
-/

namespace Flowgate

namespace Port

/-- A value that may stand for a port: null, or an integer not below zero. -/
def Admits : Json → Prop
  | .null => True
  | .int i => 0 ≤ i
  | _ => False

instance : DecidablePred Admits := fun
  | .null => .isTrue trivial
  | .int i => inferInstanceAs (Decidable (0 ≤ i))
  | .bool _ | .float _ | .str _ | .arr _ | .obj _ => .isFalse id

/-- The port that a value stands for is the integer given, or zero for null. -/
theorem ofJson?_eq_some {v : Json} {port : Nat} :
    ofJson? v = some port ↔ v = .null ∧ port = 0 ∨ v = .int port := by
  unfold ofJson?
  split
  · simp [eq_comm]
  next n =>
    simp only [Option.some.injEq, reduceCtorEq, false_and, false_or, Json.int.injEq]
    exact Int.ofNat_inj.symm
  next hnull hnat =>
    have hint : v ≠ .int port := hnat port
    simp only [reduceCtorEq, false_iff, not_or, not_and]
    exact ⟨fun h => absurd h hnull, hint⟩

theorem ofJson?_isNone {v : Json} : (ofJson? v).isNone ↔ ¬ Admits v := by
  cases v with
  | int i => cases i <;> simp [ofJson?, Admits]
  | _ => simp [ofJson?, Admits]

theorem read_failsFirst (connection : Nat) (field : PortField) (v : Json) :
    FailsFirst (read connection field v)
      (if Admits v then [] else [.invalidPort connection field v]) := by
  unfold read
  split
  next port hport =>
    have hadmits : Admits v := by
      by_contra hnot
      rw [← ofJson?_isNone, hport] at hnot
      cases hnot
    rw [if_pos hadmits]
    exact .passes port
  next hnone =>
    rw [if_neg (ofJson?_isNone.mp (by rw [hnone]; rfl))]
    exact .fails _ _

theorem read_eq_ok {connection : Nat} {field : PortField} {v : Json} {port : Nat} :
    read connection field v = .ok port ↔ v = .null ∧ port = 0 ∨ v = .int port := by
  rw [← ofJson?_eq_some]
  unfold read
  split
  next h => simp [h]
  next h => simp [h]

end Port

namespace ConnectionSpec

/-- The port errors of a connection: one for each port whose value stands for none. -/
theorem portErrors_eq (index : Nat) (c : ConnectionSpec) :
    c.portErrors index =
      (if Port.Admits c.sourceOutput then []
        else [.invalidPort index .sourceOutput c.sourceOutput]) ++
      (if Port.Admits c.targetInput then []
        else [.invalidPort index .targetInput c.targetInput]) := by
  simp only [portErrors, Port.ofJson?_isNone, List.filterMap_cons, List.filterMap_nil]
  by_cases hout : Port.Admits c.sourceOutput <;> by_cases hin : Port.Admits c.targetInput <;>
    simp [hout, hin]

theorem link_failsFirst (index : Nat) (c : ConnectionSpec) :
    FailsFirst (c.link index) (c.portErrors index) := by
  rw [portErrors_eq]
  apply (Port.read_failsFirst index .sourceOutput c.sourceOutput).bind
  intro output _
  rw [← List.append_nil (ite _ _ _)]
  apply (Port.read_failsFirst index .targetInput c.targetInput).bind
  intro input _
  exact .passes _

/-- A connection whose ports are settled keeps its place and its names. -/
theorem link_eq_ok {index : Nat} {c : ConnectionSpec} {l : NamedLink} :
    c.link index = .ok l ↔
      l.index = index ∧ l.source = c.source ∧ l.target = c.target ∧
        (c.sourceOutput = .null ∧ l.sourceOutput = 0 ∨ c.sourceOutput = .int l.sourceOutput) ∧
        (c.targetInput = .null ∧ l.targetInput = 0 ∨ c.targetInput = .int l.targetInput) := by
  simp only [link, bind_eq_ok, Port.read_eq_ok]
  constructor
  · rintro ⟨output, houtput, input, hinput, hl⟩
    cases hl
    exact ⟨rfl, rfl, rfl, houtput, hinput⟩
  · rintro ⟨rfl, hsource, htarget, houtput, hinput⟩
    refine ⟨l.sourceOutput, houtput, l.targetInput, hinput, ?_⟩
    rw [← hsource, ← htarget]
    rfl

theorem linkAll_failsFirst (connections : List ConnectionSpec) :
    FailsFirst (linkAll connections)
      (connections.zipIdx.flatMap fun (c, index) => c.portErrors index) := by
  apply FailsFirst.mapM
  rw [List.forall₂_same]
  intro (c, index) _
  exact c.link_failsFirst index

end ConnectionSpec

namespace NamedLink

/-- The dangling ends of a connection: one for each end that no declared node bears. -/
theorem danglingEnds_firstIds (index : Nat) (source target : String) (nodes : List NodeSpec) :
    danglingEnds index source target (NodeSpec.firstIds nodes) =
      (if source ∈ nodes.map (·.name) then [] else [.unknownReference index .source source]) ++
      (if target ∈ nodes.map (·.name) then []
        else [.unknownReference index .target target]) := by
  have hnone (name : String) : ((NodeSpec.firstIds nodes).lookup name).isNone ↔
      name ∉ nodes.map (·.name) := by
    rw [← NodeSpec.lookup_firstIds_isSome, Bool.not_eq_true, Option.isSome_eq_false_iff]
  simp only [danglingEnds, hnone, List.filterMap_cons, List.filterMap_nil]
  by_cases hsource : source ∈ nodes.map (·.name) <;>
    by_cases htarget : target ∈ nodes.map (·.name) <;>
      simp only [hsource, htarget, not_true_eq_false, not_false_eq_true, if_true, if_false,
        List.nil_append, List.append_nil, List.cons_append]

theorem bind_failsFirst (ids : NameTable) (l : NamedLink) :
    FailsFirst (l.bind ids) (danglingEnds l.index l.source l.target ids) := by
  unfold bind danglingEnds
  cases hsource : ids.lookup l.source with
  | none =>
      simp only [List.filterMap_cons, hsource]
      exact .fails _ _
  | some sourceId =>
      cases htarget : ids.lookup l.target with
      | none =>
          simp only [List.filterMap_cons, hsource, htarget]
          exact .fails _ _
      | some targetId =>
          simp only [List.filterMap_cons, hsource, htarget]
          exact .passes _

/-- A bound connection keeps its place, its names and its ports, and its ends have the
identifiers that the table gives to their names. -/
theorem bind_eq_ok {ids : NameTable} {l : NamedLink} {e : Graph.Edge} :
    l.bind ids = .ok e ↔
      ids.lookup l.source = some e.sourceId ∧ ids.lookup l.target = some e.targetId ∧
        e.index = l.index ∧ e.sourceName = l.source ∧ e.targetName = l.target ∧
        e.sourceOutput = l.sourceOutput ∧ e.targetInput = l.targetInput := by
  unfold bind
  split
  next sourceId targetId hsource htarget =>
    rw [hsource, htarget]
    constructor
    · intro h
      cases h
      exact ⟨rfl, rfl, rfl, rfl, rfl, rfl, rfl⟩
    · rintro ⟨hs, ht, hindex, hsourceName, htargetName, houtput, hinput⟩
      cases hs
      cases ht
      rw [← hindex, ← hsourceName, ← htargetName, ← houtput, ← hinput]
  next hsource => simp [hsource]
  next htarget _ => simp [htarget]

end NamedLink

end Flowgate
