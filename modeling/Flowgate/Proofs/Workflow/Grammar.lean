import Flowgate.Proofs.Json.Shape
import Flowgate.Proofs.Reading.Demand
import Flowgate.Proofs.Workflow.Check

/-! # The language of definitions

Which values are definitions, told field by field, and where a value that is none goes
wrong first. A definition is read just if it is in the language, and the refusal of any
other value names the first offending place.
-/

namespace Flowgate

namespace Json

/-! ## What is a definition -/

/-- A text with a character at least. -/
def IsNonEmptyText (v : Json) : Prop := ∃ s, v = .str s ∧ s ≠ ""

/-- A value that converts to an integer. -/
def IsInteger (v : Json) : Prop := ∃ i, v.toInteger = .ok i

/-- A value that converts to an integer or to a floating point number. -/
def IsNumber (v : Json) : Prop := v.IsInteger ∨ ∃ x, v.toReal = .ok x

/-- A value that converts to an integer or to a floating point number above zero. -/
def IsVersion (v : Json) : Prop :=
  (∃ i, v.toInteger = .ok i ∧ 0 < i) ∨ ∃ x, v.toReal = .ok x ∧ x.isPositive

/-- Two values that convert to integers. -/
def IsPosition (v : Json) : Prop := ∃ x y, v = .arr [x, y] ∧ x.IsInteger ∧ y.IsInteger

/-- The fields of a node. Its version is looked for under several keys, of which the first
that is there counts. -/
structure IsNode (versionKeys : List String) (fields : Fields) : Prop where
  name : ∃ v ∈ fields.lookup "name", v.IsNonEmptyText
  type : ∃ v ∈ fields.lookup "type", v.IsNonEmptyText
  parameters : ∀ v ∈ fields.lookup "parameters", v.IsObject
  version : ∀ v ∈ versionKeys.findSome? (fun key => fields.lookup key), v.IsVersion
  position : ∀ v ∈ fields.lookup "position", v.NullOr IsPosition
  credentials : ∀ v ∈ fields.lookup "credentials", v.NullOr IsObject

/-- The fields of a connection. Its ports may hold anything. -/
structure IsConnection (fields : Fields) : Prop where
  source : ∃ v ∈ fields.lookup "source", v.IsText
  target : ∃ v ∈ fields.lookup "target", v.IsText

/-- The fields of a definition. -/
structure IsDefinition (versionKeys : List String) (fields : Fields) : Prop where
  name : ∀ v ∈ fields.lookup "name", v.NullOr IsText
  nodes : ∀ v ∈ fields.lookup "nodes",
    v.NullOr (ListOf (ObjectOf (IsNode versionKeys)))
  connections : ∀ v ∈ fields.lookup "connections", v.NullOr (ListOf (ObjectOf IsConnection))

end Json

/-! ## Where a value goes wrong first

Fields are gone through in the order of the declaration, items in the order of the list. -/

namespace Demand

/-- A field that must be there. -/
def needs (name : String) (rule : Json → Demand) (fields : Fields) : Demand :=
  within (.key name) <|
    match fields.lookup name with
    | some v => rule v
    | none => here False

/-- A field that may be missing, under the first of its names that is there. -/
def mayHave (names : List String) (rule : Json → Demand) (fields : Fields) : Demand :=
  match Reading.fieldUnder names fields with
  | some (name, v) => within (.key name) (rule v)
  | none => here True

/-- An object, field by field. -/
def record (rules : List (Fields → Demand)) : Json → Demand
  | .obj fields => inOrder (rules.map fun rule => rule fields)
  | _ => here False

/-- A list, item by item. -/
def each (rule : Json → Demand) : Json → Demand
  | .arr items => inOrder (items.zipIdx.map fun (v, place) => within (.index place) (rule v))
  | _ => here False

/-- Null, or what a rule demands. -/
def nullOr (rule : Json → Demand) : Json → Demand
  | .null => here True
  | v => rule v

/-- A condition on values, as a rule. -/
def leaf (p : Json → Prop) (v : Json) : Demand := here (p v)

/-- A version. One that is no number at all is refused as an integer. -/
def version (v : Json) : Demand :=
  inOrder [within (.key "int") (here v.IsNumber), here v.IsVersion]

/-- A coordinate, at its place in the list. -/
def coordinate (place : Nat) (items : List Json) : Demand :=
  within (.index place) (here (∃ v ∈ items[place]?, v.IsInteger))

/-- A position. More than two items are refused as a whole. -/
def position : Json → Demand
  | .arr items =>
      inOrder [here (items.length ≤ 2), coordinate 0 items, coordinate 1 items]
  | _ => here False

/-- A node. -/
def node : Json → Demand := record [
  needs "name" (leaf Json.IsNonEmptyText),
  needs "type" (leaf Json.IsNonEmptyText),
  mayHave ["parameters"] (leaf Json.IsObject),
  mayHave ["typeVersion", "type_version"] version,
  mayHave ["position"] (nullOr position),
  mayHave ["credentials"] (nullOr (leaf Json.IsObject))]

/-- A connection. -/
def connection : Json → Demand := record [
  needs "source" (leaf Json.IsText), needs "target" (leaf Json.IsText)]

/-- A definition. -/
def definition : Json → Demand := record [
  mayHave ["name"] (nullOr (leaf Json.IsText)),
  mayHave ["nodes"] (nullOr (each node)),
  mayHave ["connections"] (nullOr (each connection))]

/-! ## Meeting a demand is being in the language -/

variable {rule : Json → Demand} {fields : Fields} {v : Json}

theorem met_needs {name : String} :
    (needs name rule fields).Met ↔ ∃ v ∈ fields.lookup name, (rule v).Met := by
  unfold needs
  cases fields.lookup name <;> simp [within, here]

theorem met_mayHave {names : List String} :
    (mayHave names rule fields).Met ↔
      ∀ v ∈ names.findSome? (fun name => fields.lookup name), (rule v).Met := by
  have hvalue : names.findSome? (fun name => fields.lookup name) =
      (Reading.fieldUnder names fields).map Prod.snd := by
    rw [Reading.fieldUnder, List.map_findSome?]
    congr 1
    funext name
    change fields.lookup name = ((fields.lookup name).map (name, ·)).map Prod.snd
    cases fields.lookup name <;> rfl
  rw [hvalue, mayHave]
  cases Reading.fieldUnder names fields <;> simp [within, here]

theorem met_mayHave_one {name : String} :
    (mayHave [name] rule fields).Met ↔ ∀ v ∈ fields.lookup name, (rule v).Met := by
  rw [met_mayHave]
  cases hfield : fields.lookup name <;> simp [hfield]

theorem met_record {rules : List (Fields → Demand)} :
    (record rules v).Met ↔ v.ObjectOf fun fields => ∀ rule ∈ rules, (rule fields).Met := by
  cases v <;> simp [record, Json.ObjectOf, met_inOrder, here]

theorem met_each : (each rule v).Met ↔ v.ListOf fun item => (rule item).Met := by
  cases v with
  | arr items =>
      simp only [each, met_inOrder, List.forall_mem_map, Json.ListOf, Json.arr.injEq,
        exists_eq_left']
      constructor
      · intro h item hitem
        obtain ⟨place, hplace⟩ := List.mem_iff_getElem?.mp hitem
        exact h (item, place) (List.mk_mem_zipIdx_iff_getElem?.mpr hplace)
      · rintro h ⟨item, place⟩ hmem
        exact h item (List.mem_of_getElem? (List.mk_mem_zipIdx_iff_getElem?.mp hmem))
  | _ => simp [each, Json.ListOf, here]

theorem met_nullOr : (nullOr rule v).Met ↔ v.NullOr fun v => (rule v).Met := by
  cases v <;> simp [nullOr, Json.NullOr, here]

theorem met_version : (version v).Met ↔ v.IsVersion := by
  rw [version, met_inOrder]
  simp only [List.forall_mem_cons, List.not_mem_nil, false_implies, implies_true, and_true]
  change v.IsNumber ∧ v.IsVersion ↔ v.IsVersion
  rw [and_iff_right_iff_imp]
  rintro (⟨i, hi, -⟩ | ⟨x, hx, -⟩)
  · exact .inl ⟨i, hi⟩
  · exact .inr ⟨x, hx⟩

theorem met_position : (position v).Met ↔ v.IsPosition := by
  cases v with
  | arr items =>
      match items with
      | [] | [_] | [_, _] | _ :: _ :: _ :: _ =>
          simp [position, met_inOrder, coordinate, within, here, Json.IsPosition]
  | _ => simp [position, Json.IsPosition, here]

theorem met_node :
    (node v).Met ↔ v.ObjectOf (Json.IsNode ["typeVersion", "type_version"]) := by
  rw [node, met_record]
  refine exists_congr fun fields => and_congr_right fun _ => ?_
  simp only [List.forall_mem_cons, met_needs, met_mayHave_one, met_nullOr, met_position]
  constructor
  · rintro ⟨hname, htype, hparameters, hversion, hposition, hcredentials, -⟩
    refine ⟨hname, htype, hparameters, ?_, hposition, hcredentials⟩
    simpa only [met_version] using met_mayHave.mp hversion
  · rintro ⟨hname, htype, hparameters, hversion, hposition, hcredentials⟩
    refine ⟨hname, htype, hparameters, met_mayHave.mpr ?_, hposition, hcredentials, by simp⟩
    simpa only [met_version] using hversion

theorem met_connection : (connection v).Met ↔ v.ObjectOf Json.IsConnection := by
  rw [connection, met_record]
  refine exists_congr fun fields => and_congr_right fun _ => ?_
  simp only [List.forall_mem_cons, met_needs]
  constructor
  · rintro ⟨hsource, htarget, -⟩
    exact ⟨hsource, htarget⟩
  · rintro ⟨hsource, htarget⟩
    exact ⟨hsource, htarget, by simp⟩

/-- A value meets the demands on a definition just if it is in the language. -/
theorem met_definition :
    (definition v).Met ↔ v.ObjectOf (Json.IsDefinition ["typeVersion", "type_version"]) := by
  rw [definition, met_record]
  refine exists_congr fun fields => and_congr_right fun _ => ?_
  simp only [List.forall_mem_cons, met_mayHave_one, met_nullOr, met_each, met_node,
    met_connection]
  constructor
  · rintro ⟨hname, hnodes, hconnections, -⟩
    exact ⟨hname, hnodes, hconnections⟩
  · rintro ⟨hname, hnodes, hconnections⟩
    exact ⟨hname, hnodes, hconnections, by simp⟩

end Demand

end Flowgate
