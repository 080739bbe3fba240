import Flowgate.Proofs.Itemwise
import Flowgate.Workflow.Compile

/-! # Readings that succeed

A reading gives a value just if every part of it does. What was read of a definition is
told part by part, so that no reader has to be opened again.
-/

namespace Flowgate

namespace Reading

variable {α β : Type}

theorem within_eq_ok {step : Step} {reading : Reading α} {x : α} :
    within step reading = .ok x ↔ reading = .ok x := by
  cases reading <;> simp [within]

theorem ap_eq_ok {f : Reading (α → β)} {reading : Reading α} {y : β} :
    ap f reading = .ok y ↔ ∃ g x, f = .ok g ∧ reading = .ok x ∧ g x = y := by
  cases f <;> cases reading <;> simp [ap]

theorem map_eq_ok {f : α → β} {reading : Reading α} {y : β} :
    reading.map f = .ok y ↔ ∃ x, reading = .ok x ∧ f x = y := by
  cases reading <;> simp [Except.map]

theorem itemsFrom_eq_ok {read : Json → Reading α} {position : Nat} {items : List Json}
    {xs : List α} :
    itemsFrom read position items = .ok xs ↔
      List.Forall₂ (fun v x => read v = .ok x) items xs := by
  induction items generalizing position xs with
  | nil => simp [itemsFrom, eq_comm]
  | cons v rest ih =>
      simp only [itemsFrom, ap_eq_ok, map_eq_ok, within_eq_ok, ih, List.forall₂_cons_left_iff]
      constructor
      · rintro ⟨-, others, ⟨x, hx, rfl⟩, hothers, rfl⟩
        exact ⟨x, others, hx, hothers, rfl⟩
      · rintro ⟨x, others, hx, hothers, rfl⟩
        exact ⟨_, others, ⟨x, hx, rfl⟩, hothers, rfl⟩

theorem required_eq_ok {name : String} {read : Json → Reading α} {fields : List (String × Json)}
    {x : α} :
    required name read fields = .ok x ↔ ∃ v, fields.lookup name = some v ∧ read v = .ok x := by
  rw [required, within_eq_ok]
  cases hfield : fields.lookup name with
  | none => simp [refuse]
  | some v => simp

theorem optional_eq_ok {names : List String} {absent : α} {read : Json → Reading α}
    {fields : List (String × Json)} {x : α} :
    optional names absent read fields = .ok x ↔
      fieldUnder names fields = none ∧ x = absent ∨
        ∃ name v, fieldUnder names fields = some (name, v) ∧ read v = .ok x := by
  unfold optional
  split
  next name v hfield => simp [hfield, within_eq_ok]
  next hfield => simp [hfield, eq_comm]

/-- A field is found under the first of its names. -/
theorem fieldUnder_of_lookup {name : String} {others : List String}
    {fields : List (String × Json)} {v : Json} (h : fields.lookup name = some v) :
    fieldUnder (name :: others) fields = some (name, v) := by
  rw [fieldUnder, List.findSome?_cons, h, Option.map_some]

theorem fieldUnder_of_none {name : String} {others : List String}
    {fields : List (String × Json)} (h : fields.lookup name = none) :
    fieldUnder (name :: others) fields = fieldUnder others fields := by
  rw [fieldUnder, List.findSome?_cons, h, Option.map_none]
  rfl

theorem fieldUnder_one (name : String) (fields : List (String × Json)) :
    fieldUnder [name] fields = (fields.lookup name).map (name, ·) := by
  rw [fieldUnder, List.findSome?_cons]
  cases fields.lookup name <;> rfl

/-- A field is read under the first of its names. -/
theorem optional_of_lookup {name : String} {others : List String} {absent : α}
    {read : Json → Reading α} {fields : List (String × Json)} {v : Json}
    (h : fields.lookup name = some v) :
    optional (name :: others) absent read fields = within (.key name) (read v) := by
  rw [optional, fieldUnder_of_lookup h]

end Reading

namespace Json

open Reading

theorem readName_eq_ok {v : Json} {s : String} : v.readName = .ok s ↔ v = .str s ∧ s ≠ "" := by
  cases v with
  | str text =>
      by_cases hempty : text = ""
      · simp only [readName, refuse, hempty, if_true, reduceCtorEq, Json.str.injEq, false_iff]
        rintro ⟨rfl, hne⟩
        exact hne rfl
      · simp only [readName, hempty, if_false, Except.ok.injEq, Json.str.injEq]
        constructor
        · rintro rfl
          exact ⟨rfl, hempty⟩
        · exact fun h => h.1
  | _ => simp [readName, refuse]

theorem readVersion_eq_ok {v : Json} {version : TypeVersion} :
    v.readVersion = .ok version ↔ v.toVersion = .ok version ∧ version.isPositive := by
  unfold readVersion
  split
  next given hgiven =>
    rw [hgiven]
    split
    next hpositive =>
      simp only [Except.ok.injEq]
      constructor
      · rintro rfl
        exact ⟨rfl, hpositive⟩
      · exact fun h => h.1
    next hpositive =>
      simp only [refuse, reduceCtorEq, Except.ok.injEq, false_iff]
      rintro ⟨rfl, h⟩
      exact hpositive h
  next issues hissues => simp [hissues]

/-- A node is read just if each of its six fields is. -/
theorem readNode_eq_ok {v : Json} {n : NodeSpec} :
    v.readNode = .ok n ↔ ∃ fields, v = .obj fields ∧
      required "name" readName fields = .ok n.name ∧
      required "type" readName fields = .ok n.type ∧
      optional ["parameters"] [] readMap fields = .ok n.parameters ∧
      optional ["typeVersion", "type_version"] (.whole 1) readVersion fields =
        .ok n.typeVersion ∧
      optional ["position"] none (orNull readPosition) fields = .ok n.position ∧
      optional ["credentials"] none (orNull readMap) fields = .ok n.credentials := by
  cases v with
  | obj fields =>
      simp only [readNode, ap_eq_ok, Except.ok.injEq, Json.obj.injEq, exists_eq_left']
      constructor
      · rintro ⟨-, credentials, ⟨-, position, ⟨-, version, ⟨-, parameters, ⟨-, type,
          ⟨-, name, rfl, hname, rfl⟩, htype, rfl⟩, hparameters, rfl⟩, hversion, rfl⟩,
          hposition, rfl⟩, hcredentials, rfl⟩
        exact ⟨hname, htype, hparameters, hversion, hposition, hcredentials⟩
      · rintro ⟨hname, htype, hparameters, hversion, hposition, hcredentials⟩
        exact ⟨_, _, ⟨_, _, ⟨_, _, ⟨_, _, ⟨_, _, ⟨_, _, rfl, hname, rfl⟩, htype, rfl⟩,
          hparameters, rfl⟩, hversion, rfl⟩, hposition, rfl⟩, hcredentials, rfl⟩
  | _ => simp [readNode, refuse]

/-- A connection is read just if both names are; its ports may be any values. -/
theorem readConnection_eq_ok {v : Json} {c : ConnectionSpec} :
    v.readConnection = .ok c ↔ ∃ fields, v = .obj fields ∧
      required "source" readString fields = .ok c.source ∧
      required "target" readString fields = .ok c.target ∧
      optional ["sourceOutput", "source_output"] .null .ok fields = .ok c.sourceOutput ∧
      optional ["targetInput", "target_input"] .null .ok fields = .ok c.targetInput := by
  cases v with
  | obj fields =>
      simp only [readConnection, ap_eq_ok, Except.ok.injEq, Json.obj.injEq, exists_eq_left']
      constructor
      · rintro ⟨-, input, ⟨-, output, ⟨-, target, ⟨-, source, rfl, hsource, rfl⟩, htarget, rfl⟩,
          houtput, rfl⟩, hinput, rfl⟩
        exact ⟨hsource, htarget, houtput, hinput⟩
      · rintro ⟨hsource, htarget, houtput, hinput⟩
        exact ⟨_, _, ⟨_, _, ⟨_, _, ⟨_, _, rfl, hsource, rfl⟩, htarget, rfl⟩, houtput, rfl⟩,
          hinput, rfl⟩
  | _ => simp [readConnection, refuse]

/-- A definition is read just if its name, its nodes and its connections are. -/
theorem readWorkflow_eq_ok {v : Json} {spec : WorkflowSpec} :
    v.readWorkflow = .ok spec ↔ ∃ fields, v = .obj fields ∧
      optional ["name"] none (orNull readString) fields = .ok spec.name ∧
      optional ["nodes"] [] (readParts readNode) fields = .ok spec.nodes ∧
      optional ["connections"] [] (readParts readConnection) fields = .ok spec.connections := by
  cases v with
  | obj fields =>
      simp only [readWorkflow, ap_eq_ok, Except.ok.injEq, Json.obj.injEq, exists_eq_left']
      constructor
      · rintro ⟨-, connections, ⟨-, nodes, ⟨-, name, rfl, hname, rfl⟩, hnodes, rfl⟩,
          hconnections, rfl⟩
        exact ⟨hname, hnodes, hconnections⟩
      · rintro ⟨hname, hnodes, hconnections⟩
        exact ⟨_, _, ⟨_, _, ⟨_, _, rfl, hname, rfl⟩, hnodes, rfl⟩, hconnections, rfl⟩
  | _ => simp [readWorkflow, refuse]

theorem readParts_eq_ok {α : Type} {read : Json → Reading α} {v : Json} {xs : List α} :
    readParts read v = .ok xs ↔
      v = .null ∧ xs = [] ∨
        ∃ items, v = .arr items ∧ List.Forall₂ (fun v x => read v = .ok x) items xs := by
  cases v with
  | null => simp [readParts, eq_comm]
  | arr items => simp [readParts, itemsFrom_eq_ok]
  | _ => simp [readParts, refuse]

end Json

theorem WorkflowSpec.ofJson_eq_ok {v : Json} {spec : WorkflowSpec} :
    ofJson v = .ok spec ↔ v.readWorkflow = .ok spec := by
  unfold ofJson
  split <;> simp_all

end Flowgate
