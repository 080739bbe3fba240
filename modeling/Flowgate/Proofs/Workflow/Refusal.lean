import Flowgate.Proofs.Number.Numeral
import Flowgate.Proofs.Reading.Success
import Flowgate.Proofs.Workflow.Grammar

/-! # Reading follows the grammar

Each reader follows the demand on the values that it reads: it succeeds where the demand is
met, and the first of its issues stands where the demand is broken first.
-/

namespace Flowgate

open Demand Reading

namespace Reading.Follows

variable {α : Type} {read : Json → Reading α} {rule : Json → Demand} {fields : Fields}

theorem required (name : String) (h : ∀ v, Follows (read v) (rule v)) :
    Follows (Reading.required name read fields) (needs name rule fields) := by
  refine within _ ?_
  cases fields.lookup name with
  | none => exact refuse .missing id
  | some v => exact h v

theorem optional (names : List String) (absent : α) (h : ∀ v, Follows (read v) (rule v)) :
    Follows (Reading.optional names absent read fields) (mayHave names rule fields) := by
  unfold Reading.optional mayHave
  cases fieldUnder names fields with
  | some field => exact within _ (h field.2)
  | none => exact .pure absent

/-- A field that may hold anything asks for nothing. -/
theorem unseen (names : List String) :
    Follows (Reading.optional names Json.null .ok fields) (here True) := by
  unfold Reading.optional
  cases fieldUnder names fields with
  | some field => exact .pure field.2
  | none => exact .pure Json.null

theorem orNull (h : ∀ v, Follows (read v) (rule v)) (v : Json) :
    Follows (Reading.orNull read v) (nullOr rule v) := by
  cases v with
  | null => exact .pure none
  | _ => exact (h _).map some

/-- The first offence among items is in the first item that has one. -/
theorem itemsFrom (h : ∀ v, Follows (read v) (rule v)) (position : Nat) (items : List Json) :
    Follows (Reading.itemsFrom read position items) (inOrder
      ((items.zipIdx position).map fun (v, place) => Demand.within (.index place) (rule v))) := by
  induction items generalizing position with
  | nil => exact .pure []
  | cons v rest ih => exact ap ((within _ (h v)).map List.cons) (ih (position + 1))

theorem readParts (h : ∀ v, Follows (read v) (rule v)) (v : Json) :
    Follows (Json.readParts read v) (nullOr (each rule) v) := by
  cases v with
  | null => exact .pure []
  | arr items => exact itemsFrom h 0 items
  | _ => exact refuse .notList id

end Reading.Follows

namespace Json

theorem follows_readString (v : Json) : Follows v.readString (leaf IsText v) := by
  cases v with
  | str s => exact .reads s ⟨s, rfl⟩
  | _ => exact .refuse .notText (by simp [IsText])

theorem follows_readName (v : Json) : Follows v.readName (leaf IsNonEmptyText v) := by
  cases v with
  | str s =>
      rw [readName]
      split
      next hempty => exact .refuse .emptyText (by simp [IsNonEmptyText, hempty])
      next hne => exact .reads s ⟨s, rfl, hne⟩
  | _ => exact .refuse .notText (by simp [IsNonEmptyText])

theorem follows_readMap (v : Json) : Follows v.readMap (leaf IsObject v) := by
  cases v with
  | obj fields => exact .reads fields ⟨fields, rfl, trivial⟩
  | _ => exact .refuse .notMap (by simp [IsObject, ObjectOf])

theorem follows_readInteger (v : Json) : Follows v.readInteger (leaf IsInteger v) := by
  unfold readInteger atRoot
  cases hinteger : v.toInteger with
  | ok i => exact .reads i ⟨i, hinteger⟩
  | error offence => exact .refuse offence (by simp [IsInteger, hinteger])

theorem follows_readCoordinate (place : Nat) (items : List Json) :
    Follows (readCoordinate place items) (coordinate place items) := by
  refine .within _ ?_
  cases hitem : items[place]? with
  | none => exact .refuse .missing (by simp)
  | some v =>
      have hfollows := follows_readInteger v
      simpa [leaf] using hfollows

theorem follows_readPosition (v : Json) : Follows v.readPosition (position v) := by
  cases v with
  | arr items =>
      rw [readPosition]
      split
      next hlong => exact .refuses _ _ (Or.inl ⟨Nat.not_le.mpr hlong, rfl⟩)
      next hshort =>
        have h := ((follows_readCoordinate 0 items).map Prod.mk).ap (follows_readCoordinate 1 items)
        simpa [position, inOrder, Nat.not_lt.mp hshort] using h
  | _ => exact .refuse .notList id

theorem follows_toVersion (v : Json) :
    Follows v.toVersion (Demand.within (.key "int") (here v.IsNumber)) := by
  unfold toVersion
  split
  next x => exact .reads _ (Or.inr ⟨x, rfl⟩)
  next v _ =>
    split
    next i hinteger => exact .reads _ (Or.inl ⟨i, hinteger⟩)
    next offence hinteger =>
      split
      next x hreal => exact .reads _ (Or.inr ⟨x, hreal⟩)
      next other hreal =>
        refine .refuses ⟨[.key "int"], offence⟩ _ ⟨[], rfl, ?_, rfl⟩
        simp [IsNumber, IsInteger, hinteger, hreal]

/-- A version is above zero if one of the numbers that the value denotes is. -/
theorem isPositive_of_toVersion {v : Json} {version : TypeVersion}
    (h : v.toVersion = .ok version) : version.isPositive ↔ v.IsVersion := by
  unfold toVersion at h
  split at h
  next x =>
    cases h
    constructor
    · exact fun hx => .inr ⟨x, rfl, hx⟩
    · rintro (⟨i, hinteger, hi⟩ | ⟨y, hreal, hy⟩)
      · exact Binary64.isPositive_of_toInt? (toInt?_of_toInteger hinteger) hi
      · cases hreal
        exact hy
  next v _ =>
    split at h
    next i hinteger =>
      cases h
      rw [TypeVersion.isPositive, decide_eq_true_iff]
      constructor
      · exact fun hi => .inl ⟨i, hinteger, hi⟩
      · rintro (⟨j, hj, hpos⟩ | ⟨x, hreal, hx⟩)
        · rw [hinteger] at hj
          cases hj
          exact hpos
        · exact pos_of_isPositive hinteger hreal hx
    next offence hinteger =>
      split at h
      next x hreal =>
        cases h
        simp [TypeVersion.isPositive, IsVersion, hinteger, hreal]
      next => cases h

theorem follows_readVersion (v : Json) : Follows v.readVersion (version v) := by
  have h := follows_toVersion v
  rw [readVersion]
  cases hversion : v.toVersion with
  | ok t =>
      rw [hversion] at h
      have hnumber := h.exists_ok_iff.mp ⟨t, rfl⟩
      dsimp only
      split
      next hpositive =>
        exact .reads t ⟨hnumber, (isPositive_of_toVersion hversion).mp hpositive, trivial⟩
      next hpositive =>
        refine .refuses _ _ (Or.inr ⟨hnumber, Or.inl ⟨?_, rfl⟩⟩)
        rwa [← isPositive_of_toVersion hversion]
  | error issues =>
      rw [hversion] at h
      cases h with
      | refuses issue later hbroken => exact .refuses issue later (Or.inl hbroken)

/-! ## Objects -/

theorem follows_readNode (v : Json) : Follows v.readNode (node v) := by
  cases v with
  | obj fields =>
      rw [node, record, inOrder_eq_foldl]
      exact (Follows.pure NodeSpec.mk)
        |>.ap (.required "name" follows_readName)
        |>.ap (.required "type" follows_readName)
        |>.ap (.optional ["parameters"] [] follows_readMap)
        |>.ap (.optional ["typeVersion", "type_version"] (.whole 1) follows_readVersion)
        |>.ap (.optional ["position"] none (.orNull follows_readPosition))
        |>.ap (.optional ["credentials"] none (.orNull follows_readMap))
  | _ => exact .refuse (.notPart .node) id

theorem follows_readConnection (v : Json) : Follows v.readConnection (connection v) := by
  cases v with
  | obj fields =>
      rw [connection, record, inOrder_eq_foldl]
      rw [← andThen_here_true (List.foldl ..), ← andThen_here_true (andThen ..)]
      exact (Follows.pure ConnectionSpec.mk)
        |>.ap (.required "source" follows_readString)
        |>.ap (.required "target" follows_readString)
        |>.ap (.unseen ["sourceOutput", "source_output"])
        |>.ap (.unseen ["targetInput", "target_input"])
  | _ => exact .refuse (.notPart .connection) id

/-- Reading a definition follows the demands on definitions. -/
theorem follows_readWorkflow (v : Json) : Follows v.readWorkflow (definition v) := by
  cases v with
  | obj fields =>
      rw [definition, record, inOrder_eq_foldl]
      exact (Follows.pure WorkflowSpec.mk)
        |>.ap (.optional ["name"] none (.orNull follows_readString))
        |>.ap (.optional ["nodes"] [] (.readParts follows_readNode))
        |>.ap (.optional ["connections"] [] (.readParts follows_readConnection))
  | _ => exact .refuse (.notPart .workflow) id

end Json

/-! ## The language of definitions -/

namespace WorkflowSpec

/-- A value is read just if it is in the language. -/
theorem exists_ofJson_eq_ok_iff (v : Json) :
    (∃ spec, ofJson v = .ok spec) ↔
      v.ObjectOf (Json.IsDefinition ["typeVersion", "type_version"]) := by
  rw [← met_definition, ← (Json.follows_readWorkflow v).exists_ok_iff]
  exact exists_congr fun _ => ofJson_eq_ok

/-- Only the first issue of a value is told. -/
theorem ofJson_eq_error_iff {v : Json} {cause : CompileError} :
    ofJson v = .error cause ↔
      ∃ issue later, v.readWorkflow = .error (issue :: later) ∧ cause = .invalidSpec issue := by
  have hfollows := Json.follows_readWorkflow v
  unfold ofJson
  cases hread : v.readWorkflow with
  | ok spec => simp
  | error issues =>
      rw [hread] at hfollows
      cases hfollows with
      | refuses issue later _ =>
          simp only [Except.error.injEq, List.cons.injEq, eq_comm (a := cause)]
          constructor
          · exact fun hcause => ⟨issue, later, ⟨rfl, rfl⟩, hcause⟩
          · rintro ⟨_, _, ⟨rfl, rfl⟩, hcause⟩
            exact hcause

theorem ofJson_refuses_iff (v : Json) (place : Location) :
    (∃ offence, ofJson v = .error (.invalidSpec ⟨place, offence⟩)) ↔
      (definition v).BrokenAt place := by
  rw [(Json.follows_readWorkflow v).brokenAt_iff]
  constructor
  · rintro ⟨offence, hread⟩
    obtain ⟨issue, later, hissues, hissue⟩ := ofJson_eq_error_iff.mp hread
    cases hissue
    exact ⟨_, later, hissues, rfl⟩
  · rintro ⟨⟨place, offence⟩, later, hissues, rfl⟩
    exact ⟨offence, ofJson_eq_error_iff.mpr ⟨_, later, hissues, rfl⟩⟩

/-- The kinds of refusals that are about a definition as a whole. -/
def structuralKinds : List CompileError.Kind :=
  [.emptyWorkflow, .duplicateName, .unknownReference, .invalidPort]

theorem kind_invalidSpec_not_mem (issue : Issue) :
    (CompileError.invalidSpec issue).report.kind ∉ structuralKinds := by
  change CompileError.Kind.invalidSpec ∉ structuralKinds
  decide

theorem kind_of_mem_check {spec : WorkflowSpec} {cause : CompileError}
    (h : cause ∈ spec.check) : cause.report.kind ∈ structuralKinds := by
  rw [check_eq] at h
  split at h
  · rw [List.mem_singleton.mp h]
    exact .head _
  · rcases List.mem_append.mp h with h | h
    · rcases List.mem_append.mp h with h | h
      · obtain ⟨name, -, rfl⟩ := List.mem_map.mp h
        exact .tail _ (.head _)
      · obtain ⟨⟨c, index⟩, -, h⟩ := List.mem_flatMap.mp h
        obtain ⟨field, value, rfl⟩ := mem_portErrors h
        exact .tail _ (.tail _ (.tail _ (.head _)))
    · obtain ⟨⟨c, index⟩, -, h⟩ := List.mem_flatMap.mp h
      obtain ⟨side, name, rfl⟩ := mem_danglingEnds h
      exact .tail _ (.tail _ (.head _))

/-- A definition that is read ends as a graph or with a structural cause. -/
theorem answer_compile_cases (defaultName : String) (spec : WorkflowSpec) (l : Link) :
    (∃ g, (Exchange.compile (some defaultName) spec).answer l = .ok g) ∨
      ∃ cause, cause.report.kind ∈ structuralKinds ∧
        (Exchange.compile (some defaultName) spec).answer l = .error (.definition cause) := by
  rw [Exchange.answer_compile_some]
  have hfirst := spec.compile_failsFirst defaultName
  cases hcompile : spec.compile defaultName with
  | ok g => exact .inl ⟨g, rfl⟩
  | error cause =>
      have hhead := hfirst.head?_of_error hcompile
      exact .inr ⟨cause, kind_of_mem_check (List.mem_of_head? hhead), rfl⟩

/-- A value is read just if it is in the language of definitions. A value that is not is
refused at the first place where it goes wrong, and any other value ends as a graph or with
a structural cause, never both. -/
theorem ofJson_decides_language (v : Json) :
    let Language := v.ObjectOf (Json.IsDefinition ["typeVersion", "type_version"])
    ((∃ spec, ofJson v = .ok spec) ↔ Language) ∧
      (∀ place, (∃ offence, ofJson v = .error (.invalidSpec ⟨place, offence⟩)) ↔
        (definition v).BrokenAt place) ∧
      ∀ defaultName l,
        let answer := (Exchange.compileJson (some defaultName) v).answer l
        ((∃ issue, answer = .error (.definition (.invalidSpec issue))) ↔ ¬ Language) ∧
          (Language ↔ Xor
            (∃ cause, cause.report.kind ∈ structuralKinds ∧ answer = .error (.definition cause))
            (∃ g, answer = .ok g)) := by
  intro Language
  refine ⟨exists_ofJson_eq_ok_iff v, ofJson_refuses_iff v, ?_⟩
  intro defaultName l answer
  have hlanguage := exists_ofJson_eq_ok_iff v
  have hanswer := Exchange.answer_compileJson (some defaultName) v l
  cases hread : ofJson v with
  | error cause =>
      obtain ⟨issue, later, -, rfl⟩ := ofJson_eq_error_iff.mp hread
      -- out of the language, neither of the other two endings is left
      have hout : ¬ Language := by simpa [hread] using hlanguage.mpr
      rw [hread] at hanswer
      change answer = .error (.definition (.invalidSpec issue)) at hanswer
      refine ⟨iff_of_true ⟨issue, hanswer⟩ hout, iff_of_false hout ?_⟩
      rintro (⟨⟨cause, hkind, hcause⟩, -⟩ | ⟨⟨g, hg⟩, -⟩)
      · rw [hanswer] at hcause
        cases hcause
        exact kind_invalidSpec_not_mem issue hkind
      · rw [hanswer] at hg
        cases hg
  | ok spec =>
      have hin : Language := hlanguage.mp ⟨spec, hread⟩
      rw [hread] at hanswer
      change answer = (Exchange.compile (some defaultName) spec).answer l at hanswer
      rcases answer_compile_cases defaultName spec l with ⟨g, hg⟩ | ⟨cause, hkind, hcause⟩
      · rw [← hanswer] at hg
        simp [hg, hin, Xor]
      · rw [← hanswer] at hcause
        have hother (issue : Issue) : cause ≠ .invalidSpec issue := by
          rintro rfl
          exact kind_invalidSpec_not_mem issue hkind
        simp [hcause, hin, hkind, hother, Xor]

/-- Where there is no `typeVersion` a `type_version` counts, and one of zero is refused. A
version that is no number is refused one step below its key. -/
theorem ofJson_of_odd_versions :
    let nodeWith (key : String) (version : Json) : Json := .obj [("nodes", .arr [
      .obj [("name", "a"), ("type", "t"), (key, version)]])]
    ¬ ((∃ spec, ofJson (nodeWith "type_version" (.int 0)) = .ok spec) ↔
        (nodeWith "type_version" (.int 0)).ObjectOf (Json.IsDefinition ["typeVersion"])) ∧
      ofJson (nodeWith "typeVersion" "x") = .error (.invalidSpec
        ⟨[.key "nodes", .index 0, .key "typeVersion", .key "int"], .unreadableInteger⟩) := by
  intro nodeWith
  have hrefused : ofJson (nodeWith "type_version" (.int 0)) = .error (.invalidSpec
      ⟨[.key "nodes", .index 0, .key "type_version"], .notPositive⟩) := rfl
  have hlanguage :
      (nodeWith "type_version" (.int 0)).ObjectOf (Json.IsDefinition ["typeVersion"]) := by
    have hnode : Json.IsNode ["typeVersion"]
        [("name", "a"), ("type", "t"), ("type_version", .int 0)] := by
      refine ⟨⟨_, rfl, "a", rfl, by decide⟩, ⟨_, rfl, "t", rfl, by decide⟩, ?_, ?_, ?_, ?_⟩
      all_goals
        rintro v ⟨⟩
    refine ⟨_, rfl, ?_, ?_, ?_⟩
    · rintro v ⟨⟩
    · rintro v hv
      cases hv
      refine .inr ⟨_, rfl, ?_⟩
      simpa using ⟨_, rfl, hnode⟩
    · rintro v ⟨⟩
  refine ⟨?_, rfl⟩
  rw [hrefused]
  simp [hlanguage]

end WorkflowSpec

end Flowgate
