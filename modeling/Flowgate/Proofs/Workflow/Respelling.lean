import Flowgate.Proofs.Reading.Retelling
import Flowgate.Proofs.Workflow.Grammar
import Mathlib.Logic.Relation

/-! # One definition in several writings

Reading a definition looks at the fields that a part has, each under the first of its names that is
there, and at nothing else. A writing of a definition may be changed elsewhere, step by step, and
still reads the same, whether it is a definition or is refused.
-/

namespace Flowgate

/-- The fields of a part in the order in which they are read, each with the names under which it
is looked for, the first one there before the others. -/
def Part.fieldNames : Part → List (List String)
  | .workflow => [["name"], ["nodes"], ["connections"]]
  | .node => [["name"], ["type"], ["parameters"], ["typeVersion", "type_version"], ["position"],
      ["credentials"]]
  | .connection => [["source"], ["target"], ["sourceOutput", "source_output"],
      ["targetInput", "target_input"]]

/-! ## Changes of a writing -/

/-- A change of an object that no reader of the part should notice. -/
inductive Part.Edit (part : Part) : Fields → Fields → Prop
  /-- The fields, each of a key of its own, are put in another order. -/
  | reorder {fields others : Fields} : (fields.map Prod.fst).Nodup → fields.Perm others →
      part.Edit fields others
  /-- A key that names no field is added. -/
  | add {before after : Fields} {key : String} (v : Json) : key ∉ part.fieldNames.flatten →
      part.Edit (before ++ after) (before ++ (key, v) :: after)
  /-- A field that is there under its first name is given under the second as well. -/
  | shadow {before after : Fields} {first second : String} (v : Json) :
      [first, second] ∈ part.fieldNames → first ∈ (before ++ after).map Prod.fst →
      part.Edit (before ++ after) (before ++ (second, v) :: after)

/-- A change of an object that may also exchange the only name under which a field is given. -/
inductive Part.Respelling (part : Part) : Fields → Fields → Prop
  | edit {fields others : Fields} : part.Edit fields others → part.Respelling fields others
  | respell {before after : Fields} {first second : String} (v : Json) :
      [first, second] ∈ part.fieldNames → first ∉ (before ++ after).map Prod.fst →
      second ∉ (before ++ after).map Prod.fst →
      part.Respelling (before ++ (first, v) :: after) (before ++ (second, v) :: after)

/-- A change of one of the objects that a writing of a definition consists of. -/
inductive Json.OnePart (change : Part → Fields → Fields → Prop) : Json → Json → Prop
  | workflow {fields others : Fields} : change .workflow fields others →
      OnePart change (.obj fields) (.obj others)
  | node {fields others : Fields} (before after : Fields) (earlier later : List Json) :
      change .node fields others →
      OnePart change (.obj (before ++ ("nodes", .arr (earlier ++ .obj fields :: later)) :: after))
        (.obj (before ++ ("nodes", .arr (earlier ++ .obj others :: later)) :: after))
  | connection {fields others : Fields} (before after : Fields) (earlier later : List Json) :
      change .connection fields others →
      OnePart change
        (.obj (before ++ ("connections", .arr (earlier ++ .obj fields :: later)) :: after))
        (.obj (before ++ ("connections", .arr (earlier ++ .obj others :: later)) :: after))

/-! ## What is found after a change -/

open Reading

/-- Two objects in which the same is found of every field of a part. -/
def Part.SeenAlike (part : Part) (tell : Step → Step) (fields others : Fields) : Prop :=
  ∀ names ∈ part.fieldNames, found tell names fields = found tell names others

/-- A step by the first name of its field. -/
def Step.canonical : Step → Step
  | .key "type_version" => .key "typeVersion"
  | .key "source_output" => .key "sourceOutput"
  | .key "target_input" => .key "targetInput"
  | step => step

namespace Part

variable {part : Part} {tell : Step → Step} {fields others : Fields}

theorem names_eq_of_mem {first second : List String} (hfirst : first ∈ part.fieldNames)
    (hsecond : second ∈ part.fieldNames) {key : String} (hkey : key ∈ first)
    (hother : key ∈ second) : first = second := by
  have hdistinct : ∀ first ∈ part.fieldNames, ∀ second ∈ part.fieldNames,
      ∀ key ∈ first, key ∈ second → first = second := by
    cases part <;> decide
  exact hdistinct first hfirst second hsecond key hkey hother

theorem first_ne_second {first second : String} (h : [first, second] ∈ part.fieldNames) :
    first ≠ second := by
  have hnodup : ∀ names ∈ part.fieldNames, names.Nodup := by
    cases part <;> decide
  simpa using hnodup _ h

theorem canonical_eq {first second : String} (h : [first, second] ∈ part.fieldNames) :
    Step.canonical (.key first) = Step.canonical (.key second) := by
  have hnames : ∀ names ∈ part.fieldNames, ∀ first ∈ names, ∀ second ∈ names,
      Step.canonical (.key first) = Step.canonical (.key second) := by
    cases part <;> decide
  exact hnames _ h first (by simp) second (by simp)

/-- An edit changes nothing about what is found of any field. -/
theorem Edit.seenAlike (h : part.Edit fields others) : part.SeenAlike tell fields others := by
  intro names hnames
  cases h with
  | reorder hnodup hperm =>
      exact found_congr fun name _ => lookup_eq_of_perm hnodup hperm name
  | @add before after key v hkey =>
      apply found_congr
      intro name hname
      have hne : name ≠ key := by
        rintro rfl
        exact hkey (List.mem_flatten.mpr ⟨names, hnames, hname⟩)
      exact (Json.lookup_insert_of_ne hne v before after).symm
  | @shadow before after first second v hpair hthere =>
      by_cases hsecond : second ∈ names
      · obtain rfl := names_eq_of_mem hnames hpair hsecond (by simp)
        -- both are found under the first name, where the second one is not looked for
        obtain ⟨w, hfirst⟩ := Json.exists_lookup_of_mem hthere
        have hafter : (before ++ (second, v) :: after).lookup first = some w := by
          rwa [Json.lookup_insert_of_ne (first_ne_second hpair)]
        rw [found, found, fieldUnder_of_lookup hfirst, fieldUnder_of_lookup hafter]
      · apply found_congr
        intro name hname
        have hne : name ≠ second := fun h => hsecond (h ▸ hname)
        exact (Json.lookup_insert_of_ne hne v before after).symm

/-- An only name that is exchanged leads to the same value by another step. -/
theorem Respelling.seenAlike (h : part.Respelling fields others) :
    part.SeenAlike Step.canonical fields others := by
  cases h with
  | edit hedit => exact hedit.seenAlike
  | @respell before after first second v hpair hfirst hsecond =>
      intro names hnames
      by_cases hsame : names = [first, second]
      · subst hsame
        have hother : (before ++ (second, v) :: after).lookup first = none := by
          rw [Json.lookup_insert_of_ne (first_ne_second hpair),
            Json.lookup_eq_none_of_notMem hfirst]
        rw [found, found, fieldUnder_of_lookup (Json.lookup_insert_of_notMem hfirst v),
          fieldUnder_of_none hother, fieldUnder_of_lookup (Json.lookup_insert_of_notMem hsecond v)]
        exact congrArg (fun step => some (step, v)) (canonical_eq hpair)
      · apply found_congr
        intro name hname
        have hne {key : String} (hkey : key ∈ [first, second]) : name ≠ key := by
          rintro rfl
          exact hsame (names_eq_of_mem hnames hpair hname hkey)
        rw [Json.lookup_insert_of_ne (hne (by simp)), Json.lookup_insert_of_ne (hne (by simp))]

end Part

/-! ## What is read after a change -/

namespace Json

variable {tell : Step → Step} {fields others : Fields}

theorem retell_readNode (h : Part.node.SeenAlike tell fields others) :
    retell tell (readNode (.obj fields)) = retell tell (readNode (.obj others)) := by
  simp only [readNode, retell_ap, required_congr (h ["name"] (by decide)),
    required_congr (h ["type"] (by decide)), optional_congr (h ["parameters"] (by decide)),
    optional_congr (h ["typeVersion", "type_version"] (by decide)),
    optional_congr (h ["position"] (by decide)), optional_congr (h ["credentials"] (by decide))]

theorem retell_readConnection (h : Part.connection.SeenAlike tell fields others) :
    retell tell (readConnection (.obj fields)) = retell tell (readConnection (.obj others)) := by
  simp only [readConnection, retell_ap, required_congr (h ["source"] (by decide)),
    required_congr (h ["target"] (by decide)),
    optional_congr (h ["sourceOutput", "source_output"] (by decide)),
    optional_congr (h ["targetInput", "target_input"] (by decide))]

/-- A definition is read alike where each of its three fields is. -/
theorem retell_readWorkflow
    (hname : retell tell (optional ["name"] none (orNull readString) fields) =
      retell tell (optional ["name"] none (orNull readString) others))
    (hnodes : retell tell (optional ["nodes"] [] (readParts readNode) fields) =
      retell tell (optional ["nodes"] [] (readParts readNode) others))
    (hconnections : retell tell (optional ["connections"] [] (readParts readConnection) fields) =
      retell tell (optional ["connections"] [] (readParts readConnection) others)) :
    retell tell (readWorkflow (.obj fields)) = retell tell (readWorkflow (.obj others)) := by
  simp only [readWorkflow, retell_ap, hname, hnodes, hconnections]

/-- A field of parts in which one part was exchanged for another that is read alike. -/
theorem retell_parts {α : Type} {read : Json → Reading α} {v w : Json} {key : String}
    (h : retell tell (read v) = retell tell (read w)) (before after : Fields)
    (earlier later : List Json) :
    retell tell (optional [key] [] (readParts read)
        (before ++ (key, .arr (earlier ++ v :: later)) :: after)) =
      retell tell (optional [key] [] (readParts read)
        (before ++ (key, .arr (earlier ++ w :: later)) :: after)) :=
  optional_value_congr (itemsFrom_congr h earlier later 0) before after

/-- Where a change of an object leaves what is found there, a change of one object of a definition
leaves what is read of the definition. -/
theorem OnePart.retell_eq {change : Part → Fields → Fields → Prop}
    (hchange : ∀ part fields others, change part fields others → part.SeenAlike tell fields others)
    {v w : Json} (h : OnePart change v w) :
    retell tell v.readWorkflow = retell tell w.readWorkflow := by
  cases h with
  | workflow hfields =>
      have hseen := hchange _ _ _ hfields
      exact retell_readWorkflow (optional_congr (hseen ["name"] (by decide)))
        (optional_congr (hseen ["nodes"] (by decide)))
        (optional_congr (hseen ["connections"] (by decide)))
  | node before after earlier later hfields =>
      have hnode := retell_readNode (hchange _ _ _ hfields)
      exact retell_readWorkflow (optional_congr_of_ne (by decide) ..) (retell_parts hnode ..)
        (optional_congr_of_ne (by decide) ..)
  | connection before after earlier later hfields =>
      have hconnection := retell_readConnection (hchange _ _ _ hfields)
      exact retell_readWorkflow (optional_congr_of_ne (by decide) ..)
        (optional_congr_of_ne (by decide) ..) (retell_parts hconnection ..)

/-- What one change leaves, any number of changes made and undone leaves. -/
theorem retell_eq_of_eqvGen {change : Part → Fields → Fields → Prop}
    (hchange : ∀ part fields others, change part fields others → part.SeenAlike tell fields others)
    {v w : Json} (h : Relation.EqvGen (OnePart change) v w) :
    retell tell v.readWorkflow = retell tell w.readWorkflow := by
  induction h with
  | rel _ _ hstep => exact hstep.retell_eq hchange
  | refl _ => rfl
  | symm _ _ _ ih => exact ih.symm
  | trans _ _ _ _ _ ih ih' => exact ih.trans ih'

end Json

/-- Any number of edits, made or undone in the objects of a definition, leaves the outcome of
reading: the same definition, or the same offence at the same place. A field of two names may be
given under either of them, and the definition is the same. -/
theorem WorkflowSpec.ofJson_ignores_writing :
    (∀ v w, Relation.EqvGen (Json.OnePart Part.Edit) v w → ofJson v = ofJson w) ∧
      ∀ v w, Relation.EqvGen (Json.OnePart Part.Respelling) v w →
        ∀ spec, ofJson v = .ok spec ↔ ofJson w = .ok spec := by
  constructor
  · intro v w h
    have hread : retell id v.readWorkflow = retell id w.readWorkflow :=
      Json.retell_eq_of_eqvGen (fun _ _ _ hedit => hedit.seenAlike) h
    rw [retell_id, retell_id] at hread
    rw [ofJson, ofJson, hread]
  · intro v w h spec
    have hread := Json.retell_eq_of_eqvGen (fun _ _ _ hchange => hchange.seenAlike) h
    rw [ofJson_eq_ok, ofJson_eq_ok]
    exact eq_ok_of_retell hread

/-- Arguments with an identifier and a version spelled twice, of which the one that counts is no
number, are refused as they are without both and in another order; and a port may be given under
either name. -/
theorem WorkflowSpec.ofJson_of_other_writings :
    let node : Fields := [("name", "a"), ("type", "t"), ("typeVersion", .null)]
    let given : Json :=
      .obj [("id", "7"), ("nodes", .arr [.obj (node ++ [("type_version", .int 2)])])]
    let tidied : Json := .obj [("nodes", .arr [.obj node.reverse])]
    let linked (port : String) : Json :=
      .obj [("connections", .arr [.obj [("source", "a"), ("target", "b"), (port, .int 1)]])]
    let spec : WorkflowSpec := ⟨none, [], [⟨"a", "b", .int 1, .null⟩]⟩
    Relation.EqvGen (Json.OnePart Part.Edit) given tidied ∧
      ofJson given = .error (.invalidSpec
        ⟨[.key "nodes", .index 0, .key "typeVersion", .key "int"], .notInteger⟩) ∧
      Relation.EqvGen (Json.OnePart Part.Respelling) (linked "sourceOutput")
        (linked "source_output") ∧
      ofJson (linked "source_output") = .ok spec := by
  intro node given tidied linked spec
  have hidentifier : Json.OnePart Part.Edit
      (.obj [("nodes", .arr [.obj (node ++ [("type_version", .int 2)])])]) given :=
    .workflow (@Part.Edit.add .workflow [] _ "id" _ (by decide))
  have hshadowed : Json.OnePart Part.Edit (.obj [("nodes", .arr [.obj node])])
      (.obj [("nodes", .arr [.obj (node ++ [("type_version", .int 2)])])]) :=
    .node [] [] [] [] (@Part.Edit.shadow .node node [] "typeVersion" "type_version" _ (by decide)
      (by decide))
  have hordered : Json.OnePart Part.Edit (.obj [("nodes", .arr [.obj node])]) tidied :=
    .node [] [] [] [] (.reorder (by decide) node.reverse_perm.symm)
  have hgiven : Relation.EqvGen (Json.OnePart Part.Edit) given tidied :=
    .trans _ _ _ (.symm _ _ (.rel _ _ hidentifier))
      (.trans _ _ _ (.symm _ _ (.rel _ _ hshadowed)) (.rel _ _ hordered))
  have hlinked : Relation.EqvGen (Json.OnePart Part.Respelling) (linked "sourceOutput")
      (linked "source_output") :=
    .rel _ _ (.connection [] [] [] [] (@Part.Respelling.respell .connection
      [("source", "a"), ("target", "b")] [] "sourceOutput" "source_output" _ (by decide)
      (by decide) (by decide)))
  refine ⟨hgiven, ?_, hlinked, ?_⟩
  · rw [ofJson_ignores_writing.1 given tidied hgiven]
    rfl
  · rw [← ofJson_ignores_writing.2 _ _ hlinked]
    rfl

end Flowgate
