import Flowgate.Json.Literal

/-! # Schemas of arguments

A schema says which kind a value has, which fields an object must have, and what
is asked of fields and items. A check finds the first violation.
-/

namespace Flowgate

namespace Schema

/-- The kinds that a schema can ask for. -/
inductive Kind where
  | text | number | flag | object | list
  deriving DecidableEq, Repr

/-- The word for a kind in schemas. -/
def Kind.name : Kind → String
  | text => "string"
  | number => "number"
  | flag => "boolean"
  | object => "object"
  | list => "array"

/-- Whether a value is of a kind. Flags are no numbers. -/
def Kind.admits : Kind → Json → Bool
  | text, .str _ => true
  | number, .int _ => true
  | number, .float _ => true
  | flag, .bool _ => true
  | object, .obj _ => true
  | list, .arr _ => true
  | _, _ => false

end Schema

/-- What is asked of a value. -/
inductive Schema where
  /-- A value of a kind; `choices`, where there are any, lists the texts allowed. -/
  | simple (kind : Schema.Kind) (choices : List String)
  /-- A list of values. -/
  | list (items : Schema)
  /-- An object; each field has a schema, a description and a default, which say
  nothing about values. -/
  | object (fields : List (String × Schema × Option String × Option Json))
      (required : List String)

namespace Schema

/-- A field of an object. -/
abbrev Field := String × Schema × Option String × Option Json

/-- Any text. -/
def text : Schema := simple .text []

/-- Any number. -/
def number : Schema := simple .number []

/-- A flag. -/
def flag : Schema := simple .flag []

/-- An object of which nothing else is asked. -/
def anyObject : Schema := simple .object []

/-- What keeps a value from meeting a schema. -/
inductive Violation where
  | wrongKind (value : Json) (kind : Kind)
  | missing (field : String)
  | notChosen (value : Json) (choices : List String)

/-- What is said about a violation. -/
def Violation.message : Violation → String
  | wrongKind v kind => s!"{v.literal} is not of type '{kind.name}'"
  | missing field => s!"{Text.quoted field} is a required property"
  | notChosen v choices =>
      s!"{v.literal} is not one of {(Json.arr (choices.map Json.str)).literal}"

/-- The first field that is missing. -/
def missingField (required : List String) (fields : List (String × Json)) : Option Violation :=
  (required.find? fun name => (fields.lookup name).isNone).map .missing

mutual

/-- The first violation of a schema. -/
def violation : Schema → Json → Option Violation
  | simple kind choices, v =>
      if !kind.admits v then some (.wrongKind v kind)
      else
        match v with
        | .str s =>
            if choices.isEmpty || choices.contains s then none else some (.notChosen v choices)
        | _ => none
  | list items, v =>
      match v with
      | .arr vs => vs.findSome? (violation items)
      | v => some (.wrongKind v .list)
  | object fields required, v =>
      match v with
      | .obj given => fieldViolation fields given <|> missingField required given
      | v => some (.wrongKind v .object)

/-- The first violation of the fields that are there. -/
def fieldViolation : List (String × Schema × Option String × Option Json) →
    List (String × Json) → Option Violation
  | [], _ => none
  | (name, schema, _, _) :: rest, given =>
      ((given.lookup name).bind (violation schema)) <|> fieldViolation rest given

end

mutual

/-- The fields of the Json form of a schema. -/
def describe : Schema → List (String × Json)
  | simple kind choices =>
      ("type", .str kind.name) ::
        if choices.isEmpty then [] else [("enum", .arr (choices.map Json.str))]
  | list items => [("type", .str Kind.list.name), ("items", .obj (describe items))]
  | object fields required =>
      ("type", .str Kind.object.name) :: ("properties", .obj (describeFields fields)) ::
        if required.isEmpty then [] else [("required", .arr (required.map Json.str))]

/-- The fields of an object schema under their names. -/
def describeFields : List (String × Schema × Option String × Option Json) → List (String × Json)
  | [] => []
  | (name, schema, description, default) :: rest =>
      (name, .obj (describe schema ++ (default.map ("default", ·)).toList ++
        (description.map fun d => ("description", Json.str d)).toList)) :: describeFields rest

end

/-- The Json form of a schema. -/
def toJson (s : Schema) : Json := .obj s.describe

end Schema

end Flowgate
