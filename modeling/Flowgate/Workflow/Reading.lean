import Flowgate.Reading.Scalar
import Flowgate.Workflow.Spec

/-! # Reading a definition

The fields of a definition and its parts, each with its own reader. Keys that are
no field are passed over.
-/

namespace Flowgate

namespace Json

open Reading

/-- The version that a value denotes: a number keeps its kind, and a text is an
integer if it can be one. What is neither has both issues. -/
def toVersion : Json → Reading TypeVersion
  | .float x => .ok (.real x)
  | v =>
      match v.toInteger with
      | .ok i => .ok (.whole i)
      | .error offence =>
          match v.toReal with
          | .ok x => .ok (.real x)
          | .error other => .error [⟨[.key "int"], offence⟩, ⟨[.key "float"], other⟩]

/-- A version above zero. -/
def readVersion (v : Json) : Reading TypeVersion :=
  match v.toVersion with
  | .ok version => if version.isPositive then .ok version else refuse .notPositive
  | .error issues => .error issues

/-- One coordinate, at its place in the list. -/
def readCoordinate (place : Nat) (items : List Json) : Reading Int :=
  within (.index place) <|
    match items[place]? with
    | some v => v.readInteger
    | none => refuse .missing

/-- Two coordinates. A longer list is refused before its items are looked at. -/
def readPosition : Json → Reading (Int × Int)
  | .arr items =>
      if items.length > 2 then refuse (.tooLong items.length)
      else (Reading.ap ((readCoordinate 0 items).map Prod.mk) (readCoordinate 1 items))
  | _ => refuse .notList

/-- A node: name, type, parameters, version, position and credentials, in this order. -/
def readNode : Json → Reading NodeSpec
  | .obj fields =>
      Except.ok NodeSpec.mk
        |> (Reading.ap · (required "name" readName fields))
        |> (Reading.ap · (required "type" readName fields))
        |> (Reading.ap · (optional ["parameters"] [] readMap fields))
        |> (Reading.ap · (optional ["typeVersion", "type_version"] (.whole 1) readVersion fields))
        |> (Reading.ap · (optional ["position"] none (orNull readPosition) fields))
        |> (Reading.ap · (optional ["credentials"] none (orNull readMap) fields))
  | _ => refuse (.notPart .node)

/-- A connection: both names, then the ports, which are not looked at. -/
def readConnection : Json → Reading ConnectionSpec
  | .obj fields =>
      Except.ok ConnectionSpec.mk
        |> (Reading.ap · (required "source" readString fields))
        |> (Reading.ap · (required "target" readString fields))
        |> (Reading.ap · (optional ["sourceOutput", "source_output"] null .ok fields))
        |> (Reading.ap · (optional ["targetInput", "target_input"] null .ok fields))
  | _ => refuse (.notPart .connection)

/-- A list of parts; null is the empty list. -/
def readParts {α : Type} (read : Json → Reading α) : Json → Reading (List α)
  | .null => .ok []
  | .arr items => itemsFrom read 0 items
  | _ => refuse .notList

/-- A definition: name, nodes and connections, in this order. -/
def readWorkflow : Json → Reading WorkflowSpec
  | .obj fields =>
      Except.ok WorkflowSpec.mk
        |> (Reading.ap · (optional ["name"] none (orNull readString) fields))
        |> (Reading.ap · (optional ["nodes"] [] (readParts readNode) fields))
        |> (Reading.ap · (optional ["connections"] [] (readParts readConnection) fields))
  | _ => refuse (.notPart .workflow)

end Json

end Flowgate
