import Flowgate.Fault
import Flowgate.Workflow.Reading
import Flowgate.Workflow.Error

/-! # Loose connections

A connection whose parts were not settled before, and a table of names that may
hold anything. Binding looks up both ends first and then reads every part as what
it should be.
-/

namespace Flowgate

/-- A connection of unchecked parts. -/
structure LooseLink where
  index : Json
  source : Json
  target : Json
  sourceOutput : Json
  targetInput : Json

/-- A bound connection; its numbers may be any integers. -/
structure LooseEdge where
  index : Int
  sourceId : String
  sourceName : String
  targetId : String
  targetName : String
  sourceOutput : Int
  targetInput : Int

/-- Whether a connection ends where it starts. -/
def LooseEdge.isSelfLoop (e : LooseEdge) : Bool := e.sourceId == e.targetId

namespace LooseLink

/-- Why a loose connection could not be bound. -/
inductive Refusal where
  | fault (fault : Fault)
  | dangling (report : CompileError.Report)
  | issues (issues : List Issue)

/-- What a table holds for an end. Only texts are names. -/
def idOf? (ids : List (String × Json)) (name : Json) : Except Fault (Option Json) := do
  match ← name.asKey with
  | .str s => return ids.lookup s
  | _ => return none

/-- The ends that are in no table, the source first. -/
def danglingEnds (ids : List (String × Json)) (l : LooseLink) :
    Except Fault (List CompileError.Report) := do
  let source ← idOf? ids l.source
  let target ← idOf? ids l.target
  return [(Side.source, l.source, source), (.target, l.target, target)].filterMap
    fun (side, name, id?) =>
      if id?.isNone then some (.unknownReference l.index side name) else none

/-- Read a part under its name. -/
def readPart {α : Type} (name : String) (read : Json → Reading α) (v : Json) : Reading α :=
  Reading.within (.key name) (read v)

/-- Read the parts of a connection between two identifiers. -/
def readEdge (l : LooseLink) (sourceId targetId : Json) : Reading LooseEdge :=
  Except.ok LooseEdge.mk
    |> (Reading.ap · (readPart "index" Json.readInteger l.index))
    |> (Reading.ap · (readPart "source_id" Json.readString sourceId))
    |> (Reading.ap · (readPart "source_name" Json.readString l.source))
    |> (Reading.ap · (readPart "target_id" Json.readString targetId))
    |> (Reading.ap · (readPart "target_name" Json.readString l.target))
    |> (Reading.ap · (readPart "source_output" Json.readInteger l.sourceOutput))
    |> (Reading.ap · (readPart "target_input" Json.readInteger l.targetInput))

/-- Bind both ends and read all parts. -/
def bind (ids : List (String × Json)) (l : LooseLink) : Except Refusal LooseEdge := do
  match ← (l.danglingEnds ids).mapError .fault with
  | report :: _ => .error (.dangling report)
  | [] =>
      let sourceId ← (idOf? ids l.source).mapError .fault
      let targetId ← (idOf? ids l.target).mapError .fault
      (l.readEdge (sourceId.getD .null) (targetId.getD .null)).mapError .issues

end LooseLink

end Flowgate
