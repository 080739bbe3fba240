import Flowgate.Workflow.Error
import Flowgate.Workflow.Spec

/-! # Ports

A connection leaves a node by one of its outputs and enters another by one of its
inputs. Ports that were not given are the first ones, and a flag is no port.
-/

namespace Flowgate

namespace Port

/-- The port that a value stands for. -/
def ofJson? : Json → Option Nat
  | .null => some 0
  | .int (.ofNat n) => some n
  | _ => none

/-- The port of a field, or the reason that there is none. -/
def read (connection : Nat) (field : PortField) (value : Json) : Except CompileError Nat :=
  match ofJson? value with
  | some n => .ok n
  | none => .error (.invalidPort connection field value)

end Port

/-- A connection with its ports, still between names. -/
structure NamedLink where
  index : Nat
  source : String
  target : String
  sourceOutput : Nat
  targetInput : Nat
  deriving DecidableEq

namespace ConnectionSpec

/-- Settle the ports of a connection, the output first. -/
def link (index : Nat) (c : ConnectionSpec) : Except CompileError NamedLink := do
  let output ← Port.read index .sourceOutput c.sourceOutput
  let input ← Port.read index .targetInput c.targetInput
  return ⟨index, c.source, c.target, output, input⟩

/-- What is wrong with the ports of a connection, the output first. -/
def portErrors (index : Nat) (c : ConnectionSpec) : List CompileError :=
  [(PortField.sourceOutput, c.sourceOutput), (.targetInput, c.targetInput)].filterMap
    fun (field, value) =>
      if (Port.ofJson? value).isNone then some (.invalidPort index field value) else none

/-- Settle the ports of all connections; the first bad port is the answer. -/
def linkAll (connections : List ConnectionSpec) : Except CompileError (List NamedLink) :=
  connections.zipIdx.mapM fun (c, index) => c.link index

end ConnectionSpec

end Flowgate
