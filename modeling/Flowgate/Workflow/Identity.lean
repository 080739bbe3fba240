import Flowgate.Digest.Uuid
import Flowgate.Workflow.Error
import Flowgate.Workflow.Spec

/-! # Node identifiers

A node's identifier follows from its position and its name, so that one
definition always gives one graph. Names are compared exactly.
-/

namespace Flowgate

namespace NodeId

/-- The namespace of the identifiers of nodes. -/
def space : Uuid := .ofName .locators "n8n-workflow-builder/node"

/-- The text from which an identifier is made. -/
def source (index : Int) (name : String) : String := s!"{index}:{name}"

/-- The identifier of a node at a position. -/
def of (index : Int) (name : String) : String := (Uuid.ofName space (source index name)).toText

end NodeId

/-- Names with the identifiers that they stand for. -/
abbrev NameTable := List (String × String)

namespace NodeSpec

/-- Names that earlier nodes bear, in the order of their first repetition.
`seen` holds the names passed and `found` those found already. -/
def repeatedFrom (seen found : List String) : List NodeSpec → List String
  | [] => []
  | n :: rest =>
      if n.name ∈ seen ∧ n.name ∉ found then n.name :: repeatedFrom seen (n.name :: found) rest
      else repeatedFrom (n.name :: seen) found rest

/-- Every name that is declared more than once. -/
def repeatedNames (nodes : List NodeSpec) : List String := repeatedFrom [] [] nodes

/-- Name the nodes from a position on; a name that was seen before is refused. -/
def identifyFrom (seen : List String) (index : Nat) : List NodeSpec → Except CompileError NameTable
  | [] => .ok []
  | n :: rest =>
      if n.name ∈ seen then .error (.duplicateName n.name)
      else (identifyFrom (n.name :: seen) (index + 1) rest).map
        ((n.name, NodeId.of index n.name) :: ·)

/-- The identifier of every name, in the order of the nodes. -/
def identify (nodes : List NodeSpec) : Except CompileError NameTable := identifyFrom [] 0 nodes

/-- Name the nodes from a position on; of a repeated name the first node stays. -/
def firstFrom (seen : List String) (index : Nat) : List NodeSpec → NameTable
  | [] => []
  | n :: rest =>
      if n.name ∈ seen then firstFrom seen (index + 1) rest
      else (n.name, NodeId.of index n.name) :: firstFrom (n.name :: seen) (index + 1) rest

/-- The identifier of the first node of every name. -/
def firstIds (nodes : List NodeSpec) : NameTable := firstFrom [] 0 nodes

end NodeSpec

end Flowgate
