import Flowgate.Fault
import Flowgate.Json.Loose
import Flowgate.Text.Lowercase

/-! # Selecting workflows

A listing is searched by name, by state and by tags. Criteria that are unset
select everything, and those that are set are applied one after the other.
-/

namespace Flowgate

namespace Listing

/-- What is asked of a workflow. -/
structure Criteria where
  /-- A part of the name, in any case. -/
  search : Json
  /-- The state; null stands for both. -/
  active : Json
  /-- Tags of which the workflow has one at least. -/
  tags : Json

/-- Whether a list of characters occurs in another without a gap. -/
def occursIn (part : List Char) : List Char → Bool
  | [] => part.isEmpty
  | c :: rest => part.isPrefixOf (c :: rest) || occursIn part rest

/-- A text in lower case. -/
def lower : Json → Except Fault String
  | .str s => .ok (Text.lowercase s)
  | v => .error (.noMember v.kind "lower")

/-- Whether the lower-case name of a workflow holds a lower-case term. A workflow
without a name has the empty one. -/
def nameHolds (term : String) (workflow : Json) : Except Fault Bool := do
  let name ← workflow.get "name"
  let name ← lower (if name.truthy then name else .str "")
  return occursIn term.toList name.toList

/-- A workflow without a state has the state null. -/
def hasState (state : Json) (workflow : Json) : Except Fault Bool :=
  (workflow.get "active").map (·.same state)

/-- The names of a workflow's tags. A tag is an object with a name or a text;
anything else is passed over. -/
def tagNames (workflow : Json) : Except Fault (List Json) := do
  match ← workflow.get "tags" with
  | .arr tags => return tags.filterMap fun
      | .str s => some (.str s)
      | .obj fields => some (Json.getField "name" fields)
      | _ => none
  | _ => return []

/-- Whether a workflow has one of the wanted tags. -/
def hasTag (wanted : List Json) (workflow : Json) : Except Fault Bool := do
  let names ← (← tagNames workflow).mapM Json.asKey
  return names.any fun name => wanted.any (·.same name)

/-- The items that pass a test, in their order; the first fault ends the run. -/
def keep (test : Json → Except Fault Bool) : List Json → Except Fault (List Json)
  | [] => .ok []
  | v :: rest => do
      let passes ← test v
      let kept ← keep test rest
      return if passes then v :: kept else kept

/-- Keep the workflows whose name holds the term, if there is a term. -/
def searchStep (search : Json) (workflows : List Json) : Except Fault (List Json) :=
  if search.truthy then do
    let term ← lower search
    keep (nameHolds term) workflows
  else .ok workflows

/-- Keep the workflows of a state, unless any state will do. -/
def activeStep (active : Json) (workflows : List Json) : Except Fault (List Json) :=
  if active.isNull then .ok workflows else keep (hasState active) workflows

/-- Keep the workflows with one of the wanted tags, if any tag is wanted. -/
def tagStep (tags : Json) (workflows : List Json) : Except Fault (List Json) :=
  if tags.truthy then do
    let wanted ← (← tags.items).mapM Json.asKey
    keep (hasTag wanted) workflows
  else .ok workflows

/-- The workflows that meet all criteria, in their order. -/
def Criteria.select (c : Criteria) (workflows : List Json) : Except Fault (List Json) := do
  tagStep c.tags (← activeStep c.active (← searchStep c.search workflows))

end Listing

end Flowgate
