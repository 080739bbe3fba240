import Flowgate.Listing.Criteria

/-! # Pages of a listing

A page is a run of the matches from an offset on. A limit counts the entries of a
page; its sum with the offset is the end of the page, and an end below zero
counts from the end of the matches.
-/

namespace Flowgate

namespace Listing

/-- The limit of a page that is given none. -/
def defaultLimit : Int := 50

/-- The place in a list of the end of a slice. -/
def endPlace (length : Nat) (stop : Int) : Nat :=
  if stop < 0 then (length + stop).toNat else min stop.toNat length

/-- The items from an offset up to the sum of offset and limit. -/
def slice (offset : Nat) (limit : Int) (items : List Json) : List Json :=
  (items.take (endPlace items.length (offset + limit))).drop offset

/-- Which page is asked for. The values stand as they were given. -/
structure Window where
  offset : Json
  limit : Json

/-- The integer that a flag or an integer stands for. -/
def toIndex : Json → Except Fault Int
  | .int i => .ok i
  | .bool b => .ok (if b then 1 else 0)
  | _ => .error .unlike

/-- An offset as it is reported: nothing below zero, and zero if it is unset. -/
def reportedOffset (offset : Json) : Except Fault Json :=
  if offset.truthy then
    match offset with
    | .int i => .ok (if i < 0 then .int 0 else offset)
    | .bool _ => .ok offset
    | .float x => .ok (if x.negative && !x.isNaN then .int 0 else offset)
    | _ => .error .unlike
  else .ok (.int 0)

/-- A limit as it is reported. -/
def reportedLimit (limit : Json) : Json := if limit.truthy then limit else .int defaultLimit

/-- One page of the matches. -/
structure Page where
  data : List Json
  total : Nat
  offset : Json
  limit : Json

/-- A page as it is reported. The total counts the matches before the cut. -/
def Page.toJson (p : Page) : Json :=
  .obj [("data", .arr p.data), ("count", .nat p.data.length), ("total", .nat p.total),
    ("offset", p.offset), ("limit", p.limit)]

/-- The page of a window. -/
def Window.page (w : Window) (found : List Json) : Except Fault Page := do
  let offset ← reportedOffset w.offset
  let limit := reportedLimit w.limit
  let start ← toIndex offset
  let count ← toIndex limit
  return ⟨slice start.toNat count found, found.length, offset, limit⟩

/-- Criteria and a window. -/
structure Query where
  criteria : Criteria
  window : Window

/-- Nothing is asked, and the first page. -/
def Query.all : Query := ⟨⟨.null, .null, .null⟩, ⟨.int 0, .int defaultLimit⟩⟩

/-- A page of the workflows that meet the criteria. -/
def Query.run (q : Query) (workflows : List Json) : Except Fault Page := do
  q.window.page (← q.criteria.select workflows)

/-- Set an option of a query by its name. -/
def Query.setOption (q : Query) (option : String × Json) : Except Fault Query :=
  let (name, v) := option
  let { criteria := c, window := w } := q
  match name with
  | "search" => .ok ⟨{ c with search := v }, w⟩
  | "active" => .ok ⟨{ c with active := v }, w⟩
  | "tags" => .ok ⟨{ c with tags := v }, w⟩
  | "offset" => .ok ⟨c, { w with offset := v }⟩
  | "limit" => .ok ⟨c, { w with limit := v }⟩
  | _ => .error (.unknownOption name)

/-- A query of named options. -/
def Query.ofOptions (options : List (String × Json)) : Except Fault Query :=
  options.foldlM Query.setOption .all

end Listing

end Flowgate
