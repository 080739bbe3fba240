import Flowgate.Json.Writable
import Flowgate.Text.Quoted

/-! # Values inside messages

How a value is quoted in the text of a message, and how it is written when it is
pasted into a path or a query. A message quotes what was read, and no reader gives an
integer that is too long to be written; what is pasted may be any value.
-/

namespace Flowgate.Json

mutual

/-- A value as a message quotes it. -/
def literal : Json → String
  | null => "None"
  | bool true => "True"
  | bool false => "False"
  | int i => toString i
  | float x => x.toText
  | str s => Text.quoted s
  | arr items => "[" ++ literalItems items ++ "]"
  | obj fields => "\x7b" ++ literalFields fields ++ "\x7d"

/-- The items of a list, parted by commas. -/
def literalItems : List Json → String
  | [] => ""
  | [v] => literal v
  | v :: rest => literal v ++ ", " ++ literalItems rest

/-- The fields of an object, parted by commas. -/
def literalFields : List (String × Json) → String
  | [] => ""
  | [(k, v)] => Text.quoted k ++ ": " ++ literal v
  | (k, v) :: rest => Text.quoted k ++ ": " ++ literal v ++ ", " ++ literalFields rest

end

/-- A value as it is pasted into a text: a text is itself, anything else is
written as in a message. -/
def plain : Json → String
  | str s => s
  | v => literal v

/-- A value pasted into a text, where its integers can be written out. -/
def pasted (v : Json) : Except Unwritable String :=
  match v.textFlaw? with
  | none => .ok v.plain
  | some flaw => .error flaw

end Flowgate.Json
