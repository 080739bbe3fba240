import Flowgate.Json.Writable
import Flowgate.Text.Hex

/-! # Writing Json

A request body is compact: no blanks, and only what must be escaped is. Text for
people is indented by two blanks and holds ASCII alone. Both keep the order of
fields. A value has no body text if one of its numbers cannot be written.
-/

namespace Flowgate.Json

/-- Numbers of Json text, with its own words for the special values. -/
def numberFormat : NumberFormat := ⟨-4, 16, 2, "NaN", "Infinity"⟩

/-- The escape of the characters that have a short one. -/
def shortEscape? (c : Char) : Option Char :=
  if c = '"' then some '"'
  else if c = '\\' then some '\\'
  else if c = '\n' then some 'n'
  else if c = '\r' then some 'r'
  else if c = '\t' then some 't'
  else if c = '\x08' then some 'b'
  else if c = '\x0c' then some 'f'
  else none

/-- A 16-bit unit as an escape. -/
def unitEscape (unit : Nat) : List Char := '\\' :: 'u' :: Text.hexDigits 4 unit

/-- A character of a body text: quotes, backslashes and controls are escaped. -/
def bodyChar (c : Char) : List Char :=
  match shortEscape? c with
  | some e => ['\\', e]
  | none => if c.toNat < 0x20 then unitEscape c.toNat else [c]

/-- A character of an ASCII text: beyond ASCII it is one unit, or the pair of
surrogates of its code point. -/
def asciiChar (c : Char) : List Char :=
  match shortEscape? c with
  | some e => ['\\', e]
  | none =>
      if 0x20 ≤ c.toNat ∧ c.toNat < 0x7f then [c]
      else if c.toNat < 0x10000 then unitEscape c.toNat
      else
        let rest := c.toNat - 0x10000
        unitEscape (0xD800 + rest / 0x400) ++ unitEscape (0xDC00 + rest % 0x400)

/-- A text between quotes. -/
def quoteWith (char : Char → List Char) (s : String) : List Char :=
  '"' :: (s.toList.flatMap char ++ ['"'])

mutual

/-- The compact text of a value whose numbers can be written. -/
def compact : Json → List Char
  | null => ['n', 'u', 'l', 'l']
  | bool true => ['t', 'r', 'u', 'e']
  | bool false => ['f', 'a', 'l', 's', 'e']
  | int i => (toString i).toList
  | float x => (numberFormat.render x).toList
  | str s => quoteWith bodyChar s
  | arr items => '[' :: (compactItems items ++ [']'])
  | obj fields => '{' :: (compactFields fields ++ ['}'])

/-- Items with commas between them. -/
def compactItems : List Json → List Char
  | [] => []
  | [v] => compact v
  | v :: rest => compact v ++ ',' :: compactItems rest

/-- Fields with commas between them. -/
def compactFields : List (String × Json) → List Char
  | [] => []
  | [(k, v)] => quoteWith bodyChar k ++ ':' :: compact v
  | (k, v) :: rest => quoteWith bodyChar k ++ ':' :: compact v ++ ',' :: compactFields rest

end

/-- The body text of a value, or why there is none. -/
def body (v : Json) : Except Unwritable String :=
  match v.bodyFlaw? with
  | none => .ok (String.ofList v.compact)
  | some flaw => .error flaw

/-- A new line, indented to a depth. -/
def newline (depth : Nat) : List Char := '\n' :: List.replicate (2 * depth) ' '

mutual

/-- The indented text of a value at a depth. -/
def indented (depth : Nat) : Json → List Char
  | null => ['n', 'u', 'l', 'l']
  | bool true => ['t', 'r', 'u', 'e']
  | bool false => ['f', 'a', 'l', 's', 'e']
  | int i => (toString i).toList
  | float x => (numberFormat.render x).toList
  | str s => quoteWith asciiChar s
  | arr [] => ['[', ']']
  | arr (v :: rest) =>
      '[' :: (newline (depth + 1) ++ indented (depth + 1) v ++
        indentedItems (depth + 1) rest ++ newline depth ++ [']'])
  | obj [] => ['{', '}']
  | obj ((k, v) :: rest) =>
      '{' :: (newline (depth + 1) ++ quoteWith asciiChar k ++ [':', ' '] ++
        indented (depth + 1) v ++ indentedFields (depth + 1) rest ++ newline depth ++ ['}'])

/-- The items after the first, each behind a comma. -/
def indentedItems (depth : Nat) : List Json → List Char
  | [] => []
  | v :: rest => ',' :: (newline depth ++ indented depth v ++ indentedItems depth rest)

/-- The fields after the first, each behind a comma. -/
def indentedFields (depth : Nat) : List (String × Json) → List Char
  | [] => []
  | (k, v) :: rest =>
      ',' :: (newline depth ++ quoteWith asciiChar k ++ [':', ' '] ++ indented depth v ++
        indentedFields depth rest)

end

/-- The indented text of a value. -/
def pretty (v : Json) : String := String.ofList (indented 0 v)

end Flowgate.Json
