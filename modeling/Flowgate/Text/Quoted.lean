import Flowgate.Text.Hex
import Flowgate.Text.Printable

/-! # Quoted text in messages

Messages quote a text in single quotes, or in double quotes when it holds a
single quote and no double one. The quote in use and the backslash are escaped,
and so is every character that cannot be printed.
-/

namespace Flowgate.Text

/-- One character between the given quotes. -/
def quotedChar (quote c : Char) : List Char :=
  if c = quote ∨ c = '\\' then ['\\', c]
  else if c = '\n' then ['\\', 'n']
  else if c = '\r' then ['\\', 'r']
  else if c = '\t' then ['\\', 't']
  else if ' ' ≤ c ∧ c ≤ '~' then [c]
  else if isPrintable c then [c]
  else escaped c

/-- The quote for a text. -/
def quoteOf (s : List Char) : Char := if '\'' ∈ s ∧ '"' ∉ s then '"' else '\''

/-- A text between quotes, on one line and without unprintable characters. -/
def quoted (s : String) : String :=
  let quote := quoteOf s.toList
  String.ofList (quote :: (s.toList.flatMap (quotedChar quote) ++ [quote]))

end Flowgate.Text
