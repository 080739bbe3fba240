import Flowgate.Json.Literal
import Flowgate.Url.Form

/-! # Query parameters

Parameters that are unset are left out, and flags are written as words. A list
repeats its parameter, once for every item.
-/

namespace Flowgate.Engine

/-- Leave out unset parameters and write flags as words. -/
def setParameters (parameters : List (String × Json)) : List (String × Json) :=
  parameters.filterMap fun (name, v) =>
    match v with
    | .null => none
    | .bool b => some (name, .str (if b then "true" else "false"))
    | v => some (name, v)

/-- The text of one value. -/
def parameterText : Json → String
  | .null => ""
  | .bool b => if b then "true" else "false"
  | v => v.plain

/-- The pairs of a form: a list gives one for each of its items. -/
def formPairs (parameters : List (String × Json)) : List (String × String) :=
  parameters.flatMap fun (name, v) =>
    match v with
    | .arr items => items.map fun item => (name, parameterText item)
    | v => [(name, parameterText v)]

/-- The query of parameters; none where there is no parameter. -/
def queryText (parameters : List (String × Json)) : Option String :=
  if parameters.isEmpty then none
  else some (String.ofList (Url.formEncode (formPairs parameters)))

end Flowgate.Engine
