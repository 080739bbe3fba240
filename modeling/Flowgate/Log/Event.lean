import Flowgate.Json.Basic

/-! # Log events

What the program reports about its work while it runs: a level, a name and
fields in order. Where events go is settled elsewhere.
-/

namespace Flowgate

namespace Log

/-- How grave an event is. -/
inductive Level where
  | debug | info | warning | error | critical
  deriving DecidableEq, Repr

/-- The name of a level in lines. -/
def Level.name : Level → String
  | .debug => "debug"
  | .info => "info"
  | .warning => "warning"
  | .error => "error"
  | .critical => "critical"

/-- The place of a level among the others. -/
def Level.rank : Level → Nat
  | .debug => 10
  | .info => 20
  | .warning => 30
  | .error => 40
  | .critical => 50

/-- One event of the log. -/
structure Event where
  level : Level
  name : String
  fields : List (String × Json)

end Log

end Flowgate
