import Flowgate.Json.Basic
import Flowgate.Locator.Error

/-! # Issues of a value

An issue names a place inside a value and what is wrong there. A place is the
path of keys and positions that leads to it.
-/

namespace Flowgate

/-- A step of a path into a value. -/
inductive Step where
  | key (name : String)
  | index (position : Nat)
  deriving DecidableEq, Repr

/-- The path from a value to a part of it. -/
abbrev Location := List Step

/-- A step as reports give it. -/
def Step.toJson : Step → Json
  | key name => .str name
  | index position => .nat position

/-- The parts of a definition that are objects. -/
inductive Part where
  | workflow | node | connection
  deriving DecidableEq, Repr

/-- The title of a part in messages. -/
def Part.title : Part → String
  | workflow => "WorkflowSpec"
  | node => "NodeSpec"
  | connection => "ConnectionSpec"

/-- What is wrong with a value. -/
inductive Offence where
  | missing
  | notPart (part : Part)
  | notText
  | emptyText
  | notList
  /-- More than the two items of a position. -/
  | tooLong (count : Nat)
  | notMap
  | notInteger
  | notFinite
  | fractional
  | tooLarge
  | unreadableInteger
  | notNumber
  | unreadableNumber
  | notPositive
  | notFlag
  | unreadableFlag
  | notLocator
  | badLocator (error : Locator.Error)
  deriving DecidableEq, Repr

/-- The word that stands for an offence in reports. -/
def Offence.code : Offence → String
  | missing => "missing"
  | notPart _ => "model_type"
  | notText => "string_type"
  | emptyText => "string_too_short"
  | notList => "tuple_type"
  | tooLong _ => "too_long"
  | notMap => "dict_type"
  | notInteger => "int_type"
  | notFinite => "finite_number"
  | fractional => "int_from_float"
  | tooLarge => "int_parsing_size"
  | unreadableInteger => "int_parsing"
  | notNumber => "float_type"
  | unreadableNumber => "float_parsing"
  | notPositive => "greater_than"
  | notFlag => "bool_type"
  | unreadableFlag => "bool_parsing"
  | notLocator => "url_type"
  | badLocator _ => "url_parsing"

/-- What is said about an offence. -/
def Offence.message : Offence → String
  | missing => "Field required"
  | notPart part => s!"Input should be a valid dictionary or instance of {part.title}"
  | notText => "Input should be a valid string"
  | emptyText => "String should have at least 1 character"
  | notList => "Input should be a valid tuple"
  | tooLong count => s!"Tuple should have at most 2 items after validation, not {count}"
  | notMap => "Input should be a valid dictionary"
  | notInteger => "Input should be a valid integer"
  | notFinite => "Input should be a finite number"
  | fractional => "Input should be a valid integer, got a number with a fractional part"
  | tooLarge => "Unable to parse input string as an integer, exceeded maximum size"
  | unreadableInteger => "Input should be a valid integer, unable to parse string as an integer"
  | notNumber => "Input should be a valid number"
  | unreadableNumber => "Input should be a valid number, unable to parse string as a number"
  | notPositive => "Input should be greater than 0"
  | notFlag => "Input should be a valid boolean"
  | unreadableFlag => "Input should be a valid boolean, unable to interpret input"
  | notLocator => "URL input should be a string or URL"
  | badLocator error => s!"Input should be a valid URL, {error.message}"

/-- An offence and its place. -/
structure Issue where
  location : Location
  offence : Offence
  deriving DecidableEq, Repr

end Flowgate
