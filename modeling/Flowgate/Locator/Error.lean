/-! # Texts that are no resource locators -/

namespace Flowgate.Locator

/-- Why a text is no locator. -/
inductive Error where
  | empty
  | relative
  | emptyHost
  | badName
  | badPort
  | badQuad
  | badGroups
  | badCharacter
  deriving DecidableEq, Repr

/-- What is said about a text that is no locator. -/
def Error.message : Error → String
  | empty => "input is empty"
  | relative => "relative URL without a base"
  | emptyHost => "empty host"
  | badName => "invalid international domain name"
  | badPort => "invalid port number"
  | badQuad => "invalid IPv4 address"
  | badGroups => "invalid IPv6 address"
  | badCharacter => "invalid domain character"

end Flowgate.Locator
