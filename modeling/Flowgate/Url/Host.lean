import Flowgate.Host.Address
import Flowgate.Host.Label
import Flowgate.Text.Ascii
import Flowgate.Text.Lowercase
import Flowgate.Text.Quoted
import Flowgate.Url.Percent

/-! # Hosts of locators

A host is an address or a name. Names are brought into lower case; what a name in ASCII
cannot hold is encoded, and a name with other characters is written in ASCII label by
label.
-/

namespace Flowgate.Url

/-- Why a text is no host. -/
inductive HostError where
  /-- It looks like an address of four octets but is none. -/
  | badQuad (text : String)
  /-- It stands in brackets but is no address of groups. -/
  | badGroups (text : String)
  | badName (text : String)
  deriving DecidableEq, Repr

/-- What is said about a text that is no host. -/
def HostError.message : HostError → String
  | badQuad text => s!"Invalid IPv4 address: {Text.quoted text}"
  | badGroups text => s!"Invalid IPv6 address: {Text.quoted text}"
  | badName text => s!"Invalid IDNA hostname: {Text.quoted text}"

/-- Whether a text looks like an address of four octets: four runs of digits, of any
length, with points between them. -/
def looksNumeric (host : List Char) : Bool :=
  let parts := Text.splitAt (· == '.') host
  parts.length == 4 && parts.all fun part => !part.isEmpty && part.all Char.isDigit

/-- Whether a text stands in brackets. -/
def isBracketed (host : List Char) : Bool :=
  host.length ≥ 2 && host.head? == some '[' && host.getLast? == some ']'

/-- A host in its one form, without brackets. -/
def hostForm (host : List Char) : Except HostError (List Char) :=
  let text := String.ofList host
  if host.isEmpty then .ok []
  else if looksNumeric host then
    if (Host.quad? host).isSome then .ok host else .error (.badQuad text)
  else if isBracketed host then
    let inside := (host.drop 1).dropLast
    if Host.isGroupAddress inside then .ok inside else .error (.badGroups text)
  else if Text.isAscii text then .ok (percentEncode keepsHost (host.map Char.toLower))
  else
    ((Host.nameToAscii? (Text.lowercase text).toList).map Except.ok).getD (.error (.badName text))

end Flowgate.Url
