import Flowgate.Text.Utf8

/-! # Percent encoding

A character that a part of a locator cannot hold is written as its octets, each
behind a percent sign. Every part has its own set of characters that stay; the
percent sign itself always stays, so that what was encoded before is kept.
-/

namespace Flowgate.Url

/-- A hexadecimal digit, its letters capital. -/
def upperHexDigit (n : Nat) : Char := if n < 10 then Char.ofNat (48 + n) else Char.ofNat (55 + n)

/-- An octet behind a percent sign. -/
def percentOctet (b : UInt8) : List Char :=
  ['%', upperHexDigit (b.toNat / 16), upperHexDigit (b.toNat % 16)]

/-- A character as its octets. -/
def percentChar (c : Char) : List Char := (String.utf8EncodeChar c).flatMap percentOctet

/-- Encode the characters outside a set. -/
def percentEncode (keeps : Char → Bool) (cs : List Char) : List Char :=
  cs.flatMap fun c => if keeps c then [c] else percentChar c

/-- The printable characters of ASCII, less those given. -/
def printableBut (others : List Char) (c : Char) : Bool :=
  ' ' ≤ c && c ≤ '~' && !others.contains c

/-- The characters of a fragment. -/
def keepsFragment : Char → Bool := printableBut [' ', '"', '<', '>', '\x60']

/-- The characters of a query. -/
def keepsQuery : Char → Bool := printableBut [' ', '"', '#', '<', '>']

/-- The characters of a path. -/
def keepsPath : Char → Bool :=
  printableBut [' ', '"', '#', '<', '>', '?', '\x60', '\x7b', '\x7d']

/-- The characters of the part in front of a host. -/
def keepsUser : Char → Bool :=
  printableBut [' ', '"', '#', '<', '>', '?', '\x60', '\x7b', '\x7d', '/', ';', '=', '@', '[',
    '\\', ']', '^', '|']

/-- Letters, digits and four marks need no encoding anywhere. -/
def isUnreserved (c : Char) : Bool :=
  c.isAlphanum || c == '-' || c == '.' || c == '_' || c == '~'

/-- The characters of a host name. -/
def keepsHost (c : Char) : Bool :=
  isUnreserved c || ['!', '$', '&', '\'', '(', ')', '*', '+', ',', ';', '=', '%', '"', '\x60',
    '\x7b', '\x7d', '|', '\\'].contains c

end Flowgate.Url
