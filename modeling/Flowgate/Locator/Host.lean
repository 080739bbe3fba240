import Flowgate.Host.Address
import Flowgate.Host.Label
import Flowgate.Locator.Error
import Flowgate.Locator.Symbol
import Flowgate.Text.Lowercase
import Flowgate.Text.Utf8
import Flowgate.Url.Percent

/-! # Hosts of resource locators

The schemes of the web have hosts that are looked up: names, or addresses in any of
their notations. The host of any other scheme is opaque: it stays as it is, but for
characters outside ASCII.
-/

namespace Flowgate

namespace Locator

/-- An address of groups between brackets, in its shortest text. -/
def bracketed (host : List Char) : Except Error (List Char) :=
  if host.getLast? = some ']' then
    match Host.groups? (host.drop 1).dropLast with
    | some groups => .ok ('[' :: Host.addressText groups ++ [']'])
    | none => .error .badGroups
  else .error .badGroups

/-- Characters that an opaque host cannot hold. -/
def isForbidden (c : Char) : Bool :=
  ['\x00', '\t', '\n', '\r', ' ', '#', '/', ':', '<', '>', '?', '@', '[', '\\', ']', '^',
    '|'].contains c

/-- The printable characters of ASCII. -/
def isPrintableAscii (c : Char) : Bool := ' ' ≤ c && c ≤ '~'

/-- A host that is not looked up. -/
def opaqueHost (host : List Char) : Except Error (List Char) :=
  if host.head? = some '[' then bracketed host
  else if host.any isForbidden then .error .badCharacter
  else .ok (Url.percentEncode isPrintableAscii host)

/-- Characters of ASCII that a name cannot hold. -/
def isForbiddenInName (c : Char) : Bool :=
  c.toNat ≤ 0x20 || c.toNat == 0x7f || c == '%' || isForbidden c

/-- Octets with those behind percent signs in their place. -/
def percentDecode : List UInt8 → List UInt8
  | 0x25 :: a :: b :: rest =>
      match Text.hexValue? (Char.ofNat a.toNat), Text.hexValue? (Char.ofNat b.toNat) with
      | some high, some low => UInt8.ofNat (high * 16 + low) :: percentDecode rest
      | _, _ => 0x25 :: percentDecode (a :: b :: rest)
  | b :: rest => b :: percentDecode rest
  | [] => []
termination_by bytes => bytes.length

/-- Whether a character may stand in a name; the invisible joiners only where letters
join. -/
def suitsName (before : List Char) (c : Char) (after : List Char) : Bool :=
  if c.toNat < 0x80 then !isForbiddenInName c && !c.isUpper
  else if c.toNat = 0x200c ∨ c.toNat = 0x200d then Host.suits before c after
  else Host.isLetter c || isSymbol c

/-- Whether every character of a label may stand there; `before` holds those passed. -/
def allSuitName (before : List Char) : List Char → Bool
  | [] => true
  | c :: rest => suitsName before c rest && allSuitName (c :: before) rest

/-- Whether a text of any characters is a label of a name. -/
def isNameLabel (label : List Char) : Bool :=
  Text.canonical label == label && !label.head?.any Host.isMark && allSuitName [] label &&
    Host.keepsDirection label

/-- A label in ASCII, if it is one. -/
def labelToAscii? (label : List Char) : Option (List Char) :=
  if Host.asciiMark.isPrefixOf label then
    match Host.Punycode.decode? (label.drop 4) with
    | some l =>
        if l.any (·.toNat ≥ 0x80) && isNameLabel l && label.all (·.toNat < 0x80) then some label
        else none
    | none => none
  else if label.all (·.toNat < 0x80) then
    if label.any isForbiddenInName then none else some label
  else if isNameLabel label then some (Host.asciiMark ++ Host.Punycode.encode label)
  else none

/-- A name in ASCII and lower case, if it is one. -/
def nameToAscii? (name : List Char) : Option (List Char) := do
  let name := Text.canonical (name.flatMap Text.lowerChar)
  let labels ← (Text.splitAt Host.isDot name).mapM labelToAscii?
  return ['.'].intercalate labels

/-- A number in decimal, in octal behind a zero or in hexadecimal behind `0x`. -/
def number? : List Char → Option Nat
  | [] => none
  | '0' :: x :: digits =>
      if x = 'x' ∨ x = 'X' then
        (digits.mapM Text.hexValue?).map (·.foldl (fun n d => n * 16 + d) 0)
      else
        ((x :: digits).mapM fun c => (Text.asciiDigit? c).filter (· < 8)).map
          (·.foldl (fun n d => n * 8 + d) 0)
  | digits => (digits.mapM Text.asciiDigit?).map (·.foldl (fun n d => n * 10 + d) 0)

/-- The parts of a name without a final dot. -/
def nameParts (name : List Char) : List (List Char) :=
  let parts := Text.splitAt (· == '.') name
  if parts.length > 1 && parts.getLast? == some [] then parts.dropLast else parts

/-- Whether a name ends in a number, so that it must be an address. -/
def endsInNumber (name : List Char) : Bool :=
  match (nameParts name).getLast? with
  | some last => (!last.isEmpty && last.all Char.isDigit) || (number? last).isSome
  | none => false

/-- Numbers as the octets of an address. The last number fills all octets that are
left. -/
def quadOf? (numbers : List Nat) : Option Nat :=
  let fill (octets : List Nat) (last : Nat) : Option Nat :=
    let room := Nat.pow 256 (4 - octets.length)
    if octets.all (· < 256) && last < room then
      some (octets.foldl (fun n d => n * 256 + d) 0 * room + last)
    else none
  match numbers.reverse with
  | last :: before => if before.length < 4 then fill before.reverse last else none
  | [] => none

/-- An address of four octets. -/
def quadText (address : Nat) : List Char :=
  (toString (address / 0x1000000) ++ "." ++ toString (address / 0x10000 % 256) ++ "." ++
    toString (address / 256 % 256) ++ "." ++ toString (address % 256)).toList

/-- A host that is looked up: an address or a name. -/
def namedHost (host : List Char) : Except Error (List Char) :=
  if host.head? = some '[' then bracketed host
  else
    match (Utf8.decode? (percentDecode (Utf8.encode (String.ofList host)))).bind nameToAscii? with
    | none => .error .badName
    | some [] => .error .emptyHost
    | some name =>
        if endsInNumber name then
          match ((nameParts name).mapM number?).bind quadOf? with
          | some address => .ok (quadText address)
          | none => .error .badQuad
        else .ok name

end Locator

end Flowgate
