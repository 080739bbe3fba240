import Flowgate.Json.Reader
import Flowgate.Text.Utf8

/-! # Json in octets

Json is sent as octets in one of five encodings. The one in use is told by a byte order mark,
or else by the places of the zeros among the first octets, as Json text begins with characters
of ASCII. A text is made of characters: octets that spell a surrogate without its partner, in
whichever encoding, spell no text.
-/

namespace Flowgate

/-- The order of the octets of a number. -/
inductive Order where
  | big | little
  deriving DecidableEq, Repr

/-- The number of octets. -/
def Order.combine (order : Order) (octets : List UInt8) : Nat :=
  match order with
  | big => octets.foldl (fun n octet => n * 256 + octet.toNat) 0
  | little => octets.foldr (fun octet n => n * 256 + octet.toNat) 0

/-- The units of octets in UTF-16; an octet may not be left over. -/
def Utf16.units? (order : Order) : List UInt8 → Option (List Nat)
  | [] => some []
  | [_] => none
  | a :: b :: rest => (units? order rest).map (order.combine [a, b] :: ·)

/-- The text of units. -/
def Utf16.text? : List Nat → Option (List Char)
  | [] => some []
  | [unit] =>
      if Json.isHighSurrogate unit || Json.isLowSurrogate unit then none
      else some [Char.ofNat unit]
  | unit :: next :: rest =>
      if Json.isHighSurrogate unit then
        if Json.isLowSurrogate next then (text? rest).map (Json.pairChar unit next :: ·) else none
      else if Json.isLowSurrogate unit then none
      else (text? (next :: rest)).map (Char.ofNat unit :: ·)

/-- The text of octets in UTF-16. -/
def Utf16.decode? (order : Order) (bytes : List UInt8) : Option (List Char) :=
  (units? order bytes).bind text?

/-- The text of octets in UTF-32, four to a character. -/
def Utf32.decode? (order : Order) : List UInt8 → Option (List Char)
  | [] => some []
  | a :: b :: c :: d :: rest =>
      let code := order.combine [a, b, c, d]
      if code.isValidChar then (decode? order rest).map (Char.ofNat code :: ·) else none
  | _ => none

namespace Json

/-- The encodings of Json. -/
inductive Encoding where
  | utf8
  | utf16 (order : Order)
  | utf32 (order : Order)
  deriving DecidableEq, Repr

/-- The encoding that octets begin in. -/
def Encoding.of (bytes : List UInt8) : Encoding :=
  if [0x00, 0x00, 0xFE, 0xFF].isPrefixOf bytes then .utf32 .big
  else if [0xFF, 0xFE, 0x00, 0x00].isPrefixOf bytes then .utf32 .little
  else if [0xFE, 0xFF].isPrefixOf bytes then .utf16 .big
  else if [0xFF, 0xFE].isPrefixOf bytes then .utf16 .little
  else
    match bytes with
    | a :: b :: c :: d :: _ =>
        if a = 0 then if b = 0 then .utf32 .big else .utf16 .big
        else if b = 0 then if c = 0 ∧ d = 0 then .utf32 .little else .utf16 .little
        else .utf8
    | [a, b] => if a = 0 then .utf16 .big else if b = 0 then .utf16 .little else .utf8
    | _ => .utf8

/-- The text of octets in an encoding. -/
def Encoding.decode? : Encoding → List UInt8 → Option (List Char)
  | utf8, bytes => Utf8.decode? bytes
  | utf16 order, bytes => Utf16.decode? order bytes
  | utf32 order, bytes => Utf32.decode? order bytes

/-- The value of octets in an encoding; a byte order mark in front is skipped. -/
def Encoding.read? (encoding : Encoding) (bytes : List UInt8) : Option Json :=
  match encoding.decode? bytes with
  | some ('\uFEFF' :: cs) => parse? cs
  | some cs => parse? cs
  | none => none

/-- The value of octets, in whichever encoding they are. -/
def ofOctets? (bytes : List UInt8) : Option Json := (Encoding.of bytes).read? bytes

end Json

end Flowgate
