import Flowgate.Digest.Sha1
import Flowgate.Text.Hex
import Flowgate.Text.Utf8

/-! # Identifiers by name

An identifier of sixteen octets is derived from a namespace, itself such an
identifier, and a name: the first octets of the digest of both, with the bits of
the version and of the variant set.
-/

namespace Flowgate

/-- The octets of an identifier. -/
structure Uuid where
  octets : List UInt8
  deriving DecidableEq

namespace Uuid

/-- Mark the digest as an identifier made from a name by SHA-1. -/
def stamp (octets : List UInt8) : List UInt8 :=
  (octets.take 16).zipIdx.map fun (b, i) =>
    if i = 6 then b &&& 0x0F ||| 0x50
    else if i = 8 then b &&& 0x3F ||| 0x80
    else b

/-- The identifier of a name inside a namespace. -/
def ofName (space : Uuid) (name : String) : Uuid :=
  ⟨stamp (Sha1.digest (space.octets ++ Utf8.encode name))⟩

/-- The namespace of locators. -/
def locators : Uuid :=
  ⟨[0x6b, 0xa7, 0xb8, 0x11, 0x9d, 0xad, 0x11, 0xd1, 0x80, 0xb4, 0x00, 0xc0, 0x4f, 0xd4, 0x30, 0xc8]⟩

/-- Hexadecimal digits in groups of eight, four, four, four and twelve. -/
def toText (u : Uuid) : String :=
  let digits := u.octets.flatMap fun b => Text.hexDigits 2 b.toNat
  String.ofList (digits.take 8 ++ '-' :: ((digits.drop 8).take 4 ++ '-' ::
    ((digits.drop 12).take 4 ++ '-' :: ((digits.drop 16).take 4 ++ '-' :: digits.drop 20))))

end Uuid

end Flowgate
