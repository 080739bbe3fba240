/-! # UTF-8

Characters are written as octets, and octets are read back as characters. An
octet sequence that no character has is cut into its maximal invalid parts: each
ends before the first octet that cannot continue it.
-/

namespace Flowgate.Utf8

/-- The octets of a text. -/
def encode (s : String) : List UInt8 := s.toList.flatMap String.utf8EncodeChar

/-- A character that was begun: how many octets it still needs, the range of the
next one, and the bits gathered. -/
structure Pending where
  owed : Nat
  low : UInt8
  high : UInt8
  value : Nat

/-- What the first octet of a character of several octets leaves to be read. -/
def Pending.ofLead? (b : UInt8) : Option Pending :=
  if 0xC2 ≤ b ∧ b ≤ 0xDF then some ⟨1, 0x80, 0xBF, b.toNat - 0xC0⟩
  else if b = 0xE0 then some ⟨2, 0xA0, 0xBF, 0⟩
  else if b = 0xED then some ⟨2, 0x80, 0x9F, 0xD⟩
  else if 0xE1 ≤ b ∧ b ≤ 0xEF then some ⟨2, 0x80, 0xBF, b.toNat - 0xE0⟩
  else if b = 0xF0 then some ⟨3, 0x90, 0xBF, 0⟩
  else if 0xF1 ≤ b ∧ b ≤ 0xF3 then some ⟨3, 0x80, 0xBF, b.toNat - 0xF0⟩
  else if b = 0xF4 then some ⟨3, 0x80, 0x8F, 4⟩
  else none

/-- The reader between two octets: the character begun, if any, and the parts read
so far, last first; an invalid part is `none`. -/
structure Reader where
  pending : Option Pending
  parts : List (Option Char)

/-- Read an octet that begins a character. -/
def Reader.begin (parts : List (Option Char)) (b : UInt8) : Reader :=
  if b < 0x80 then ⟨none, some (Char.ofNat b.toNat) :: parts⟩
  else
    match Pending.ofLead? b with
    | some pending => ⟨some pending, parts⟩
    | none => ⟨none, none :: parts⟩

/-- Read one octet. An octet that cannot continue the character begun closes an
invalid part and begins anew. -/
def Reader.step (r : Reader) (b : UInt8) : Reader :=
  match r.pending with
  | none => Reader.begin r.parts b
  | some p =>
      if p.low ≤ b ∧ b ≤ p.high then
        let value := p.value * 64 + (b.toNat - 0x80)
        if p.owed ≤ 1 then ⟨none, some (Char.ofNat value) :: r.parts⟩
        else ⟨some ⟨p.owed - 1, 0x80, 0xBF, value⟩, r.parts⟩
      else Reader.begin (none :: r.parts) b

/-- The characters and invalid parts of an octet sequence. -/
def parts (bytes : List UInt8) : List (Option Char) :=
  let r := bytes.foldl Reader.step ⟨none, []⟩
  ((if r.pending.isSome then [none] else []) ++ r.parts).reverse

/-- The text of an octet sequence without invalid parts. -/
def decode? (bytes : List UInt8) : Option (List Char) := (parts bytes).mapM id

/-- The text of any octet sequence, each invalid part replaced by U+FFFD. -/
def decodeLossy (bytes : List UInt8) : String :=
  String.ofList ((parts bytes).map (·.getD '\uFFFD'))

end Flowgate.Utf8
