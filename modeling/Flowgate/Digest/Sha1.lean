/-! # The SHA-1 digest

A message of octets is padded to whole blocks of sixteen words. Each block is
expanded to eighty words, which stir a state of five words in eighty rounds.
-/

namespace Flowgate.Sha1

/-- The five words that a block changes. -/
structure State where
  a : UInt32
  b : UInt32
  c : UInt32
  d : UInt32
  e : UInt32

/-- The state before the first block. -/
def State.start : State := ⟨0x67452301, 0xEFCDAB89, 0x98BADCFE, 0x10325476, 0xC3D2E1F0⟩

/-- Shift a word to the left; the bits that leave it come back on the right. -/
def rotateLeft (w : UInt32) (n : UInt32) : UInt32 := (w <<< n) ||| (w >>> (32 - n))

/-- The octets of a number, most significant first. -/
def bigEndian (count n : Nat) : List UInt8 :=
  (List.range count).reverse.map fun i => UInt8.ofNat (n / Nat.pow 256 i)

/-- A message behind which stand a one bit, zeros and its length in bits. -/
def pad (message : List UInt8) : List UInt8 :=
  let zeros := (119 - message.length % 64) % 64
  message ++ 0x80 :: (List.replicate zeros 0 ++ bigEndian 8 (8 * message.length))

/-- The 32-bit words of a list of octets. -/
def words : List UInt8 → List UInt32
  | a :: b :: c :: d :: rest =>
      (a.toUInt32 <<< 24 ||| b.toUInt32 <<< 16 ||| c.toUInt32 <<< 8 ||| d.toUInt32) :: words rest
  | _ => []

/-- Put `count` words before the words of a schedule, which stands last word
first. -/
def extend : Nat → List UInt32 → List UInt32
  | 0, schedule => schedule
  | count + 1, schedule =>
      let word (i : Nat) := schedule.getD i 0
      extend count (rotateLeft (word 2 ^^^ word 7 ^^^ word 13 ^^^ word 15) 1 :: schedule)

/-- The eighty words of a block of sixteen. -/
def schedule (block : List UInt32) : List UInt32 := (extend 64 block.reverse).reverse

/-- The choice and the constant of a round. -/
def mix (round : Nat) (b c d : UInt32) : UInt32 :=
  if round < 20 then (b &&& c ||| ~~~b &&& d) + 0x5A827999
  else if round < 40 then (b ^^^ c ^^^ d) + 0x6ED9EBA1
  else if round < 60 then (b &&& c ||| b &&& d ||| c &&& d) + 0x8F1BBCDC
  else (b ^^^ c ^^^ d) + 0xCA62C1D6

/-- One round, with a word of the schedule and its number. -/
def State.round (s : State) (word : UInt32 × Nat) : State :=
  ⟨rotateLeft s.a 5 + mix word.2 s.b s.c s.d + s.e + word.1, s.a, rotateLeft s.b 30, s.c, s.d⟩

/-- Eighty rounds over a block, added to the state before them. -/
def State.absorb (s : State) (block : List UInt32) : State :=
  let t := (schedule block).zipIdx.foldl State.round s
  ⟨s.a + t.a, s.b + t.b, s.c + t.c, s.d + t.d, s.e + t.e⟩

/-- Absorb words in blocks of sixteen; the first argument counts the blocks. -/
def absorbBlocks : Nat → State → List UInt32 → State
  | 0, s, _ => s
  | count + 1, s, ws => absorbBlocks count (s.absorb (ws.take 16)) (ws.drop 16)

/-- The twenty octets of the digest of a message. -/
def digest (message : List UInt8) : List UInt8 :=
  let ws := words (pad message)
  let s := absorbBlocks (ws.length / 16) .start ws
  [s.a, s.b, s.c, s.d, s.e].flatMap fun w => bigEndian 4 w.toNat

end Flowgate.Sha1
