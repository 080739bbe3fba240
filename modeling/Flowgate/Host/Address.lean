import Flowgate.Text.DecimalDigit
import Flowgate.Text.Hex
import Flowgate.Text.Part

/-! # Addresses

Hosts that are numbers. An address of four octets is written in decimal, one of eight
groups in hexadecimal: one run of zero groups may be left out, and the last two groups
may be written as four octets.
-/

namespace Flowgate.Host

/-- An octet in decimal, without zeros in front. -/
def octet? (cs : List Char) : Option Nat := do
  let digits ← cs.mapM Text.asciiDigit?
  if digits.isEmpty || digits.length > 3 || (digits.length > 1 && digits.head? == some 0) then none
  let n := digits.foldl (fun n d => n * 10 + d) 0
  if n ≤ 255 then some n else none

/-- The octets of an address of four. -/
def quad? (cs : List Char) : Option (List Nat) := do
  let octets ← (Text.splitAt (· == '.') cs).mapM octet?
  if octets.length = 4 then some octets else none

/-- A group: up to four hexadecimal digits. -/
def group? (cs : List Char) : Option Nat := do
  let digits ← cs.mapM Text.hexValue?
  if digits.isEmpty || digits.length > 4 then none
  else some (digits.foldl (fun n d => n * 16 + d) 0)

/-- The groups that a part between colons stands for. -/
def groupsOf? (part : List Char) : Option (List Nat) :=
  if '.' ∈ part then
    match quad? part with
    | some [a, b, c, d] => some [a * 256 + b, c * 256 + d]
    | _ => none
  else (group? part).map ([·])

/-- The groups of parts; only the last part may hold octets. -/
def allGroups? : List (List Char) → Option (List Nat)
  | [] => some []
  | [part] => groupsOf? part
  | part :: parts => do return (← group? part) :: (← allGroups? parts)

/-- The groups of a side of the gap, which may be empty. -/
def side? (cs : List Char) : Option (List Nat) :=
  if cs.isEmpty then some [] else allGroups? (Text.splitAt (· == ':') cs)

/-- The text before the first two colons, and the text behind them. -/
def cutGap : List Char → Option (List Char × List Char)
  | [] => none
  | ':' :: ':' :: rest => some ([], rest)
  | c :: rest => (cutGap rest).map fun (before, after) => (c :: before, after)

/-- The eight groups of an address. -/
def groups? (cs : List Char) : Option (List Nat) :=
  match cutGap cs with
  | some (before, after) => do
      if '.' ∈ before then none
      let high ← side? before
      let low ← side? after
      if high.length + low.length < 8 then
        some (high ++ List.replicate (8 - high.length - low.length) 0 ++ low)
      else none
  | none => (side? cs).filter (·.length = 8)

/-- Whether a text is an address of groups. A zone may follow behind a percent sign. -/
def isGroupAddress (cs : List Char) : Bool :=
  let (address, zone) := cs.span (· != '%')
  (groups? address).isSome && zone != ['%'] && !(zone.drop 1).contains '%'

/-- The length of the run of zeros at the start of every rest of a list. -/
def zeroRuns : List Nat → List Nat
  | [] => []
  | n :: rest =>
      let runs := zeroRuns rest
      (if n = 0 then runs.headD 0 + 1 else 0) :: runs

/-- Where the first of the longest runs of zeros begins, and its length. -/
def longestGap (groups : List Nat) : Nat × Nat :=
  let runs := zeroRuns groups
  let longest := runs.foldl max 0
  (runs.idxOf longest, longest)

/-- Groups in hexadecimal, parted by colons. -/
def groupTexts (groups : List Nat) : List Char :=
  [':'].intercalate (groups.map (Nat.toDigits 16))

/-- The shortest text of eight groups: the longest run of zeros is left out, unless it
is a single one. -/
def addressText (groups : List Nat) : List Char :=
  let (start, length) := longestGap groups
  if length < 2 then groupTexts groups
  else groupTexts (groups.take start) ++ [':', ':'] ++ groupTexts (groups.drop (start + length))

end Flowgate.Host
