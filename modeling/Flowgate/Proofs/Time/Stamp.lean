import Flowgate.Execution.Summary
import Flowgate.Proofs.Json.Numeral
import Flowgate.Proofs.Time.Days
import Mathlib.Data.Nat.Digits.Defs

/-! # Written timestamps

A stamp is a timestamp as it is written in the extended form: a date, a time of day to the
second or with three or six digits behind the point, and an offset of whole minutes or the mark
of universal time. Its numbers have their widths, whether there is such a date and such a time or
not. A stamp of a date and a time that exist is read as these, and any other one is not read.
-/

namespace Flowgate

/-- The digits behind the point of a second, where there are any. -/
inductive Stamp.Fraction where
  | none
  | millis (n : Fin 1000)
  | micros (n : Fin 1000000)

/-- The mark of universal time, or an offset of less than a day to either side. -/
inductive Stamp.Zone where
  | universal
  | offset (behind : Bool) (minutes : Fin 1440)

/-- A timestamp as it is written. -/
structure Stamp where
  year : Fin 10000
  month : Fin 100
  day : Fin 100
  hour : Fin 100
  minute : Fin 100
  second : Fin 100
  fraction : Stamp.Fraction
  zone : Stamp.Zone

namespace Stamp

open Timestamp

/-! ## The text of a stamp -/

def Fraction.text : Fraction → String
  | none => ""
  | millis n => "." ++ padded 3 n
  | micros n => "." ++ padded 6 n

def Zone.text : Zone → String
  | universal => "Z"
  | offset behind minutes =>
      (if behind then "-" else "+") ++ padded 2 (minutes.val / 60) ++ ":" ++
        padded 2 (minutes.val % 60)

/-- The text in front of the zone. -/
def front (s : Stamp) : String :=
  padded 4 s.year ++ "-" ++ padded 2 s.month ++ "-" ++ padded 2 s.day ++ "T" ++
    padded 2 s.hour ++ ":" ++ padded 2 s.minute ++ ":" ++ padded 2 s.second ++ s.fraction.text

def text (s : Stamp) : String := s.front ++ s.zone.text

/-! ## What a stamp tells -/

/-- The microseconds of a fraction. -/
def Fraction.value : Fraction → Nat
  | none => 0
  | millis n => n * 1000
  | micros n => n

/-- The minutes by which a zone is ahead of universal time. -/
def Zone.minutes : Zone → Int
  | universal => 0
  | offset behind minutes => if behind then -(minutes.val : Int) else minutes.val

def date (s : Stamp) : Calendar.Date := ⟨s.year, s.month, s.day⟩

def clock (s : Stamp) : Clock := ⟨s.hour, s.minute, s.second, s.fraction.value⟩

def timestamp (s : Stamp) : Timestamp := ⟨s.date, s.clock, some (s.zone.minutes * 60000000)⟩

/-- There is such a date, and such a time of day. -/
structure Exists (s : Stamp) : Prop where
  date : s.date.isValid = true
  clock : s.clock.isValid = true

instance (s : Stamp) : Decidable s.Exists :=
  decidable_of_iff (s.date.isValid = true ∧ s.clock.isValid = true)
    ⟨fun h => ⟨h.1, h.2⟩, fun h => ⟨h.date, h.clock⟩⟩

/-! ## Numbers of a width -/

/-- Digits that are a number of a width. -/
structure Spells (digits : List Char) (width n : Nat) : Prop where
  length : digits.length = width
  all : ∀ c ∈ digits, c.isDigit = true
  value : Json.digitsValue digits = n

variable {digits rest : List Char} {width n : Nat}

theorem spells_padded (h : n < 10 ^ width) (hwidth : 0 < width) :
    Spells (padded width n).toList width n := by
  have hpadded : (padded width n).toList =
      List.replicate (width - (Nat.toDigits 10 n).length) '0' ++ Nat.toDigits 10 n := by
    have htext : (toString n).toList = Nat.toDigits 10 n := Nat.toList_repr
    rw [padded, NumberFormat.padZeros, String.toList_append, String.toList_ofList,
      ← String.length_toList, htext]
  have hlength := Nat.toDigits_length 10 n width hwidth h
  refine ⟨?_, ?_, ?_⟩
  · rw [hpadded, List.length_append, List.length_replicate]
    omega
  · rw [hpadded]
    intro c hc
    rcases List.mem_append.mp hc with hzero | hdigit
    · rw [List.eq_of_mem_replicate hzero]
      rfl
    · exact (Json.isDigits_toDigits n).all c hdigit
  · rw [hpadded, Json.digitsValue_zeros_append, Json.digitsValue_toDigits]

namespace Spells

theorem takeNumber_append (h : Spells digits width n) (rest : List Char) :
    takeNumber width (digits ++ rest) = some (n, rest) := by
  have hvalues : digits.mapM Text.asciiDigit? =
      some (digits.map fun c => c.toNat - '0'.toNat) := by
    have hall := h.all
    clear h
    induction digits with
    | nil => rfl
    | cons c cs ih =>
        obtain ⟨hc, hcs⟩ := List.forall_mem_cons.mp hall
        have hdigit : Text.asciiDigit? c = some (c.toNat - '0'.toNat) := by
          simpa [Text.asciiDigit?, Char.isDigit, Char.le_def] using hc
        simp [List.mapM_cons, hdigit, ih hcs]
  unfold takeNumber
  rw [← h.length, List.take_left, List.drop_left, hvalues]
  simp only [Option.bind_eq_bind, Option.bind_some, List.length_map, if_true, List.foldl_map]
  exact congrArg (fun n => some (n, rest)) h.value

theorem takeNumber (h : Spells digits width n) :
    Timestamp.takeNumber width digits = some (n, []) := by
  have happend := h.takeNumber_append []
  rwa [List.append_nil] at happend

/-- A number is no word. -/
theorem exists_cons (h : Spells digits (width + 1) n) :
    ∃ c tail, digits = c :: tail ∧ c.isDigit = true := by
  obtain ⟨c, tail, rfl⟩ := List.exists_cons_of_length_eq_add_one h.length
  exact ⟨c, tail, rfl, h.all c List.mem_cons_self⟩

end Spells

/-! ## Reading a date -/

section Date

variable {years months days : List Char} {year month day : Nat}

theorem readDate?_extended (hyear : Spells years 4 year) (hmonth : Spells months 2 month)
    (hday : Spells days 2 day) :
    readDate? (years ++ '-' :: (months ++ '-' :: days)) = some ⟨year, month, day⟩ := by
  unfold readDate?
  rw [hyear.takeNumber_append]
  simp only [Option.bind_eq_bind, Option.bind_some]
  split
  next tail hword =>
    obtain ⟨c, more, rfl, hc⟩ := hmonth.exists_cons
    rw [(List.cons.inj hword).1] at hc
    cases hc
  next =>
    rw [hmonth.takeNumber_append]
    simp only [Option.bind_some]
    rw [hday.takeNumber]
    rfl

end Date

/-! ## Reading a time of day -/

section Clock

variable {hours minutes seconds : List Char} {hour minute second count : Nat}
  {separated : Option Bool}

/-- The first colon settles that colons part the numbers. -/
theorem takeUnits_colon (h : Spells digits 2 n) (hseparated : separated.getD true = true)
    (hrest : rest ≠ []) :
    takeUnits (count + 1) separated (digits ++ ':' :: rest) =
      (takeUnits count (some true) rest).map fun (ns, tail) => (n :: ns, tail) := by
  obtain ⟨c, more, rfl⟩ := List.exists_cons_of_ne_nil hrest
  have hcolon : (separated.getD (':' == ':') && ':' == ':') = true := by
    rw [Bool.and_eq_true]
    exact ⟨hseparated, rfl⟩
  rw [takeUnits, h.takeNumber_append]
  dsimp only
  rw [if_pos hcolon]

theorem takeUnits_point (h : Spells digits 2 n) (hrest : rest ≠ []) :
    takeUnits (count + 1) (some true) (digits ++ '.' :: rest) = some ([n], rest, true) := by
  obtain ⟨c, more, rfl⟩ := List.exists_cons_of_ne_nil hrest
  rw [takeUnits, h.takeNumber_append]
  simp

theorem takeUnits_end (h : Spells digits 2 n) :
    takeUnits (count + 1) separated digits = some ([n], [], false) := by
  rw [takeUnits, h.takeNumber]

theorem takeFraction_of_spells (h : Spells digits width n) (hwidth : width ≤ 6) :
    takeFraction digits = some (n * 10 ^ (6 - width), []) := by
  unfold takeFraction
  simp only [h.length, Nat.min_eq_right hwidth, h.takeNumber]
  rfl

theorem Spells.append_ne_nil (h : Spells digits 2 n) (rest : List Char) :
    digits ++ rest ≠ [] := by
  obtain ⟨c, tail, rfl, -⟩ := h.exists_cons
  exact List.cons_ne_nil _ _

/-- The digits behind the point are a fraction of a second. -/
theorem takeUnits_seconds (h : Spells seconds 2 second) (f : Fraction) :
    ∃ behind fraction, takeUnits 1 (some true) (seconds ++ f.text.toList) =
        some ([second], behind, fraction) ∧
      (if fraction then takeFraction behind else some (0, behind)) = some (f.value, []) := by
  have hdigits (width : Nat) {n : Nat} (hn : n < 10 ^ width) (hpositive : 0 < width)
      (hwidth : width ≤ 6) :
      takeUnits 1 (some true) (seconds ++ ("." ++ padded width n).toList) =
          some ([second], (padded width n).toList, true) ∧
        takeFraction (padded width n).toList = some (n * 10 ^ (6 - width), []) := by
    have hspells := spells_padded hn hpositive
    have hne : (padded width n).toList ≠ [] :=
      List.ne_nil_of_length_pos (hspells.length.symm ▸ hpositive)
    rw [String.toList_append]
    exact ⟨takeUnits_point h hne, takeFraction_of_spells hspells hwidth⟩
  cases f with
  | none => exact ⟨[], false, by simpa [Fraction.text] using takeUnits_end h, rfl⟩
  | millis n =>
      obtain ⟨hunits, hfraction⟩ := hdigits 3 n.isLt (by decide) (by decide)
      exact ⟨_, true, hunits, hfraction⟩
  | micros n =>
      obtain ⟨hunits, hfraction⟩ := hdigits 6 n.isLt (by decide) (by decide)
      exact ⟨_, true, hunits, by simpa [Fraction.value] using hfraction⟩

theorem takeClock_extended (hhour : Spells hours 2 hour) (hminute : Spells minutes 2 minute)
    (hsecond : Spells seconds 2 second) (f : Fraction) :
    takeClock (hours ++ ':' :: (minutes ++ ':' :: (seconds ++ f.text.toList))) =
      some (⟨hour, minute, second, f.value⟩, []) := by
  obtain ⟨behind, fraction, hunits, hfraction⟩ := takeUnits_seconds hsecond f
  unfold takeClock
  rw [takeUnits_colon hhour rfl (hminute.append_ne_nil _),
    takeUnits_colon hminute rfl (hsecond.append_ne_nil _), hunits]
  cases fraction with
  | false =>
      obtain ⟨hvalue, rfl⟩ := Prod.mk.inj (Option.some.inj hfraction)
      rw [← hvalue]
      rfl
  | true =>
      simp only [if_true] at hfraction
      simp only [Option.map_some, Option.bind_eq_bind, Option.bind_some, if_true, hfraction]
      rfl

/-- An offset has no seconds. -/
theorem readClock?_offset (hhour : Spells hours 2 hour) (hminute : Spells minutes 2 minute) :
    readClock? (hours ++ ':' :: minutes) = some ⟨hour, minute, 0, 0⟩ := by
  have hne : minutes ≠ [] := List.ne_nil_of_length_pos (by rw [hminute.length]; decide)
  unfold readClock? takeClock
  rw [takeUnits_colon hhour rfl hne, takeUnits_end hminute]
  rfl

theorem readOffset?_eq_bind (behind : Bool) (cs : List Char) :
    readOffset? behind cs = (readClock? cs).bind fun c =>
      if c.micros < 1000000 then some 0
      else if c.micros < 86400000000 then some (if behind then -c.micros else c.micros)
      else none := rfl

/-- An offset of less than a second is none. -/
theorem readOffset?_of_readClock? (behind : Bool) {cs : List Char} {c : Clock}
    (h : readClock? cs = some c) (hday : c.micros < 86400000000) :
    readOffset? behind cs =
      some (if c.micros < 1000000 then 0 else if behind then -c.micros else c.micros) := by
  rw [readOffset?_eq_bind, h, Option.bind_some]
  by_cases hnone : c.micros < 1000000
  · rw [if_pos hnone, if_pos hnone]
  · rw [if_neg hnone, if_pos hday, if_neg hnone]

/-- Whole minutes are no time at all or more than a second. -/
theorem signed_minutes (behind : Bool) (total : Nat) :
    (if (total : Int) * 60000000 < 1000000 then 0
      else if behind then -((total : Int) * 60000000) else (total : Int) * 60000000) =
      (if behind then -(total : Int) else (total : Int)) * 60000000 := by
  cases behind <;> simp <;> omega

theorem readOffset?_minutes (behind : Bool) (total : Fin 1440)
    (hhour : Spells hours 2 (total.val / 60)) (hminute : Spells minutes 2 (total.val % 60)) :
    readOffset? behind (hours ++ ':' :: minutes) =
      some ((Zone.offset behind total).minutes * 60000000) := by
  have hmicros : Clock.micros ⟨total.val / 60, total.val % 60, 0, 0⟩ =
      (total.val : Int) * 60000000 := by
    simp only [Clock.micros]
    unfold Micros
    omega
  have hday : Clock.micros ⟨total.val / 60, total.val % 60, 0, 0⟩ < 86400000000 := by
    rw [hmicros]
    have hlt := total.isLt
    exact (by omega : (total.val : Int) * 60000000 < 86400000000)
  rw [readOffset?_of_readClock? behind (readClock?_offset hhour hminute) hday, hmicros]
  exact congrArg some (signed_minutes behind total)

/-- A mark that no sign of the time of day is parts it from the offset. -/
theorem readTime?_offset {clock offset : List Char} {c : Clock} {behind : Bool} {o : Micros}
    (hclock : takeClock clock = some (c, [])) (hmarks : ∀ x ∈ clock, isOffsetMark x = false)
    (hoffset : readOffset? behind offset = some o) :
    readTime? (clock ++ (if behind then '-' else '+') :: offset) = some (c, some o) := by
  have hpass : ∀ x ∈ clock, (!isOffsetMark x) = true := by simpa using hmarks
  have hstop : (!isOffsetMark (if behind then '-' else '+')) = false := by cases behind <;> rfl
  have hmark : ((if behind then '-' else '+') == '-') = behind := by cases behind <;> rfl
  have hbehind : (clock ++ (if behind then '-' else '+') :: offset).dropWhile
      (!isOffsetMark ·) = (if behind then '-' else '+') :: offset := by
    rw [List.dropWhile_append_of_pos hpass, List.dropWhile_cons, hstop]
    rfl
  have hfront : (clock ++ (if behind then '-' else '+') :: offset).takeWhile
      (!isOffsetMark ·) = clock := by
    rw [List.takeWhile_append_of_pos hpass, List.takeWhile_cons, hstop]
    exact List.append_nil clock
  rw [readTime?, hbehind]
  simp only [hfront, hclock, hmark, hoffset]
  rfl

end Clock

/-! ## The signs of a text -/

section Signs

variable {signs more cs ds : List Char} {c : Char}

/-- Digits and signs of a list. -/
def Made (signs cs : List Char) : Prop := ∀ c ∈ cs, c.isDigit = true ∨ c ∈ signs

namespace Made

theorem mono (h : Made signs cs) (hsub : signs ⊆ more) : Made more cs :=
  fun c hc => (h c hc).imp_right (hsub ·)

theorem append (hcs : Made signs cs) (hds : Made signs ds) : Made signs (cs ++ ds) :=
  List.forall_mem_append.mpr ⟨hcs, hds⟩

theorem cons (hc : c ∈ signs) (hcs : Made signs cs) : Made signs (c :: cs) :=
  List.forall_mem_cons.mpr ⟨.inr hc, hcs⟩

theorem forall_of {p : Char → Prop} (h : Made signs cs) (hdigit : ∀ c, c.isDigit = true → p c)
    (hsigns : ∀ c ∈ signs, p c) : ∀ c ∈ cs, p c :=
  fun c hc => (h c hc).elim (hdigit c) (hsigns c)

end Made

theorem Spells.made (h : Spells digits width n) (signs : List Char) : Made signs digits :=
  fun c hc => .inl (h.all c hc)

theorem flatMap_eq_self {f : Char → List Char} (h : ∀ c ∈ cs, f c = [c]) : cs.flatMap f = cs := by
  rw [List.flatMap_congr h, List.flatMap_singleton' cs]

theorem octet_of_ascii (h : c.toNat < 128) :
    (String.utf8EncodeChar c).map (fun b => Char.ofNat b.toNat) = [c] := by
  have hone : c.val.toNat ≤ 127 := Nat.le_of_lt_succ h
  have hvalue : (UInt8.ofNat c.val.toNat).toNat = c.toNat := by
    rw [UInt8.toNat_ofNat']
    exact Nat.mod_eq_of_lt (by omega)
  simp only [String.utf8EncodeChar, if_pos hone, List.map_cons, List.map_nil]
  rw [show c.val.toNat.toUInt8.toNat = c.toNat from hvalue, Char.ofNat_toNat]

/-- A text of ASCII signs is its octets. -/
theorem octets_of_ascii {s : String} (h : ∀ c ∈ s.toList, c.toNat < 128) :
    octets s = s.toList := by
  rw [octets, Utf8.encode, List.map_flatMap]
  exact flatMap_eq_self fun c hc => octet_of_ascii (h c hc)

end Signs

/-! ## The signs of a stamp -/

/-- The signs of the date. -/
def dateSigns (s : Stamp) : List Char :=
  (padded 4 s.year).toList ++ '-' :: ((padded 2 s.month).toList ++ '-' :: (padded 2 s.day).toList)

/-- The signs of the time of day. -/
def clockSigns (s : Stamp) : List Char :=
  (padded 2 s.hour).toList ++ ':' :: ((padded 2 s.minute).toList ++ ':' ::
    ((padded 2 s.second).toList ++ s.fraction.text.toList))

/-- The signs of an offset behind its mark. -/
def offsetSigns (minutes : Fin 1440) : List Char :=
  (padded 2 (minutes.val / 60)).toList ++ ':' :: (padded 2 (minutes.val % 60)).toList

theorem front_toList (s : Stamp) : s.front.toList = s.dateSigns ++ 'T' :: s.clockSigns := by
  simp [front, dateSigns, clockSigns, String.toList_append]

theorem text_toList_offset (behind : Bool) (minutes : Fin 1440) :
    (Zone.offset behind minutes).text.toList =
      (if behind then '-' else '+') :: offsetSigns minutes := by
  cases behind <;> simp [Zone.text, offsetSigns, String.toList_append]

theorem spells_two (n : Fin 100) : Spells (padded 2 n).toList 2 n :=
  spells_padded n.isLt (by decide)

theorem made_dateSigns (s : Stamp) : Made ['-'] s.dateSigns :=
  ((spells_padded s.year.isLt (by decide)).made _).append <| .cons (by simp) <|
    ((spells_two s.month).made _).append <| .cons (by simp) <| (spells_two s.day).made _

theorem made_fraction (f : Fraction) : Made ['.'] f.text.toList := by
  cases f with
  | none => exact nofun
  | millis n =>
      rw [Fraction.text, String.toList_append]
      exact .cons (List.mem_singleton_self _) ((spells_padded n.isLt (by decide)).made _)
  | micros n =>
      rw [Fraction.text, String.toList_append]
      exact .cons (List.mem_singleton_self _) ((spells_padded n.isLt (by decide)).made _)

theorem made_clockSigns (s : Stamp) : Made [':', '.'] s.clockSigns :=
  ((spells_two s.hour).made _).append <| .cons (by simp) <|
    ((spells_two s.minute).made _).append <| .cons (by simp) <|
      ((spells_two s.second).made _).append <| (made_fraction s.fraction).mono (by simp)

theorem spells_offset (minutes : Fin 1440) :
    Spells (padded 2 (minutes.val / 60)).toList 2 (minutes.val / 60) ∧
      Spells (padded 2 (minutes.val % 60)).toList 2 (minutes.val % 60) := by
  have hlt := minutes.isLt
  exact ⟨spells_padded (by omega) (by decide), spells_padded (by omega) (by decide)⟩

theorem made_offsetSigns (minutes : Fin 1440) : Made [':'] (offsetSigns minutes) :=
  ((spells_offset minutes).1.made _).append <| .cons (by simp) <|
    (spells_offset minutes).2.made _

theorem made_front (s : Stamp) : Made ['-', 'T', ':', '.'] s.front.toList := by
  rw [front_toList]
  exact (s.made_dateSigns.mono (by simp)).append <| .cons (by simp) <|
    s.made_clockSigns.mono (by simp)

theorem made_offset (behind : Bool) (minutes : Fin 1440) :
    Made ['-', '+', ':'] (Zone.offset behind minutes).text.toList := by
  rw [text_toList_offset]
  exact .cons (by cases behind <;> simp) ((made_offsetSigns minutes).mono (by simp))

/-! ## Reading a stamp -/

/-- The mark of universal time as an offset. -/
def Zone.spelled : Zone → Zone
  | universal => offset false 0
  | offset behind minutes => offset behind minutes

theorem Zone.minutes_spelled (z : Zone) : z.spelled.minutes = z.minutes := by
  cases z <;> rfl

/-- The mark of universal time is the only sign that is respelled. -/
theorem spellOffset_text (s : Stamp) :
    Execution.spellOffset s.text = text { s with zone := s.zone.spelled } := by
  have hother : ∀ c : Char, c.isDigit = true →
      (if c = 'Z' then "+00:00".toList else [c]) = [c] := by
    intro c hc
    rw [if_neg (by rintro rfl; cases hc)]
  have hfront := flatMap_eq_self (s.made_front.forall_of hother (by simp))
  rw [Execution.spellOffset, text, String.toList_append, List.flatMap_append, hfront,
    String.ofList_append, String.ofList_toList, text]
  refine congrArg₂ (· ++ ·) rfl ?_
  cases s.zone with
  | universal => rfl
  | offset behind minutes =>
      rw [flatMap_eq_self ((made_offset behind minutes).forall_of hother (by simp)),
        String.ofList_toList]
      rfl

variable {s : Stamp} {behind : Bool} {minutes : Fin 1440}

theorem octets_text (h : s.zone = .offset behind minutes) :
    octets s.text = s.dateSigns ++ 'T' :: (s.clockSigns ++
      (if behind then '-' else '+') :: offsetSigns minutes) := by
  have hdigit : ∀ c : Char, c.isDigit = true → c.toNat < 128 := fun c hc =>
    Nat.lt_of_le_of_lt (Json.range_of_isDigit hc).2 (by decide)
  have htext : s.text.toList = s.front.toList ++ (Zone.offset behind minutes).text.toList := by
    rw [text, String.toList_append, h]
  have hascii : ∀ c ∈ s.text.toList, c.toNat < 128 := by
    rw [htext, List.forall_mem_append]
    exact ⟨s.made_front.forall_of hdigit (by simp),
      (made_offset behind minutes).forall_of hdigit (by simp)⟩
  rw [octets_of_ascii hascii, htext, front_toList, text_toList_offset, List.append_assoc,
    List.cons_append]

theorem length_dateSigns (s : Stamp) : s.dateSigns.length = 10 := by
  have hyear := (spells_padded s.year.isLt (by decide) : Spells _ 4 s.year).length
  simp [dateSigns, hyear, (spells_two s.month).length, (spells_two s.day).length]

/-- The date ends before the sign that parts it from the time of day. -/
theorem dateLength_extended (s : Stamp) (rest : List Char) :
    dateLength (s.dateSigns ++ 'T' :: rest) = 10 := by
  have hyear : (padded 4 s.year).toList.length = 4 :=
    (spells_padded s.year.isLt (by decide) : Spells _ 4 s.year).length
  obtain ⟨c, tail, hmonth, hc⟩ := (spells_two s.month).exists_cons
  have hlength : (s.dateSigns ++ 'T' :: rest).length ≠ 7 := by
    rw [List.length_append, length_dateSigns]
    omega
  have hsigns : s.dateSigns ++ 'T' :: rest =
      (padded 4 s.year).toList ++ '-' :: c :: (tail ++ '-' :: (padded 2 s.day).toList ++
        'T' :: rest) := by
    simp [dateSigns, hmonth]
  have hparted : (s.dateSigns ++ 'T' :: rest)[4]? = some '-' := by
    rw [hsigns, List.getElem?_append_right (by omega), hyear]
    rfl
  have hmonthly : (s.dateSigns ++ 'T' :: rest)[5]? ≠ some 'W' := by
    rw [hsigns, List.getElem?_append_right (by omega), hyear]
    rintro hword
    rw [Option.some.inj hword] at hc
    cases hc
  unfold dateLength
  simp only [if_neg hlength, if_pos hparted, if_neg hmonthly]

/-- The time of day begins with a digit. -/
theorem dropWhile_clockSigns (s : Stamp) (rest : List Char) :
    (s.clockSigns ++ rest).dropWhile isContinuation = s.clockSigns ++ rest := by
  obtain ⟨c, tail, hhour, hc⟩ := (spells_two s.hour).exists_cons
  have hrange := Json.range_of_isDigit hc
  have hfirst : isContinuation c = false := by
    simp [isContinuation]
    omega
  rw [clockSigns, hhour, List.cons_append, List.cons_append, List.dropWhile_cons, hfirst]
  rfl

/-- A stamp with an offset is read as its date, its time of day and its offset where such a date
and such a time exist. -/
theorem ofText?_text (h : s.zone = .offset behind minutes) :
    ofText? s.text = if s.Exists then some s.timestamp else none := by
  have hlength : ¬ s.text.length < 7 := by
    rw [text, String.length_append, ← String.length_toList, front_toList, List.length_append,
      length_dateSigns]
    omega
  have hdate : readDate? s.dateSigns = some s.date :=
    readDate?_extended (spells_padded s.year.isLt (by decide)) (spells_two s.month)
      (spells_two s.day)
  have hclock : takeClock s.clockSigns = some (s.clock, []) :=
    takeClock_extended (spells_two s.hour) (spells_two s.minute) (spells_two s.second) s.fraction
  have hmarks : ∀ x ∈ s.clockSigns, isOffsetMark x = false := by
    refine s.made_clockSigns.forall_of (fun c hc => ?_) (by simp [isOffsetMark])
    simp only [isOffsetMark, Bool.or_eq_false_iff, beq_eq_false_iff_ne]
    constructor <;> rintro rfl <;> cases hc
  have hoffset : readOffset? behind (offsetSigns minutes) = some (s.zone.minutes * 60000000) := by
    rw [h]
    exact readOffset?_minutes behind minutes (spells_offset minutes).1 (spells_offset minutes).2
  have htime := readTime?_offset hclock hmarks hoffset
  have htake (rest : List Char) : (s.dateSigns ++ rest).take 10 = s.dateSigns :=
    List.take_left' s.length_dateSigns
  have hdrop (rest : List Char) : (s.dateSigns ++ rest).drop 10 = rest :=
    List.drop_left' s.length_dateSigns
  unfold ofText?
  rw [if_neg hlength, octets_text h]
  dsimp only
  rw [dateLength_extended, htake, hdrop, hdate]
  simp only [dropWhile_clockSigns, htime, Option.bind_eq_bind, Option.bind_some]
  exact if_congr (by rw [Bool.and_eq_true]; exact ⟨fun h => ⟨h.1, h.2⟩, fun h => ⟨h.date, h.clock⟩⟩)
    rfl rfl

/-- A stamp in the field of a record is read as its date, its time of day and its offset, and one
of a date or a time that does not exist is not read. -/
theorem timestamp?_text (s : Stamp) :
    Execution.timestamp? (.str s.text) = .ok (if s.Exists then some s.timestamp else none) := by
  have hset : (Json.str s.text).truthy = true := by
    have hne : s.text ≠ "" := by
      intro hempty
      have hlength := congrArg (fun t : String => t.toList.length) hempty
      simp [text, front_toList, length_dateSigns] at hlength
    simpa [Json.truthy] using hne
  have hread : ofText? (text { s with zone := s.zone.spelled }) =
      if s.Exists then some s.timestamp else none := by
    obtain ⟨behind, minutes, hzone⟩ :
        ∃ behind minutes, s.zone.spelled = .offset behind minutes := by
      cases s.zone <;> exact ⟨_, _, rfl⟩
    have htimestamp : timestamp { s with zone := s.zone.spelled } = s.timestamp := by
      simp only [timestamp, Zone.minutes_spelled]
      rfl
    rw [ofText?_text (s := { s with zone := s.zone.spelled }) hzone, htimestamp]
    exact if_congr ⟨fun h => ⟨h.date, h.clock⟩, fun h => ⟨h.date, h.clock⟩⟩ rfl rfl
  rw [Execution.timestamp?, if_pos hset, ← hread, ← spellOffset_text]

end Stamp

end Flowgate
