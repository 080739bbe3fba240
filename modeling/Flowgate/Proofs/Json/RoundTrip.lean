import Flowgate.Json.Octets
import Flowgate.Proofs.Json.Writable
import Flowgate.Proofs.Json.Numeral
import Flowgate.Proofs.Text.Utf8

/-! # Bodies that are read back

The compact text of a value is read as the value: keys that are told apart stay in their
order, and every number is spelt so that it is itself again.
-/

namespace Flowgate.Json

/-! ## Texts -/

theorem hexUnit?_hexDigits {n : Nat} (h : n < 0x20) :
    ∃ a b c d, Text.hexDigits 4 n = [a, b, c, d] ∧ hexUnit? a b c d = some n := by
  have hall : ∀ n < 0x20,
      Text.hexDigits 4 n = ['0', '0', (n / 16).digitChar, (n % 16).digitChar] ∧
        hexUnit? '0' '0' (n / 16).digitChar (n % 16).digitChar = some n := by
    decide
  exact ⟨'0', '0', _, _, hall n h⟩

/-- A character is read back from its escape. -/
theorem readText_bodyChar (gathered : List Char) (c : Char) (rest : List Char) :
    readText gathered (bodyChar c ++ rest) = readText (c :: gathered) rest := by
  unfold bodyChar
  cases hescape : shortEscape? c with
  | some e =>
      -- each of these characters has an escape of its own
      unfold shortEscape? at hescape
      repeat' split at hescape
      all_goals cases hescape
      all_goals
        subst_vars
        simp [readText, ofShortEscape?]
  | none =>
      dsimp only
      split
      next hcontrol =>
        obtain ⟨a, b, d, e, hdigits, hunit⟩ := hexUnit?_hexDigits hcontrol
        -- a control character is no surrogate, so no second escape belongs to it
        have hhigh : isHighSurrogate c.toNat = false := by
          simp only [isHighSurrogate, Bool.and_eq_false_iff, decide_eq_false_iff_not]
          omega
        have hlow : isLowSurrogate c.toNat = false := by
          simp only [isLowSurrogate, Bool.and_eq_false_iff, decide_eq_false_iff_not]
          omega
        rw [unitEscape, hdigits]
        simp [readText, hunit, hhigh, hlow, Char.ofNat_toNat]
      next hplain =>
        obtain ⟨hquote, hbackslash⟩ : c ≠ '"' ∧ c ≠ '\\' := by
          constructor <;> rintro rfl <;> cases hescape
        rw [List.singleton_append, readText.eq_def]
        split <;> simp_all

theorem readText_quoteWith (gathered cs rest : List Char) :
    readText gathered (cs.flatMap bodyChar ++ '"' :: rest) =
      some (String.ofList (gathered.reverse ++ cs), rest) := by
  induction cs generalizing gathered with
  | nil => simp [readText]
  | cons c cs ih =>
      rw [List.flatMap_cons, List.append_assoc, readText_bodyChar, ih]
      simp

/-! ## Scalars -/

theorem ne_of_isDigit {c other : Char} (h : c.isDigit = true) (hother : other.isDigit = false) :
    c ≠ other := by
  rintro rfl
  cases h.symm.trans hother

/-- A text that begins like a number: a digit, or a minus sign and a digit. -/
def BeginsNumber (cs : List Char) : Prop :=
  ∃ (negative : Bool) (c : Char) (tail : List Char), c.isDigit = true ∧
    cs = (if negative then ['-'] else []) ++ c :: tail

theorem beginsNumber_toString (i : Int) : BeginsNumber (toString i).toList := by
  have hall := isDigits_toDigits i.natAbs
  obtain ⟨c, tail, hdigits⟩ := List.exists_cons_of_ne_nil hall.ne_nil
  refine ⟨decide (i < 0), c, tail, hall.all c (by simp [hdigits]), ?_⟩
  rw [toList_toString, hdigits]

theorem beginsNumber_render {x : Binary64} (hfinite : x.isFinite = true) :
    BeginsNumber (numberFormat.render x).toList := by
  obtain ⟨s, hnumeral, -, hrender, -⟩ := exists_spelling_render hfinite
  obtain ⟨c, tail, hwhole⟩ := List.exists_cons_of_ne_nil hnumeral.whole.ne_nil
  obtain ⟨more, htext⟩ : ∃ more, s.text = c :: more := ⟨_, by rw [Spelling.text, hwhole]; rfl⟩
  exact ⟨x.negative, c, more, hnumeral.whole.all c (by simp [hwhole]), by rw [hrender, htext]⟩

/-- What begins like a number is read as one: no word and no other value begins so. -/
theorem readValue_number {cs : List Char} (h : BeginsNumber cs) (fuel : Nat) (rest : List Char) :
    readValue (fuel + 1) (cs ++ rest) = readNumber (cs ++ rest) := by
  obtain ⟨negative, c, tail, hdigit, rfl⟩ := h
  have hne (other : Char) (hother : other.isDigit = false) : c ≠ other :=
    ne_of_isDigit hdigit hother
  have hscalar : readScalar ((if negative then ['-'] else []) ++ c :: tail ++ rest) =
      readNumber ((if negative then ['-'] else []) ++ c :: tail ++ rest) := by
    have hwords : words.findSome? (fun word =>
        (dropWord? word.1 ((if negative then ['-'] else []) ++ c :: tail ++ rest)).map
          (word.2, ·)) = none := by
      have hn := hne 'n' rfl
      have ht := hne 't' rfl
      have hf := hne 'f' rfl
      have hN := hne 'N' rfl
      have hI := hne 'I' rfl
      have hminus := hne '-' rfl
      cases negative <;>
        simp [words, dropWord?, hn.symm, ht.symm, hf.symm, hN.symm, hI.symm, hminus.symm]
    unfold readScalar
    split
    next hfound => cases hwords.symm.trans hfound
    next => rfl
  rw [← hscalar]
  -- a text, a list or an object would begin with a mark, and a number does not
  cases negative <;> unfold readValue <;> split <;> simp_all

/-! ## Values -/

/-- A text that begins a value: in front there is no blank, no closing bracket and no byte
order mark. -/
def Begins (cs : List Char) : Prop :=
  ∃ c tail, cs = c :: tail ∧ isGap c = false ∧ ∀ mark ∈ [']', '}', '\uFEFF'], c ≠ mark

theorem Begins.append {cs : List Char} (h : Begins cs) (more : List Char) :
    Begins (cs ++ more) := by
  obtain ⟨c, tail, rfl, hc⟩ := h
  exact ⟨c, tail ++ more, rfl, hc⟩

theorem Begins.skipGap {cs : List Char} (h : Begins cs) : skipGap cs = cs := by
  obtain ⟨c, tail, rfl, hgap, -⟩ := h
  simp [Json.skipGap, hgap]

theorem BeginsNumber.begins {cs : List Char} (h : BeginsNumber cs) : Begins cs := by
  obtain ⟨negative, c, tail, hdigit, rfl⟩ := h
  cases negative with
  | true => exact ⟨'-', c :: tail, rfl, by decide, by simp⟩
  | false =>
      refine ⟨c, tail, rfl, by simp [isGap, ne_of_isDigit hdigit], ?_⟩
      simp [ne_of_isDigit hdigit]

/-- The text of a value begins a value and is read back, whatever ends it. -/
structure ReadsBack (v : Json) : Prop where
  begins : Begins (compact v)
  read : ∀ fuel rest, 2 * (compact v).length ≤ fuel → Ends rest →
    readValue fuel (compact v ++ rest) = some (v, rest)

theorem readsBack_of_scalar {v : Json} (hbegins : Begins (compact v))
    (hread : ∀ fuel rest, Ends rest → readValue (fuel + 1) (compact v ++ rest) = some (v, rest)) :
    ReadsBack v where
  begins := hbegins
  read fuel rest hfuel hrest := by
    obtain ⟨c, tail, hcompact, -⟩ := hbegins
    obtain ⟨less, rfl⟩ : ∃ less, fuel = less + 1 := by
      refine Nat.exists_eq_add_one.mpr ?_
      rw [hcompact, List.length_cons] at hfuel
      omega
    exact hread less rest hrest

section Items

variable {items : List Json}

theorem begins_compactItems {v : Json} (h : ReadsBack v) (rest : List Json) :
    Begins (compactItems (v :: rest)) := by
  cases rest with
  | nil => exact h.begins
  | cons w rest => exact h.begins.append _

/-- Items are read up to the closing bracket. -/
theorem readItems_compactItems (hne : items ≠ []) (hitems : ∀ v ∈ items, ReadsBack v)
    {fuel : Nat} (hfuel : 2 * (compactItems items).length + 1 ≤ fuel) (rest : List Char) :
    readItems fuel (compactItems items ++ ']' :: rest) = some (items, rest) := by
  induction items generalizing fuel with
  | nil => exact absurd rfl hne
  | cons v more ih =>
      obtain ⟨hv, hmore⟩ := List.forall_mem_cons.mp hitems
      obtain ⟨less, rfl⟩ : ∃ less, fuel = less + 1 := Nat.exists_eq_add_one.mpr (by omega)
      cases more with
      | nil =>
          have hread := hv.read less (']' :: rest)
            (by simp only [compactItems] at hfuel; omega) (by simp [Ends])
          simp only [compactItems, readItems, hread, Option.bind_eq_bind, Option.bind_some]
          rfl
      | cons w more =>
          have hlength : (compactItems (v :: w :: more)).length =
              (compact v).length + (1 + (compactItems (w :: more)).length) := by
            simp [compactItems, Nat.add_comm]
          have hread := hv.read less (',' :: (compactItems (w :: more) ++ ']' :: rest))
            (by omega) (by simp [Ends])
          have hbegins := (begins_compactItems (List.forall_mem_cons.mp hmore).1 more).append
            (']' :: rest)
          have hrest : readItems less (compactItems (w :: more) ++ ']' :: rest) =
              some (w :: more, rest) := ih (List.cons_ne_nil w more) hmore (by omega)
          have htext : compactItems (v :: w :: more) ++ ']' :: rest =
              compact v ++ ',' :: (compactItems (w :: more) ++ ']' :: rest) := by
            simp [compactItems]
          have hcomma (cs : List Char) : skipGap (',' :: cs) = ',' :: cs := rfl
          simp only [htext, readItems, hread, hcomma, hbegins.skipGap, hrest, Option.bind_eq_bind,
            Option.bind_some]

end Items

section Fields

variable {before fields : List (String × Json)}

theorem setField_of_not_mem {key : String} {v : Json} (h : key ∉ before.map Prod.fst) :
    setField key v before = before ++ [(key, v)] := by
  induction before with
  | nil => rfl
  | cons field rest ih =>
      rw [List.map_cons, List.mem_cons, not_or] at h
      rw [setField, if_neg (Ne.symm h.1), ih h.2]
      rfl

theorem readText_key (key : String) (rest : List Char) :
    quoteWith bodyChar key ++ rest = '"' :: (key.toList.flatMap bodyChar ++ '"' :: rest) ∧
      readText [] (key.toList.flatMap bodyChar ++ '"' :: rest) = some (key, rest) := by
  refine ⟨by simp [quoteWith], ?_⟩
  rw [readText_quoteWith]
  simp

theorem begins_compactFields (field : String × Json) (rest : List (String × Json)) :
    Begins (compactFields (field :: rest)) := by
  cases rest with
  | nil => exact ⟨'"', _, rfl, by decide, by simp⟩
  | cons next rest => exact ⟨'"', _, rfl, by decide, by simp⟩

/-- A field is read, and a closing brace behind it ends the object or a comma leads on. -/
theorem readFields_field {key : String} {v : Json} (hv : ReadsBack v)
    (hnew : key ∉ before.map Prod.fst) {fuel : Nat} (hfuel : 2 * (compact v).length ≤ fuel)
    (rest : List Char) :
    readFields (fuel + 1) before (quoteWith bodyChar key ++ ':' :: (compact v ++ '}' :: rest)) =
        some (before ++ [(key, v)], rest) ∧
      readFields (fuel + 1) before (quoteWith bodyChar key ++ ':' :: (compact v ++ ',' :: rest)) =
        readFields fuel (before ++ [(key, v)]) (skipGap rest) := by
  have hmark (c : Char) (cs : List Char) (hc : isGap c = false) : skipGap (c :: cs) = c :: cs := by
    simp [skipGap, hc]
  constructor
  · obtain ⟨hquote, hkey⟩ := readText_key key (':' :: (compact v ++ '}' :: rest))
    have hread := hv.read fuel ('}' :: rest) hfuel (by simp [Ends])
    rw [hquote]
    simp only [readFields, hkey, hmark ':' _ rfl, hmark '}' _ rfl, (hv.begins.append _).skipGap,
      hread, Option.bind_eq_bind, Option.bind_some, setField_of_not_mem hnew]
  · obtain ⟨hquote, hkey⟩ := readText_key key (':' :: (compact v ++ ',' :: rest))
    have hread := hv.read fuel (',' :: rest) hfuel (by simp [Ends])
    rw [hquote]
    simp only [readFields, hkey, hmark ':' _ rfl, hmark ',' _ rfl, (hv.begins.append _).skipGap,
      hread, Option.bind_eq_bind, Option.bind_some, setField_of_not_mem hnew]

/-- Fields are read up to the closing brace, behind those before them. -/
theorem readFields_compactFields (hne : fields ≠ []) (hfields : ∀ kv ∈ fields, ReadsBack kv.2)
    (hkeys : ((before ++ fields).map Prod.fst).Nodup) {fuel : Nat}
    (hfuel : 2 * (compactFields fields).length + 1 ≤ fuel) (rest : List Char) :
    readFields fuel before (compactFields fields ++ '}' :: rest) =
      some (before ++ fields, rest) := by
  induction fields generalizing before fuel with
  | nil => exact absurd rfl hne
  | cons field more ih =>
      obtain ⟨key, v⟩ := field
      obtain ⟨hv, hmore⟩ := List.forall_mem_cons.mp hfields
      have hv : ReadsBack v := hv
      obtain ⟨less, rfl⟩ : ∃ less, fuel = less + 1 := Nat.exists_eq_add_one.mpr (by omega)
      have hnew : key ∉ before.map Prod.fst := by
        rw [List.map_append, List.map_cons, List.nodup_middle, List.nodup_cons] at hkeys
        exact fun hmem => hkeys.1 (List.mem_append_left _ hmem)
      cases more with
      | nil =>
          have hlength : (compactFields [(key, v)]).length =
              (quoteWith bodyChar key).length + (1 + (compact v).length) := by
            simp [compactFields, Nat.add_comm]
          have htext : compactFields [(key, v)] ++ '}' :: rest =
              quoteWith bodyChar key ++ ':' :: (compact v ++ '}' :: rest) := by
            simp [compactFields]
          rw [htext]
          exact (readFields_field hv hnew (by omega) rest).1
      | cons next more =>
          have hlength : (compactFields ((key, v) :: next :: more)).length =
              (quoteWith bodyChar key).length + (1 + ((compact v).length +
                (1 + (compactFields (next :: more)).length))) := by
            simp [compactFields, Nat.add_comm, Nat.add_left_comm]
          have htext : compactFields ((key, v) :: next :: more) ++ '}' :: rest =
              quoteWith bodyChar key ++ ':' ::
                (compact v ++ ',' :: (compactFields (next :: more) ++ '}' :: rest)) := by
            simp [compactFields]
          have hgap : skipGap (compactFields (next :: more) ++ '}' :: rest) =
              compactFields (next :: more) ++ '}' :: rest :=
            ((begins_compactFields next more).append _).skipGap
          have hrest : readFields less (before ++ [(key, v)])
              (compactFields (next :: more) ++ '}' :: rest) =
                some (before ++ [(key, v)] ++ next :: more, rest) :=
            ih (List.cons_ne_nil next more) hmore (by simpa using hkeys) (by omega)
          rw [htext, (readFields_field hv hnew (by omega) _).2, hgap, hrest, List.append_assoc]
          rfl

end Fields

variable {v : Json}

theorem readsBack_arr {items : List Json} (hitems : ∀ v ∈ items, ReadsBack v) :
    ReadsBack (arr items) where
  begins := ⟨'[', _, rfl, by decide, by simp⟩
  read fuel rest hfuel hrest := by
    rw [compact, List.length_cons, List.length_append, List.length_singleton] at hfuel
    obtain ⟨less, rfl⟩ : ∃ less, fuel = less + 1 := Nat.exists_eq_add_one.mpr (by omega)
    have htext : compact (arr items) ++ rest = '[' :: (compactItems items ++ ']' :: rest) := by
      simp [compact]
    rw [htext]
    cases items with
    | nil => rfl
    | cons v more =>
        have hbegins := begins_compactItems (List.forall_mem_cons.mp hitems).1 more
        have hgap := (hbegins.append (']' :: rest)).skipGap
        have hread : readItems less (compactItems (v :: more) ++ ']' :: rest) =
            some (v :: more, rest) :=
          readItems_compactItems (List.cons_ne_nil v more) hitems (by omega) rest
        obtain ⟨c, tail, hcompact, -, hc⟩ := hbegins
        simp only [readValue, hgap]
        split
        next heq =>
          rw [hcompact] at heq
          exact absurd (List.cons.inj heq).1 (hc ']' (by simp))
        next => rw [hread, Option.map_some]

theorem readsBack_obj {fields : List (String × Json)} (hkeys : (fields.map Prod.fst).Nodup)
    (hfields : ∀ kv ∈ fields, ReadsBack kv.2) : ReadsBack (obj fields) where
  begins := ⟨'{', _, rfl, by decide, by simp⟩
  read fuel rest hfuel hrest := by
    rw [compact, List.length_cons, List.length_append, List.length_singleton] at hfuel
    obtain ⟨less, rfl⟩ : ∃ less, fuel = less + 1 := Nat.exists_eq_add_one.mpr (by omega)
    have htext : compact (obj fields) ++ rest = '{' :: (compactFields fields ++ '}' :: rest) := by
      simp [compact]
    rw [htext]
    cases fields with
    | nil => rfl
    | cons field more =>
        have hbegins := begins_compactFields field more
        have hgap := (hbegins.append ('}' :: rest)).skipGap
        have hread : readFields less [] (compactFields (field :: more) ++ '}' :: rest) =
            some (field :: more, rest) :=
          readFields_compactFields (List.cons_ne_nil field more) hfields hkeys (by omega) rest
        obtain ⟨c, tail, hcompact, -, hc⟩ := hbegins
        simp only [readValue, hgap]
        split
        next heq =>
          rw [hcompact] at heq
          exact absurd (List.cons.inj heq).1 (hc '}' (by simp))
        next => rw [hread, Option.map_some]

theorem readsBack_str (s : String) : ReadsBack (str s) := by
  refine readsBack_of_scalar ⟨'"', _, rfl, by decide, by simp⟩ fun fuel rest _ => ?_
  obtain ⟨hquote, hkey⟩ := readText_key s rest
  rw [compact, hquote]
  simp only [readValue, hkey, Option.map_some]

/-- What can be written is read back, if every key stands once. -/
theorem readsBack (hkeys : v.UniqueKeys) (hwritable : v.isWritable = true) : ReadsBack v := by
  induction hkeys with
  | null =>
      exact readsBack_of_scalar ⟨'n', _, rfl, by decide, by simp⟩ fun _ _ _ => rfl
  | bool b =>
      cases b with
      | true =>
          exact readsBack_of_scalar ⟨'t', _, rfl, by decide, by simp⟩ fun _ _ _ => rfl
      | false =>
          exact readsBack_of_scalar ⟨'f', _, rfl, by decide, by simp⟩ fun _ _ _ => rfl
  | int i =>
      rw [isWritable_int, isShort, decide_eq_true_iff] at hwritable
      have hbegins := beginsNumber_toString i
      refine readsBack_of_scalar hbegins.begins fun fuel rest hrest => ?_
      exact (readValue_number hbegins fuel rest).trans (readNumber_int hrest hwritable)
  | float x =>
      have hfinite : x.isFinite = true := (isWritable_float x).symm.trans hwritable
      have hbegins := beginsNumber_render hfinite
      refine readsBack_of_scalar hbegins.begins fun fuel rest hrest => ?_
      exact (readValue_number hbegins fuel rest).trans (readNumber_float hfinite hrest)
  | str s => exact readsBack_str s
  | arr _ ih =>
      rw [isWritable_arr] at hwritable
      exact readsBack_arr fun v hv => ih v hv (hwritable v hv)
  | obj hnodup _ ih =>
      rw [isWritable_obj] at hwritable
      exact readsBack_obj hnodup fun kv hkv => ih kv hkv (hwritable kv hkv)

/-- A body is the value again. -/
theorem read?_body {text : String} (hkeys : v.UniqueKeys) (hbody : v.body = .ok text) :
    Encoding.utf8.read? (Utf8.encode text) = some v := by
  obtain ⟨hwritable, htext⟩ := body_eq_ok.mp hbody
  obtain ⟨hbegins, hread⟩ := readsBack hkeys hwritable
  have hdecode : Utf8.decode? (Utf8.encode text) = some (compact v) := by
    rw [Utf8.decode?_encode, ← htext, String.toList_ofList]
  have hvalue : readValue (2 * (compact v).length + 2) (compact v) = some (v, []) := by
    have hwhole := hread (2 * (compact v).length + 2) [] (by omega) (by simp [Ends])
    rwa [List.append_nil] at hwhole
  have hparse : parse? (compact v) = some v := by
    rw [parse?, hbegins.skipGap, hvalue]
    rfl
  obtain ⟨c, tail, hcompact, -, hc⟩ := hbegins
  rw [Encoding.read?, Encoding.decode?, hdecode]
  split
  next heq =>
    rw [hcompact] at heq
    exact absurd (List.cons.inj (Option.some.inj heq)).1 (hc '\uFEFF' (by simp))
  next cs _ heq => rw [← Option.some.inj heq, hparse]
  next heq => cases heq

/-! ## Values that can be sent -/

/-- A value that can be sent: each key stands once, and all its numbers can be written. -/
structure IsSendable (v : Json) : Prop where
  keys : v.UniqueKeys
  writable : v.isWritable = true

namespace IsSendable

variable {items : List Json} {fields : List (String × Json)} {v : Json}

theorem null : IsSendable null := ⟨.null, rfl⟩

theorem bool (b : Bool) : IsSendable (bool b) := ⟨.bool b, rfl⟩

theorem arr (h : ∀ v ∈ items, IsSendable v) : IsSendable (arr items) :=
  ⟨.arr fun v hv => (h v hv).keys, isWritable_arr.mpr fun v hv => (h v hv).writable⟩

theorem obj (hkeys : (fields.map Prod.fst).Nodup) (h : ∀ field ∈ fields, IsSendable field.2) :
    IsSendable (obj fields) :=
  ⟨.obj hkeys fun field hfield => (h field hfield).keys,
    isWritable_obj.mpr fun field hfield => (h field hfield).writable⟩

/-- A field of an object, or what stands for it where there is none. -/
theorem getD_lookup (h : IsSendable (Json.obj fields)) (key : String) {default : Json}
    (hdefault : default.IsSendable) : ((fields.lookup key).getD default).IsSendable := by
  cases hlookup : fields.lookup key with
  | none => exact hdefault
  | some v =>
      obtain ⟨hkeys, hwritable⟩ := h
      have hmem := mem_of_lookup hlookup
      cases hkeys with
      | obj _ hfields => exact ⟨hfields _ hmem, isWritable_obj.mp hwritable _ hmem⟩

/-- What is sent of a value is read as the value. -/
theorem exists_body (h : v.IsSendable) : ∃ text, v.body = .ok text ∧
    Encoding.utf8.read? (Utf8.encode text) = some v := by
  obtain ⟨text, hbody⟩ := Json.exists_body h.writable
  exact ⟨text, hbody, read?_body h.keys hbody⟩

end IsSendable

end Flowgate.Json
