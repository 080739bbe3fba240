import Flowgate.Engine.Link
import Flowgate.Proofs.Json.RoundTrip
import Mathlib.Data.Nat.Digits.Defs

/-! # Values as they are read

A reader leaves each key of an object once and refuses integers with too many digits. So what is
read can be written and read again, whatever text it was read from.
-/

namespace Flowgate.Json

/-- Each key stands once, and every integer can be written out. -/
structure IsTidy (v : Json) : Prop where
  keys : v.UniqueKeys
  short : v.textFlaw? = none

namespace IsTidy

variable {items : List Json} {fields : List (String × Json)} {v : Json}

theorem null : IsTidy null := ⟨.null, rfl⟩

theorem bool (b : Bool) : IsTidy (bool b) := ⟨.bool b, rfl⟩

theorem float (x : Binary64) : IsTidy (float x) := ⟨.float x, rfl⟩

theorem str (s : String) : IsTidy (str s) := ⟨.str s, rfl⟩

theorem arr (h : ∀ v ∈ items, IsTidy v) : IsTidy (arr items) :=
  ⟨.arr fun v hv => (h v hv).keys, firstFlaw?_arr.mpr fun v hv => (h v hv).short⟩

theorem obj (hkeys : (fields.map Prod.fst).Nodup) (h : ∀ field ∈ fields, IsTidy field.2) :
    IsTidy (obj fields) :=
  ⟨.obj hkeys fun field hfield => (h field hfield).keys,
    textFlaw?_obj.mpr fun field hfield => (h field hfield).short⟩

theorem of_field (h : IsTidy (Json.obj fields)) {field : String × Json} (hfield : field ∈ fields) :
    IsTidy field.2 := by
  obtain ⟨hkeys, hshort⟩ := h
  cases hkeys with
  | obj _ hfields => exact ⟨hfields field hfield, textFlaw?_obj.mp hshort field hfield⟩

theorem of_item (h : IsTidy (Json.arr items)) : ∀ v ∈ items, IsTidy v := by
  obtain ⟨hkeys, hshort⟩ := h
  cases hkeys with
  | arr hitems => exact fun v hv => ⟨hitems v hv, firstFlaw?_arr.mp hshort v hv⟩

end IsTidy

/-! ## Integers -/

theorem natAbs_applySign (negative : Bool) (n : Nat) :
    (Numeral.applySign negative n).natAbs = n := by
  cases negative <;> simp [Numeral.applySign]

theorem all_isDigit_of_spanDigits {cs digits rest : List Char}
    (h : spanDigits cs = (digits, rest)) : ∀ c ∈ digits, c.isDigit = true := by
  rw [spanDigits, List.span_eq_takeWhile_dropWhile] at h
  rw [← (Prod.mk.inj h).1]
  exact fun c hc => List.mem_takeWhile_imp hc

theorem isDigits_of_readWhole {cs digits rest : List Char}
    (h : readWhole cs = some (digits, rest)) : IsDigits digits := by
  unfold readWhole at h
  split at h
  next =>
    cases h
    exact ⟨List.cons_ne_nil _ _, List.forall_mem_singleton.mpr rfl⟩
  next =>
    split at h
    next => cases h
    next hne hspan =>
      cases h
      exact ⟨hne, all_isDigit_of_spanDigits hspan⟩

theorem isTidy_of_numberOf {negative : Bool} {whole fraction : List Char}
    {exponent : Option (Bool × List Char)} {v : Json} (hwhole : IsDigits whole)
    (h : numberOf negative whole fraction exponent = some v) : IsTidy v := by
  unfold numberOf at h
  split at h
  · split at h
    next hlimit =>
      cases h
      have hpositive : 0 < whole.length := List.length_pos_iff.mpr hwhole.ne_nil
      have hlength := Nat.toDigits_length 10 _ _ hpositive (digitsValue_lt hwhole.all)
      refine ⟨.int _, ?_⟩
      rw [textFlaw?_int, integerFlaw?, isShort, natAbs_applySign,
        decide_eq_true (hlength.trans hlimit), if_pos rfl]
    next => cases h
  · cases h
    exact .float _

theorem isTidy_of_readNumber {cs rest : List Char} {v : Json}
    (h : readNumber cs = some (v, rest)) : IsTidy v := by
  unfold readNumber at h
  simp only [Option.bind_eq_bind, Option.bind_eq_some_iff] at h
  obtain ⟨⟨whole, behind⟩, hwhole, w, hnumber, heq⟩ := h
  cases heq
  exact isTidy_of_numberOf (isDigits_of_readWhole hwhole) hnumber

theorem isTidy_of_readScalar {cs rest : List Char} {v : Json}
    (h : readScalar cs = some (v, rest)) : IsTidy v := by
  unfold readScalar at h
  split at h
  next found hfound =>
    cases h
    obtain ⟨⟨word, w⟩, hword, hdrop⟩ := List.exists_of_findSome?_eq_some hfound
    obtain ⟨_, -, heq⟩ := Option.map_eq_some_iff.mp hdrop
    cases heq
    have hwords : ∀ entry ∈ words, IsTidy entry.2 := by
      simp only [words, List.forall_mem_cons]
      exact ⟨.null, .bool true, .bool false, .float _, .float _, .float _,
        List.forall_mem_nil _⟩
    exact hwords _ hword
  next => exact isTidy_of_readNumber h

/-! ## Fields -/

theorem keys_setField (key : String) (v : Json) (fields : List (String × Json)) :
    (setField key v fields).map Prod.fst =
      if key ∈ fields.map Prod.fst then fields.map Prod.fst
      else fields.map Prod.fst ++ [key] := by
  induction fields with
  | nil => rfl
  | cons field rest ih =>
      obtain ⟨k, w⟩ := field
      by_cases hk : k = key
      · simp [setField, hk]
      · simp only [setField, hk, if_false, List.map_cons, ih, List.mem_cons, Ne.symm hk, false_or]
        split <;> simp

theorem eq_or_mem_of_mem_setField {key : String} {v : Json} {fields : List (String × Json)}
    {field : String × Json} (h : field ∈ setField key v fields) :
    field.2 = v ∨ field ∈ fields := by
  induction fields with
  | nil => exact .inl (congrArg Prod.snd (List.mem_singleton.mp h))
  | cons first rest ih =>
      obtain ⟨k, w⟩ := first
      rw [setField] at h
      split at h
      · rcases List.mem_cons.mp h with rfl | hrest
        · exact .inl rfl
        · exact .inr (List.mem_cons_of_mem _ hrest)
      · rcases List.mem_cons.mp h with rfl | hset
        · exact .inr List.mem_cons_self
        · exact (ih hset).imp_right (List.mem_cons_of_mem _)

/-- A key that is set again stays where it stands. -/
theorem IsTidy.setField {key : String} {v : Json} {fields : List (String × Json)}
    (hfields : IsTidy (Json.obj fields)) (hv : IsTidy v) :
    IsTidy (Json.obj (Json.setField key v fields)) := by
  have hkeys : (fields.map Prod.fst).Nodup := by
    cases hfields.keys with
    | obj hkeys _ => exact hkeys
  refine .obj ?_ fun field hfield => ?_
  · rw [keys_setField]
    split
    next => exact hkeys
    next hnew =>
      rw [← List.concat_eq_append]
      exact hkeys.concat hnew
  · rcases eq_or_mem_of_mem_setField hfield with heq | hmem
    · exact heq ▸ hv
    · exact hfields.of_field hmem

/-! ## Readers -/

/-- All that the readers of nested values find under a bound is tidy. -/
structure Tidies (fuel : Nat) : Prop where
  value : ∀ {cs v rest}, readValue fuel cs = some (v, rest) → IsTidy v
  items : ∀ {cs items rest}, readItems fuel cs = some (items, rest) → IsTidy (arr items)
  fields : ∀ {before cs fields rest}, readFields fuel before cs = some (fields, rest) →
    IsTidy (obj before) → IsTidy (obj fields)

variable {fuel : Nat}

theorem Tidies.readValue (h : Tidies fuel) {cs rest : List Char} {v : Json}
    (hread : Json.readValue (fuel + 1) cs = some (v, rest)) : IsTidy v := by
  unfold Json.readValue at hread
  split at hread
  · obtain ⟨_, -, heq⟩ := Option.map_eq_some_iff.mp hread
    cases heq
    exact .str _
  · split at hread
    · cases hread
      exact .arr (List.forall_mem_nil _)
    · obtain ⟨_, hitems, heq⟩ := Option.map_eq_some_iff.mp hread
      cases heq
      exact h.items hitems
  · split at hread
    · cases hread
      exact .obj List.nodup_nil (List.forall_mem_nil _)
    · obtain ⟨_, hfields, heq⟩ := Option.map_eq_some_iff.mp hread
      cases heq
      exact h.fields hfields (.obj List.nodup_nil (List.forall_mem_nil _))
  · exact isTidy_of_readScalar hread

theorem Tidies.readItems (h : Tidies fuel) {cs rest : List Char} {items : List Json}
    (hread : Json.readItems (fuel + 1) cs = some (items, rest)) : IsTidy (arr items) := by
  unfold Json.readItems at hread
  obtain ⟨⟨v, behind⟩, hv, hread⟩ := Option.bind_eq_some_iff.mp hread
  have hv : IsTidy v := h.value hv
  dsimp only at hread
  split at hread
  · cases hread
    exact .arr (List.forall_mem_singleton.mpr hv)
  · obtain ⟨⟨more, _⟩, hmore, heq⟩ := Option.bind_eq_some_iff.mp hread
    cases heq
    exact .arr (List.forall_mem_cons.mpr ⟨hv, (h.items hmore).of_item⟩)
  · cases hread

theorem Tidies.readFields (h : Tidies fuel) {before fields : List (String × Json)}
    {cs rest : List Char} (hread : Json.readFields (fuel + 1) before cs = some (fields, rest))
    (hbefore : IsTidy (obj before)) : IsTidy (obj fields) := by
  unfold Json.readFields at hread
  split at hread
  · obtain ⟨⟨key, behind⟩, -, hread⟩ := Option.bind_eq_some_iff.mp hread
    dsimp only at hread
    split at hread
    · obtain ⟨⟨v, behind⟩, hv, hread⟩ := Option.bind_eq_some_iff.mp hread
      have hset : IsTidy (obj (setField key v before)) := hbefore.setField (h.value hv)
      dsimp only at hread
      split at hread
      · cases hread
        exact hset
      · exact h.fields hread hset
      · cases hread
    · cases hread
  · cases hread

/-- Whatever the bound is, what the readers find is tidy. -/
theorem tidies (fuel : Nat) : Tidies fuel := by
  induction fuel with
  | zero => exact ⟨nofun, nofun, nofun⟩
  | succ fuel ih => exact ⟨ih.readValue, ih.readItems, ih.readFields⟩

/-! ## Texts and bodies -/

theorem isTidy_of_parse? {cs : List Char} {v : Json} (h : parse? cs = some v) : IsTidy v := by
  unfold parse? at h
  split at h
  next _ _ hread =>
    split at h
    · cases h
      exact (tidies _).value hread
    · cases h
  next => cases h

theorem isTidy_of_read? {encoding : Encoding} {bytes : List UInt8} {v : Json}
    (h : encoding.read? bytes = some v) : IsTidy v := by
  unfold Encoding.read? at h
  split at h
  · exact isTidy_of_parse? h
  · exact isTidy_of_parse? h
  · cases h

/-- What the body of an answer says is tidy, in whichever encoding it is. -/
theorem isTidy_body (status : Int) (content : List UInt8) :
    (Response.ofOctets status content).body.IsTidy := by
  unfold Response.body Response.ofOctets
  dsimp only
  split
  · exact .obj List.nodup_nil (List.forall_mem_nil _)
  · cases hread : ofOctets? content with
    | some v => exact isTidy_of_read? hread
    | none => exact .obj (List.nodup_singleton _) (List.forall_mem_singleton.mpr (.str _))

end Flowgate.Json
