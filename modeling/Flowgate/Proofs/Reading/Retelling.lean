import Flowgate.Proofs.Json.Fields
import Flowgate.Proofs.Reading.Success

/-! # Readings with places told otherwise

An issue names the key under which a value was found, so two spellings of one field give issues at
two places. Readings are compared here with every step of their places told by one function.
-/

namespace Flowgate.Reading

variable {α β : Type} (tell : Step → Step)

/-- A reading with every step of its places told otherwise. -/
def retell (reading : Reading α) : Reading α :=
  reading.mapError fun issues =>
    issues.map fun issue => { issue with location := issue.location.map tell }

/-- What a reader finds of a field: the step that leads there, and the value. -/
def found (names : List String) (fields : List (String × Json)) : Option (Step × Json) :=
  (fieldUnder names fields).map fun (key, v) => (tell (.key key), v)

theorem retell_id (reading : Reading α) : retell id reading = reading := by
  cases reading <;> simp [retell, Except.mapError]

variable {tell}

theorem eq_ok_of_retell {x : α} {first second : Reading α}
    (h : retell tell first = retell tell second) : first = .ok x ↔ second = .ok x := by
  cases first <;> cases second <;> simp_all [retell, Except.mapError]

theorem retell_within (step : Step) (reading : Reading α) :
    retell tell (within step reading) = within (tell step) (retell tell reading) := by
  cases reading <;> simp [retell, within, Except.mapError]

theorem retell_map (f : α → β) (reading : Reading α) :
    retell tell (reading.map f) = (retell tell reading).map f := by
  cases reading <;> rfl

theorem retell_ap (f : Reading (α → β)) (reading : Reading α) :
    retell tell (ap f reading) = ap (retell tell f) (retell tell reading) := by
  cases f <;> cases reading <;> simp [retell, ap, Except.mapError]

variable {read : Json → Reading α}

theorem retell_optional (names : List String) (absent : α) (fields : List (String × Json)) :
    retell tell (optional names absent read fields) =
      match found tell names fields with
      | some (step, v) => within step (retell tell (read v))
      | none => .ok absent := by
  unfold optional found
  cases fieldUnder names fields with
  | none => rfl
  | some field => exact retell_within _ _

/-- What is found of a field hangs on what stands under its names. -/
theorem found_congr {names : List String} {fields others : List (String × Json)}
    (h : ∀ name ∈ names, fields.lookup name = others.lookup name) :
    found tell names fields = found tell names others := by
  have hunder : fieldUnder names fields = fieldUnder names others := by
    unfold fieldUnder
    induction names with
    | nil => rfl
    | cons name rest ih =>
        rw [List.forall_mem_cons] at h
        rw [List.findSome?_cons, List.findSome?_cons, h.1, ih h.2]
  rw [found, found, hunder]

/-- A field that must be there has one name, so that finding the same is holding the same. -/
theorem required_congr {name : String} {fields others : List (String × Json)}
    (h : found tell [name] fields = found tell [name] others) :
    required name read fields = required name read others := by
  simp only [found, fieldUnder_one, Option.map_map] at h
  have hlookup : fields.lookup name = others.lookup name :=
    Option.map_injective (fun _ _ hpair => (Prod.mk.inj hpair).2) h
  rw [required, required, hlookup]

theorem optional_congr {names : List String} {absent : α} {fields others : List (String × Json)}
    (h : found tell names fields = found tell names others) :
    retell tell (optional names absent read fields) =
      retell tell (optional names absent read others) := by
  rw [retell_optional, retell_optional, h]

/-- A field of another name does not show the value of a key. -/
theorem optional_congr_of_ne {name key : String} {absent : α} (h : name ≠ key) (v w : Json)
    (before after : List (String × Json)) :
    retell tell (optional [name] absent read (before ++ (key, v) :: after)) =
      retell tell (optional [name] absent read (before ++ (key, w) :: after)) := by
  apply optional_congr
  apply found_congr
  intro other hother
  rw [List.mem_singleton.mp hother, Json.lookup_insert_of_ne h, Json.lookup_insert_of_ne h]

/-- A value may be exchanged for another that is read alike. -/
theorem optional_value_congr {key : String} {absent : α} {v w : Json}
    (h : retell tell (read v) = retell tell (read w)) (before after : List (String × Json)) :
    retell tell (optional [key] absent read (before ++ (key, v) :: after)) =
      retell tell (optional [key] absent read (before ++ (key, w) :: after)) := by
  simp only [retell_optional, found, fieldUnder_one, Json.lookup_insert_self]
  cases before.lookup key with
  | none => exact congrArg (within _) h
  | some earlier => rfl

/-- A list in which one item was exchanged for another that is read alike is read alike. -/
theorem itemsFrom_congr {v w : Json} (h : retell tell (read v) = retell tell (read w))
    (earlier later : List Json) (position : Nat) :
    retell tell (itemsFrom read position (earlier ++ v :: later)) =
      retell tell (itemsFrom read position (earlier ++ w :: later)) := by
  induction earlier generalizing position with
  | nil =>
      simp only [List.nil_append, itemsFrom, retell_ap, retell_map, retell_within, h]
  | cons item rest ih =>
      rw [List.cons_append, List.cons_append, itemsFrom, itemsFrom, retell_ap, retell_ap, ih]

end Flowgate.Reading
