import Flowgate.Json.Basic
import Mathlib.Data.List.Basic

/-! # Objects by their keys

What is found under a key of an object after a field was put in, after one was given another
value, and after some keys were left out.
-/

namespace Flowgate.Json

/-- An object without the fields of some keys. -/
def without (keys : List String) : Json → Json
  | obj fields => obj (fields.filter fun field => !keys.contains field.1)
  | v => v

theorem lookup_cons_eq (k key : String) (v : Json) (fields : List (String × Json)) :
    ((k, v) :: fields).lookup key = if key = k then some v else fields.lookup key := by
  by_cases hk : key = k
  · simp [hk]
  · simp [List.lookup_cons, beq_false_of_ne hk, hk]

theorem lookup_eq_none_of_notMem {key : String} {fields : List (String × Json)}
    (h : key ∉ fields.map Prod.fst) : fields.lookup key = none := by
  rw [List.lookup_eq_none_iff]
  rintro ⟨k, v⟩ hmem
  exact bne_iff_ne.mpr fun hkey => h (hkey ▸ List.mem_map_of_mem hmem)

theorem exists_lookup_of_mem {key : String} {fields : List (String × Json)}
    (h : key ∈ fields.map Prod.fst) : ∃ v, fields.lookup key = some v := by
  rw [← Option.isSome_iff_exists, ← Option.ne_none_iff_isSome]
  intro hnone
  obtain ⟨⟨k, v⟩, hmem, rfl⟩ := List.mem_map.mp h
  exact absurd rfl (bne_iff_ne.mp (List.lookup_eq_none_iff.mp hnone _ hmem))

/-- A field more shows under its own key only. -/
theorem lookup_insert_of_ne {key other : String} (h : other ≠ key) (v : Json)
    (before after : List (String × Json)) :
    (before ++ (key, v) :: after).lookup other = (before ++ after).lookup other := by
  rw [List.lookup_append, List.lookup_append, lookup_cons_eq, if_neg h]

/-- Under its own key a field shows unless another one stands before it. -/
theorem lookup_insert_self (key : String) (v : Json) (before after : List (String × Json)) :
    (before ++ (key, v) :: after).lookup key = (before.lookup key).or (some v) := by
  rw [List.lookup_append, List.lookup_cons_self]

theorem lookup_insert_of_notMem {key : String} {before after : List (String × Json)}
    (h : key ∉ (before ++ after).map Prod.fst) (v : Json) :
    (before ++ (key, v) :: after).lookup key = some v := by
  rw [List.map_append, List.mem_append, not_or] at h
  rw [lookup_insert_self, lookup_eq_none_of_notMem h.1, Option.none_or]

theorem lookup_setField (key other : String) (value : Json) (fields : List (String × Json)) :
    (setField key value fields).lookup other =
      if other = key then some value else fields.lookup other := by
  induction fields with
  | nil => rw [setField, lookup_cons_eq]
  | cons field rest ih =>
      obtain ⟨k, v⟩ := field
      by_cases hk : k = key
      · simp only [setField, hk, if_true, lookup_cons_eq]
        split <;> rfl
      · simp only [setField, hk, if_false, lookup_cons_eq, ih]
        -- the two keys are not the same, so that it does not matter which is asked for first
        by_cases hother : other = k
        · have hkey : other ≠ key := hother ▸ hk
          rw [if_pos hother, if_neg hkey, if_pos hother]
        · rw [if_neg hother, if_neg hother]

theorem lookup_filter_key (kept : String → Bool) (key : String) (fields : List (String × Json)) :
    (fields.filter fun field => kept field.1).lookup key =
      if kept key then fields.lookup key else none := by
  induction fields with
  | nil => simp
  | cons field rest ih =>
      obtain ⟨k, v⟩ := field
      by_cases hkey : key = k
      · subst hkey
        cases hkept : kept key <;> simp [hkept, ih]
      · cases hkept : kept k <;> simp [hkept, lookup_cons_eq, hkey, ih]

theorem field?_without (keys : List String) (key : String) (v : Json) :
    (v.without keys).field? key = if key ∈ keys then none else v.field? key := by
  cases v with
  | obj fields =>
      have hfields := lookup_filter_key (fun k => !keys.contains k) key fields
      by_cases hkey : key ∈ keys <;> simpa [without, field?, hkey] using hfields
  | _ => simp [without, field?]

end Flowgate.Json
