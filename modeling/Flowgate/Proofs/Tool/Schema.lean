import Flowgate.Proofs.Itemwise
import Flowgate.Tool.Basic

/-! # What arguments hold that meet a schema

A value without a violation is of the kind that is asked for, and an object without one has
every field that it must have, each without a violation of its own.
-/

namespace Flowgate

namespace Schema

variable {given : List (String × Json)} {v : Json}

theorem admits_of_simple {kind : Kind} {choices : List String}
    (h : (simple kind choices).violation v = none) : kind.admits v = true := by
  by_contra hadmits
  cases v <;> simp [violation, hadmits] at h

/-- Without a choice of texts, the kind is all that is asked. -/
theorem simple_eq_none {kind : Kind} :
    (simple kind []).violation v = none ↔ kind.admits v = true := by
  refine ⟨admits_of_simple, fun hadmits => ?_⟩
  cases v <;> simp [violation, hadmits]

theorem text_iff_str : Kind.text.admits v = true ↔ ∃ s, v = .str s := by
  cases v <;> simp [Kind.admits]

theorem items_of_list {items : Schema} (h : (list items).violation v = none) :
    ∃ vs, v = .arr vs ∧ ∀ item ∈ vs, items.violation item = none := by
  cases v with
  | arr vs =>
      rw [violation] at h
      exact ⟨vs, rfl, List.findSome?_eq_none_iff.mp h⟩
  | _ => simp [violation] at h

theorem list_eq_none {items : Schema} :
    (list items).violation v = none ↔
      ∃ vs, v = .arr vs ∧ ∀ item ∈ vs, items.violation item = none := by
  refine ⟨items_of_list, ?_⟩
  rintro ⟨vs, rfl, h⟩
  exact List.findSome?_eq_none_iff.mpr h

theorem field_of_fieldViolation {fields : List Field} (h : fieldViolation fields given = none) :
    ∀ field ∈ fields, ∀ v, given.lookup field.1 = some v → field.2.1.violation v = none := by
  induction fields with
  | nil => nofun
  | cons field rest ih =>
      obtain ⟨name, schema, description, default⟩ := field
      rw [fieldViolation, Option.orElse_eq_orElse, Option.orElse_eq_or, Option.or_eq_none_iff] at h
      intro other hother v hv
      rcases List.mem_cons.mp hother with rfl | hrest
      · rw [hv] at h
        exact h.1
      · exact ih h.2 other hrest v hv

/-- An object that meets a schema. -/
theorem fields_of_object {fields : List Field} {required : List String}
    (h : (object fields required).violation v = none) :
    ∃ given, v = .obj given ∧
      (∀ field ∈ fields, ∀ v, given.lookup field.1 = some v → field.2.1.violation v = none) ∧
      ∀ name ∈ required, ∃ v, given.lookup name = some v := by
  cases v with
  | obj given =>
      rw [violation, Option.orElse_eq_orElse, Option.orElse_eq_or, Option.or_eq_none_iff] at h
      refine ⟨given, rfl, field_of_fieldViolation h.1, fun name hname => ?_⟩
      have hfound := List.find?_eq_none.mp (Option.map_eq_none_iff.mp h.2) name hname
      exact Option.isSome_iff_exists.mp (by simpa using hfound)
  | _ => simp [violation] at h

theorem fieldViolation_eq_none {fields : List Field} :
    fieldViolation fields given = none ↔
      ∀ field ∈ fields, ∀ v, given.lookup field.1 = some v → field.2.1.violation v = none := by
  refine ⟨field_of_fieldViolation, fun h => ?_⟩
  induction fields with
  | nil => rfl
  | cons field rest ih =>
      obtain ⟨name, schema, description, default⟩ := field
      rw [fieldViolation, Option.orElse_eq_orElse, Option.orElse_eq_or, Option.or_eq_none_iff]
      refine ⟨?_, ih fun other hother => h other (List.mem_cons_of_mem _ hother)⟩
      cases hv : given.lookup name with
      | none => rfl
      | some v => exact h _ List.mem_cons_self v hv

theorem object_eq_none {fields : List Field} {required : List String} :
    (object fields required).violation v = none ↔ ∃ given, v = .obj given ∧
      (∀ field ∈ fields, ∀ v, given.lookup field.1 = some v → field.2.1.violation v = none) ∧
      ∀ name ∈ required, ∃ v, given.lookup name = some v := by
  refine ⟨fields_of_object, ?_⟩
  rintro ⟨given, rfl, hfields, hrequired⟩
  rw [violation, Option.orElse_eq_orElse, Option.orElse_eq_or, Option.or_eq_none_iff]
  refine ⟨fieldViolation_eq_none.mpr hfields, Option.map_eq_none_iff.mpr ?_⟩
  refine List.find?_eq_none.mpr fun name hname => ?_
  obtain ⟨v, hv⟩ := hrequired name hname
  rw [hv]
  exact Bool.false_ne_true

end Schema

end Flowgate
