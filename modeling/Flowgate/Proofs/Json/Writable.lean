import Flowgate.Fault
import Flowgate.Json.Literal
import Flowgate.Json.Writer
import Flowgate.Proofs.Itemwise

/-! # Values that can be written

A value can be written just if no integer in it is too long and no number in it is an infinity
or a not-a-number, and so can its parts. To paste a value into a text only its integers matter.
-/

namespace Flowgate.Json

variable {items : List Json} {fields : List (String × Json)} {v : Json} {flaw : Unwritable}
  {text : String}

/-! ## Flaws -/

section Flaws

variable {flaw? : Json → Option Unwritable}

theorem firstFlaw?_arr :
    firstFlaw? flaw? (arr items) = none ↔ ∀ v ∈ items, firstFlaw? flaw? v = none := by
  rw [firstFlaw?]
  induction items with
  | nil => simp [firstItemFlaw?]
  | cons v rest ih => simp [firstItemFlaw?, ih]

theorem firstFlaw?_obj :
    firstFlaw? flaw? (obj fields) = none ↔
      ∀ field ∈ fields, firstFlaw? flaw? field.2 = none := by
  rw [firstFlaw?]
  induction fields with
  | nil => simp [firstFieldFlaw?]
  | cons field rest ih => simp [firstFieldFlaw?, ih]

variable {other? : Json → Option Unwritable}

mutual

/-- Where less stands in the way of numbers, less stands in the way of values. -/
theorem firstFlaw?_mono (hle : ∀ v, other? v = none → flaw? v = none) :
    ∀ v, firstFlaw? other? v = none → firstFlaw? flaw? v = none
  | .arr items, h => firstItemFlaw?_mono hle items h
  | .obj fields, h => firstFieldFlaw?_mono hle fields h
  | .null, h => hle .null h
  | .bool b, h => hle (.bool b) h
  | .int i, h => hle (.int i) h
  | .float x, h => hle (.float x) h
  | .str s, h => hle (.str s) h

theorem firstItemFlaw?_mono (hle : ∀ v, other? v = none → flaw? v = none) :
    ∀ items, firstItemFlaw? other? items = none → firstItemFlaw? flaw? items = none
  | [], _ => rfl
  | v :: rest, h => by
      obtain ⟨hv, hrest⟩ := Option.or_eq_none_iff.mp h
      exact Option.or_eq_none_iff.mpr
        ⟨firstFlaw?_mono hle v hv, firstItemFlaw?_mono hle rest hrest⟩

theorem firstFieldFlaw?_mono (hle : ∀ v, other? v = none → flaw? v = none) :
    ∀ fields, firstFieldFlaw? other? fields = none → firstFieldFlaw? flaw? fields = none
  | [], _ => rfl
  | (_, v) :: rest, h => by
      obtain ⟨hv, hrest⟩ := Option.or_eq_none_iff.mp h
      exact Option.or_eq_none_iff.mpr
        ⟨firstFlaw?_mono hle v hv, firstFieldFlaw?_mono hle rest hrest⟩

end

end Flaws

@[simp]
theorem isWritable_int (i : Int) : (int i).isWritable = isShort i := by
  change (integerFlaw? i).isNone = isShort i
  cases h : isShort i <;> simp [integerFlaw?, h]

@[simp]
theorem isWritable_float (x : Binary64) : (float x).isWritable = x.isFinite := by
  change (if x.isFinite then none else some Unwritable.special).isNone = x.isFinite
  cases h : x.isFinite <;> simp

@[simp]
theorem isWritable_arr : (arr items).isWritable = true ↔ ∀ v ∈ items, v.isWritable = true := by
  simp only [isWritable, Option.isNone_iff_eq_none]
  exact firstFlaw?_arr

@[simp]
theorem isWritable_obj :
    (obj fields).isWritable = true ↔ ∀ field ∈ fields, field.2.isWritable = true := by
  simp only [isWritable, Option.isNone_iff_eq_none]
  exact firstFlaw?_obj

theorem textFlaw?_int (i : Int) : (int i).textFlaw? = integerFlaw? i := rfl

theorem textFlaw?_obj :
    (obj fields).textFlaw? = none ↔ ∀ field ∈ fields, field.2.textFlaw? = none :=
  firstFlaw?_obj

/-- What can be written as Json can be pasted into a text. -/
theorem textFlaw?_of_isWritable (h : v.isWritable = true) : v.textFlaw? = none := by
  refine firstFlaw?_mono (fun v hv => ?_) v (Option.isNone_iff_eq_none.mp h)
  cases v with
  | int i => exact hv
  | _ => rfl

/-! ## Texts -/

theorem body_eq_ok :
    v.body = .ok text ↔ v.isWritable = true ∧ String.ofList v.compact = text := by
  unfold body isWritable
  cases v.bodyFlaw? <;> simp

theorem exists_body (h : v.isWritable = true) : ∃ text, v.body = .ok text :=
  ⟨_, body_eq_ok.mpr ⟨h, rfl⟩⟩

theorem pasted_eq_ok : v.pasted = .ok text ↔ v.textFlaw? = none ∧ v.plain = text := by
  unfold pasted
  cases v.textFlaw? <;> simp

theorem pasted_eq_error : v.pasted = .error flaw ↔ v.textFlaw? = some flaw := by
  unfold pasted
  cases v.textFlaw? <;> simp

/-! ## Parts -/

theorem mem_of_lookup {key : String} (h : fields.lookup key = some v) : (key, v) ∈ fields := by
  obtain ⟨before, behind, rfl, -⟩ := List.lookup_eq_some_iff.mp h
  simp

end Flowgate.Json
