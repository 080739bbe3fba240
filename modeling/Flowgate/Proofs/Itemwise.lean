import Mathlib.Data.List.Forall2
import Mathlib.Data.List.Nodup

/-! # Lists item by item

What is done with every item of a list in order, by a computation that may fail or
with the place of the item, in terms of the items.
-/

namespace Flowgate

variable {ε α β γ : Type}

/-! ## Computations that may fail -/

theorem bind_eq_ok {run : Except ε α} {next : α → Except ε β} {value : β} :
    run >>= next = .ok value ↔ ∃ middle, run = .ok middle ∧ next middle = .ok value := by
  cases run with
  | error cause => simp [Bind.bind, Except.bind]
  | ok middle => simp [Bind.bind, Except.bind]

theorem bind_eq_error {run : Except ε α} {next : α → Except ε β} {cause : ε} :
    run >>= next = .error cause ↔
      run = .error cause ∨ ∃ middle, run = .ok middle ∧ next middle = .error cause := by
  cases run with
  | error other => simp [Bind.bind, Except.bind]
  | ok middle => simp [Bind.bind, Except.bind]

theorem mapError_eq_ok {f : ε → γ} {run : Except ε α} {value : α} :
    run.mapError f = .ok value ↔ run = .ok value := by
  cases run <;> simp [Except.mapError]

theorem mapError_eq_error {f : ε → γ} {run : Except ε α} {told : γ} :
    run.mapError f = .error told ↔ ∃ cause, run = .error cause ∧ f cause = told := by
  cases run <;> simp [Except.mapError]

/-- Going through a list succeeds with what its items succeed with, one by one. -/
theorem mapM_eq_ok {step : β → Except ε α} {inputs : List β} {values : List α} :
    inputs.mapM step = .ok values ↔
      List.Forall₂ (fun input value => step input = .ok value) inputs values := by
  induction inputs generalizing values with
  | nil => cases values <;> simp [Pure.pure, Except.pure]
  | cons input rest ih =>
      rw [List.mapM_cons, bind_eq_ok]
      constructor
      · rintro ⟨value, hvalue, hrest⟩
        obtain ⟨others, hothers, hcons⟩ := bind_eq_ok.mp hrest
        cases hcons
        exact .cons hvalue (ih.mp hothers)
      · rintro (_ | ⟨hvalue, hrest⟩)
        exact ⟨_, hvalue, bind_eq_ok.mpr ⟨_, ih.mpr hrest, rfl⟩⟩

/-- Going through a list gives what its items give, one by one. -/
theorem mapM_eq_some {step : β → Option α} {inputs : List β} {values : List α} :
    inputs.mapM step = some values ↔
      List.Forall₂ (fun input value => step input = some value) inputs values := by
  induction inputs generalizing values with
  | nil => cases values <;> simp
  | cons input rest ih =>
      rw [List.mapM_cons]
      simp only [Option.bind_eq_bind, Option.bind_eq_some_iff, Option.pure_def, ih,
        Option.some.injEq]
      constructor
      · rintro ⟨value, hvalue, others, hothers, rfl⟩
        exact .cons hvalue hothers
      · rintro (_ | ⟨hvalue, hrest⟩)
        exact ⟨_, hvalue, _, hrest, rfl⟩

/-- Going through a list fails with what one of its items fails with. -/
theorem exists_of_mapM_eq_error {step : β → Except ε α} {inputs : List β} {cause : ε}
    (h : inputs.mapM step = .error cause) : ∃ input ∈ inputs, step input = .error cause := by
  induction inputs with
  | nil => cases h
  | cons input rest ih =>
      rw [List.mapM_cons, bind_eq_error] at h
      rcases h with hfirst | ⟨value, -, hrest⟩
      · exact ⟨input, List.mem_cons_self, hfirst⟩
      · rcases bind_eq_error.mp hrest with hothers | ⟨others, -, hcons⟩
        · obtain ⟨other, hother, hcause⟩ := ih hothers
          exact ⟨other, List.mem_cons_of_mem input hother, hcause⟩
        · cases hcons

/-- Where it hangs on the items alone whether a step succeeds, a fold succeeds just if all of its
items are accepted, and then it is the fold of what the steps do. -/
theorem foldlM_eq_ok_iff {step : α → β → Except ε α} {accepted : β → Prop} {advance : α → β → α}
    (h : ∀ s input next, step s input = .ok next ↔ accepted input ∧ advance s input = next)
    {inputs : List β} {s last : α} :
    inputs.foldlM step s = .ok last ↔
      (∀ input ∈ inputs, accepted input) ∧ inputs.foldl advance s = last := by
  induction inputs generalizing s with
  | nil => simp [Pure.pure, Except.pure]
  | cons input rest ih =>
      rw [List.foldlM_cons, bind_eq_ok, List.forall_mem_cons, List.foldl_cons]
      constructor
      · rintro ⟨next, hnext, hrest⟩
        obtain ⟨haccepted, rfl⟩ := (h s input next).mp hnext
        obtain ⟨hothers, hlast⟩ := ih.mp hrest
        exact ⟨⟨haccepted, hothers⟩, hlast⟩
      · rintro ⟨⟨haccepted, hothers⟩, hlast⟩
        exact ⟨_, (h s input _).mpr ⟨haccepted, rfl⟩, ih.mpr ⟨hothers, hlast⟩⟩

/-- A fold fails with what one of its steps fails with. -/
theorem exists_of_foldlM_eq_error {step : α → β → Except ε α} {inputs : List β} {s : α} {cause : ε}
    (h : inputs.foldlM step s = .error cause) :
    ∃ input ∈ inputs, ∃ t, step t input = .error cause := by
  induction inputs generalizing s with
  | nil => cases h
  | cons input rest ih =>
      rw [List.foldlM_cons, bind_eq_error] at h
      rcases h with hfirst | ⟨next, -, hrest⟩
      · exact ⟨input, List.mem_cons_self, s, hfirst⟩
      · obtain ⟨other, hother, t, ht⟩ := ih hrest
        exact ⟨other, List.mem_cons_of_mem input hother, t, ht⟩

/-- Two computations fail for one cause, or succeed with values that are related. -/
inductive Abreast (related : α → β → Prop) : Except ε α → Except ε β → Prop
  | error (cause : ε) : Abreast related (.error cause) (.error cause)
  | ok {a : α} {b : β} : related a b → Abreast related (.ok a) (.ok b)

theorem Abreast.bind {δ : Type} {related : α → β → Prop} {next : γ → δ → Prop} {x : Except ε α}
    {y : Except ε β} {f : α → Except ε γ} {g : β → Except ε δ} (h : Abreast related x y)
    (hnext : ∀ a b, related a b → Abreast next (f a) (g b)) :
    Abreast next (x >>= f) (y >>= g) := by
  cases h with
  | error cause => exact .error cause
  | ok hrelated => exact hnext _ _ hrelated

/-! ## Items and lists -/

/-- Where every item gives something, the whole gives no less than there are items. -/
theorem length_le_flatMap {f : α → List β} (hf : ∀ a, 0 < (f a).length)
    (as : List α) : as.length ≤ (as.flatMap f).length := by
  induction as with
  | nil => exact Nat.zero_le _
  | cons a rest ih =>
      rw [List.flatMap_cons, List.length_append, List.length_cons, Nat.add_comm]
      exact Nat.add_le_add (hf a) ih

/-! ## Lists that match -/

/-- Two lists that match item by item with a third match each other through it. -/
theorem forall₂_comp {first : α → β → Prop} {second : β → γ → Prop} {as : List α}
    {bs : List β} {cs : List γ} (hfirst : List.Forall₂ first as bs)
    (hsecond : List.Forall₂ second bs cs) :
    List.Forall₂ (fun a c => ∃ b, first a b ∧ second b c) as cs := by
  induction hfirst generalizing cs with
  | nil =>
      cases hsecond
      exact .nil
  | cons hhead _ ih =>
      cases hsecond with
      | cons hnext hrest => exact .cons ⟨_, hhead, hnext⟩ (ih hrest)

theorem exists_left_of_mem_right {related : α → β → Prop} {as : List α} {bs : List β}
    (h : List.Forall₂ related as bs) {b : β} (hb : b ∈ bs) : ∃ a ∈ as, related a b := by
  induction h with
  | nil => cases hb
  | cons hhead _ ih =>
      rcases List.mem_cons.mp hb with rfl | hb
      · exact ⟨_, List.mem_cons_self, hhead⟩
      · obtain ⟨a, ha, hrelated⟩ := ih hb
        exact ⟨a, List.mem_cons_of_mem _ ha, hrelated⟩

/-! ## Pairs by their keys -/

/-- With distinct keys a lookup finds every pair of the list, not just the first of its
key. -/
theorem lookup_eq_some_iff_mem {pairs : List (String × β)} (hnodup : (pairs.map Prod.fst).Nodup)
    {key : String} {value : β} :
    pairs.lookup key = some value ↔ (key, value) ∈ pairs := by
  rw [List.lookup_eq_some_iff]
  constructor
  · rintro ⟨before, after, rfl, -⟩
    exact List.mem_append_right _ List.mem_cons_self
  · intro hmem
    obtain ⟨before, after, rfl⟩ := List.mem_iff_append.mp hmem
    refine ⟨before, after, rfl, ?_⟩
    intro pair hpair
    rw [List.map_append, List.map_cons] at hnodup
    have hdisjoint := (List.nodup_append.mp hnodup).2.2 pair.1
      (List.mem_map_of_mem hpair) key List.mem_cons_self
    simpa using hdisjoint.symm

/-- With distinct keys the order of the pairs does not show in a lookup. -/
theorem lookup_eq_of_perm {pairs others : List (String × β)} (hnodup : (pairs.map Prod.fst).Nodup)
    (hperm : pairs.Perm others) (key : String) : pairs.lookup key = others.lookup key := by
  have hothers : (others.map Prod.fst).Nodup := (hperm.map Prod.fst).nodup_iff.mp hnodup
  apply Option.ext
  intro value
  rw [lookup_eq_some_iff_mem hnodup, lookup_eq_some_iff_mem hothers, hperm.mem_iff]

/-! ## Places -/

/-- No two items have one place. -/
theorem pairwise_place_ne (items : List α) :
    items.zipIdx.Pairwise fun first second => first.2 ≠ second.2 := by
  apply List.pairwise_map.mp
  change (items.zipIdx.map Prod.snd).Nodup
  rw [List.zipIdx_map_snd]
  exact List.nodup_range'

/-- Where a list matches the numbered items of another, an item matches the one at its own
place. -/
theorem getElem?_of_forall₂_zipIdx {related : α × Nat → β → Prop} {as : List α} {bs : List β}
    (h : List.Forall₂ related as.zipIdx bs) {b : β} {place : Nat} (hb : bs[place]? = some b) :
    ∃ a, as[place]? = some a ∧ related (a, place) b := by
  obtain ⟨hlength, hrelated⟩ := List.forall₂_iff_get.mp h
  obtain ⟨hplace, rfl⟩ := List.getElem?_eq_some_iff.mp hb
  have hzip := hrelated place (hlength ▸ hplace) hplace
  simp only [List.get_eq_getElem, List.getElem_zipIdx, Nat.zero_add] at hzip
  rw [List.length_zipIdx] at hlength
  exact ⟨as.get ⟨place, hlength ▸ hplace⟩, List.getElem?_eq_getElem _, hzip⟩

/-- What does not look at places is done with the items alone. -/
theorem zipIdx_map_item (f : α → β) (items : List α) :
    (items.zipIdx.map fun numbered => f numbered.1) = items.map f := by
  conv_rhs => rw [← List.zipIdx_map_fst 0 items, List.map_map]
  rfl

end Flowgate
