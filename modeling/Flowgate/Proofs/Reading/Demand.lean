import Flowgate.Reading.Basic
import Mathlib.Logic.Basic

/-! # What is demanded of a value

A demand on a value is met, or it is broken first at one place inside the value. Demands
are put together in order, so that a place is the first one broken only if all demands
before it are met. A reading follows a demand if it succeeds where the demand is met, and
if its first issue stands where the demand is broken.
-/

namespace Flowgate

/-- What is asked of a value or of a part of it. -/
@[ext]
structure Demand where
  Met : Prop
  /-- The demand is broken, and this is the first place where it is. -/
  BrokenAt : Location → Prop
  met_iff : Met ↔ ∀ place, ¬ BrokenAt place
  unique : ∀ p q, BrokenAt p → BrokenAt q → p = q

namespace Demand

variable {d e : Demand}

theorem exists_brokenAt_iff : (∃ place, d.BrokenAt place) ↔ ¬ d.Met := by
  rw [d.met_iff, not_forall_not]

/-- A condition on the value itself. -/
def here (p : Prop) : Demand where
  Met := p
  BrokenAt place := ¬ p ∧ place = []
  met_iff := by
    constructor
    · exact fun hp place hbroken => hbroken.1 hp
    · exact fun h => by_contra fun hp => h [] ⟨hp, rfl⟩
  unique := by
    rintro p q ⟨-, rfl⟩ ⟨-, rfl⟩
    rfl

/-- A demand on the part of a value that a step leads to. -/
def within (step : Step) (d : Demand) : Demand where
  Met := d.Met
  BrokenAt place := ∃ rest, place = step :: rest ∧ d.BrokenAt rest
  met_iff := by
    rw [d.met_iff]
    constructor
    · rintro h _ ⟨rest, rfl, hrest⟩
      exact h rest hrest
    · exact fun h rest hrest => h (step :: rest) ⟨rest, rfl, hrest⟩
  unique := by
    rintro _ _ ⟨p, rfl, hp⟩ ⟨q, rfl, hq⟩
    rw [d.unique p q hp hq]

/-- One demand, and another that counts once the first is met. -/
def andThen (d e : Demand) : Demand where
  Met := d.Met ∧ e.Met
  BrokenAt place := d.BrokenAt place ∨ d.Met ∧ e.BrokenAt place
  met_iff := by
    constructor
    · rintro ⟨hd, he⟩ place (hbroken | ⟨-, hbroken⟩)
      · exact d.met_iff.mp hd place hbroken
      · exact e.met_iff.mp he place hbroken
    · intro h
      have hd : d.Met := d.met_iff.mpr fun place hbroken => h place (.inl hbroken)
      exact ⟨hd, e.met_iff.mpr fun place hbroken => h place (.inr ⟨hd, hbroken⟩)⟩
  unique := by
    rintro p q (hp | ⟨hd, hp⟩) (hq | ⟨hd', hq⟩)
    · exact d.unique p q hp hq
    · exact absurd hp (d.met_iff.mp hd' p)
    · exact absurd hq (d.met_iff.mp hd q)
    · exact e.unique p q hp hq

/-- Several demands, of which each counts once all before it are met. -/
def inOrder (demands : List Demand) : Demand := demands.foldr andThen (here True)

theorem andThen_assoc (d e f : Demand) :
    (d.andThen e).andThen f = d.andThen (e.andThen f) := by
  ext place
  · exact and_assoc
  · simp only [andThen]
    rw [or_assoc, and_or_left, and_assoc]

@[simp]
theorem here_true_andThen (d : Demand) : (here True).andThen d = d := by
  ext place <;> simp [andThen, here]

@[simp]
theorem andThen_here_true (d : Demand) : d.andThen (here True) = d := by
  ext place <;> simp [andThen, here]

theorem met_inOrder {demands : List Demand} :
    (inOrder demands).Met ↔ ∀ d ∈ demands, d.Met := by
  induction demands with
  | nil => simp [inOrder, here]
  | cons d rest ih =>
      rw [List.forall_mem_cons, ← ih]
      rfl

/-- The demands in order, put together from the first on. -/
theorem inOrder_eq_foldl (demands : List Demand) :
    inOrder demands = demands.foldl andThen (here True) := by
  suffices h : ∀ d : Demand, demands.foldl andThen d = d.andThen (inOrder demands) by
    rw [h, here_true_andThen]
  induction demands with
  | nil => exact fun d => (andThen_here_true d).symm
  | cons e rest ih =>
      intro d
      rw [List.foldl_cons, ih, andThen_assoc]
      rfl

end Demand

namespace Reading

variable {α β : Type}

/-- A reading succeeds where a demand is met, and otherwise its first issue is at the
first place where the demand is broken. -/
inductive Follows : Reading α → Demand → Prop
  | reads {d : Demand} (x : α) : d.Met → Follows (.ok x) d
  | refuses {d : Demand} (issue : Issue) (later : List Issue) :
      d.BrokenAt issue.location → Follows (.error (issue :: later)) d

namespace Follows

variable {reading : Reading α} {d e : Demand}

theorem exists_ok_iff (h : Follows reading d) : (∃ x, reading = .ok x) ↔ d.Met := by
  cases h with
  | reads x hmet => simp [hmet]
  | refuses issue later hbroken =>
      simp only [reduceCtorEq, exists_false, false_iff]
      exact Demand.exists_brokenAt_iff.mp ⟨_, hbroken⟩

theorem brokenAt_iff (h : Follows reading d) (place : Location) :
    d.BrokenAt place ↔ ∃ issue later, reading = .error (issue :: later) ∧
      issue.location = place := by
  cases h with
  | reads x hmet =>
      simp only [reduceCtorEq, false_and, exists_false, iff_false]
      exact d.met_iff.mp hmet place
  | refuses issue later hbroken =>
      simp only [Except.error.injEq, List.cons.injEq]
      constructor
      · exact fun hplace => ⟨issue, later, ⟨rfl, rfl⟩, d.unique _ _ hbroken hplace⟩
      · rintro ⟨_, _, ⟨rfl, rfl⟩, rfl⟩
        exact hbroken

/-- A value that is at hand asks for nothing. -/
theorem pure (x : α) : Follows (.ok x) (.here True) := .reads x trivial

theorem map (f : α → β) (h : Follows reading d) : Follows (reading.map f) d := by
  cases h with
  | reads x hmet => exact .reads (f x) hmet
  | refuses issue later hbroken => exact .refuses issue later hbroken

theorem within (step : Step) (h : Follows reading d) :
    Follows (Reading.within step reading) (d.within step) := by
  cases h with
  | reads x hmet => exact .reads x hmet
  | refuses issue later hbroken => exact .refuses _ _ ⟨_, rfl, hbroken⟩

theorem ap {f : Reading (α → β)} (hf : Follows f d) (h : Follows reading e) :
    Follows (Reading.ap f reading) (d.andThen e) := by
  cases hf with
  | reads g hd =>
      cases h with
      | reads x he => exact .reads (g x) ⟨hd, he⟩
      | refuses issue later he => exact .refuses issue later (.inr ⟨hd, he⟩)
  | refuses issue earlier hd =>
      cases h with
      | reads x he => exact .refuses issue earlier (.inl hd)
      | refuses other later he => exact .refuses issue _ (.inl hd)

theorem refuse {p : Prop} (offence : Offence) (hp : ¬ p) :
    Follows (Reading.refuse offence : Reading α) (.here p) :=
  .refuses _ _ ⟨hp, rfl⟩

end Follows

end Reading

end Flowgate
