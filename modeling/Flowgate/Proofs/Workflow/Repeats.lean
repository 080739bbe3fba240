import Flowgate.Workflow.Identity

/-! # Repeated names

The walk that collects repeated names keeps the names seen and the names found. What
both hold is determined by the names passed, so the walk finds every name that is
declared at least twice, once, at the place of its second declaration.
-/

namespace Flowgate.NodeSpec

/-- A name stands at a position for the second time. -/
def SecondAt (names : List String) (position : Nat) (name : String) : Prop :=
  names[position]? = some name ∧ (names.take position).count name = 1

namespace SecondAt

variable {names : List String} {name : String} {p q : Nat}

theorem count_take_succ (h : SecondAt names p name) : (names.take (p + 1)).count name = 2 := by
  rw [List.take_add_one, h.1, Option.toList_some, List.count_append, h.2,
    List.count_singleton_self]

theorem two_le_count (h : SecondAt names p name) : 2 ≤ names.count name := by
  rw [← h.count_take_succ]
  exact (List.take_sublist _ _).count_le name

theorem not_lt (hp : SecondAt names p name) (hq : SecondAt names q name) : ¬ p < q := by
  intro hlt
  have hle := (List.take_sublist_take_left (l := names) hlt).count_le name
  rw [hp.count_take_succ, hq.2] at hle
  omega

end SecondAt

/-- A list holds the repeated names: each once, those declared at least twice and no
others, in the order of their second declarations. -/
structure Repeats (names repeated : List String) : Prop where
  nodup : repeated.Nodup
  mem_iff : ∀ name, name ∈ repeated ↔ 2 ≤ names.count name
  ordered : repeated.Pairwise fun first second =>
    ∃ p q, p < q ∧ SecondAt names p first ∧ SecondAt names q second

/-- What the walk has gathered behind the names passed. -/
structure Gathered (passed seen found : List String) : Prop where
  seen_iff : ∀ name, name ∈ seen ↔ name ∈ passed
  found_iff : ∀ name, name ∈ found ↔ 2 ≤ passed.count name

namespace Gathered

variable {passed seen found : List String} {name : String}

theorem start : Gathered [] [] [] where
  seen_iff := by simp
  found_iff := by simp

theorem count_pos_iff (h : Gathered passed seen found) :
    name ∈ seen ↔ 0 < passed.count name := by
  rw [h.seen_iff, List.count_pos_iff]

/-- A name is new to the repetitions just where it stands for the second time. -/
theorem count_eq_one_iff (h : Gathered passed seen found) :
    name ∈ seen ∧ name ∉ found ↔ passed.count name = 1 := by
  rw [h.count_pos_iff, h.found_iff]
  omega

/-- A second declaration is found; it was seen before. -/
theorem find (h : Gathered passed seen found) (hone : passed.count name = 1) :
    Gathered (passed ++ [name]) seen (name :: found) where
  seen_iff other := by
    have hname : name ∈ passed := List.count_pos_iff.mp (by omega)
    rw [h.seen_iff, List.mem_append, List.mem_singleton]
    constructor
    · exact .inl
    · rintro (hother | rfl)
      · exact hother
      · exact hname
  found_iff other := by
    rw [List.mem_cons, h.found_iff, List.count_append, List.count_singleton]
    by_cases heq : name = other
    · subst heq
      simp [hone]
    · simp [heq, Ne.symm heq]

/-- Any other declaration is only seen. -/
theorem see (h : Gathered passed seen found) (hone : passed.count name ≠ 1) :
    Gathered (passed ++ [name]) (name :: seen) found where
  seen_iff other := by
    rw [List.mem_cons, h.seen_iff, List.mem_append, List.mem_singleton, or_comm]
  found_iff other := by
    rw [h.found_iff, List.count_append, List.count_singleton]
    by_cases heq : name = other
    · subst heq
      simp only [beq_self_eq_true, if_true]
      omega
    · simp [heq]

end Gathered

variable {passed seen found : List String} {nodes : List NodeSpec}

/-- Passing a name moves it from those ahead to those behind. -/
theorem append_names_cons (passed : List String) (n : NodeSpec) (rest : List NodeSpec) :
    passed ++ (n :: rest).map (·.name) = (passed ++ [n.name]) ++ rest.map (·.name) := by
  simp

/-- One step of the walk, in terms of the names passed. -/
theorem repeatedFrom_cons (h : Gathered passed seen found) (n : NodeSpec)
    (rest : List NodeSpec) :
    repeatedFrom seen found (n :: rest) =
      if passed.count n.name = 1 then n.name :: repeatedFrom seen (n.name :: found) rest
      else repeatedFrom (n.name :: seen) found rest := by
  rw [repeatedFrom]
  simp only [h.count_eq_one_iff]

/-- Every name that the walk finds has its second declaration ahead. -/
theorem exists_secondAt_of_mem (h : Gathered passed seen found) {name : String}
    (hmem : name ∈ repeatedFrom seen found nodes) :
    ∃ p, passed.length ≤ p ∧ SecondAt (passed ++ nodes.map (·.name)) p name := by
  induction nodes generalizing passed seen found with
  | nil => cases hmem
  | cons n rest ih =>
      rw [repeatedFrom_cons h] at hmem
      rw [append_names_cons]
      split at hmem
      next hone =>
        rcases List.mem_cons.mp hmem with rfl | hmem
        · refine ⟨passed.length, Nat.le_refl _, ?_, ?_⟩
          · simp
          · simpa using hone
        · obtain ⟨p, hle, hp⟩ := ih (h.find hone) hmem
          exact ⟨p, by simp at hle; omega, hp⟩
      next hone =>
        obtain ⟨p, hle, hp⟩ := ih (h.see hone) hmem
        exact ⟨p, by simp at hle; omega, hp⟩

/-- The walk misses no name whose second declaration is ahead. -/
theorem mem_repeatedFrom (h : Gathered passed seen found) {name : String}
    (hbefore : passed.count name < 2)
    (htotal : 2 ≤ (passed ++ nodes.map (·.name)).count name) :
    name ∈ repeatedFrom seen found nodes := by
  induction nodes generalizing passed seen found with
  | nil =>
      rw [List.map_nil, List.append_nil] at htotal
      omega
  | cons n rest ih =>
      rw [append_names_cons] at htotal
      have hcount : (passed ++ [n.name]).count name =
          passed.count name + if n.name = name then 1 else 0 := by
        rw [List.count_append, List.count_singleton]
        simp
      rw [repeatedFrom_cons h]
      by_cases hname : n.name = name
      · subst hname
        split
        next => exact List.mem_cons_self
        next hone =>
          refine ih (h.see hone) ?_ htotal
          rw [hcount, if_pos rfl]
          omega
      · rw [if_neg hname, Nat.add_zero] at hcount
        split
        next hone =>
          exact List.mem_cons_of_mem _ (ih (h.find hone) (hcount ▸ hbefore) htotal)
        next hone => exact ih (h.see hone) (hcount ▸ hbefore) htotal

/-- What is found earlier has its second declaration earlier. -/
theorem pairwise_repeatedFrom (h : Gathered passed seen found) :
    (repeatedFrom seen found nodes).Pairwise fun first second =>
      ∃ p q, p < q ∧ SecondAt (passed ++ nodes.map (·.name)) p first ∧
        SecondAt (passed ++ nodes.map (·.name)) q second := by
  induction nodes generalizing passed seen found with
  | nil => exact .nil
  | cons n rest ih =>
      rw [repeatedFrom_cons h, append_names_cons]
      split
      next hone =>
        refine List.pairwise_cons.mpr ⟨?_, ih (h.find hone)⟩
        intro later hlater
        obtain ⟨q, hle, hq⟩ := exists_secondAt_of_mem (h.find hone) hlater
        -- the name at hand is repeated here, right behind those passed
        refine ⟨passed.length, q, by simp at hle; omega, ⟨?_, ?_⟩, hq⟩
        · simp
        · simpa using hone
      next hone => exact ih (h.see hone)

theorem repeats_repeatedNames (nodes : List NodeSpec) :
    Repeats (nodes.map (·.name)) (repeatedNames nodes) where
  nodup := by
    refine (pairwise_repeatedFrom Gathered.start).imp ?_
    rintro first second ⟨p, q, hlt, hp, hq⟩ rfl
    exact hp.not_lt hq hlt
  mem_iff name := by
    constructor
    · intro hmem
      obtain ⟨p, -, hp⟩ := exists_secondAt_of_mem Gathered.start hmem
      exact hp.two_le_count
    · exact mem_repeatedFrom Gathered.start (by simp)
  ordered := pairwise_repeatedFrom Gathered.start

end Flowgate.NodeSpec
