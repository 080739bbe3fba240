import Flowgate.Text.Blank
import Mathlib.Data.List.DropRight

/-! # What is dropped from the ends of texts

Trimming drops the characters of a set from the ends as far as they go: what is left neither
begins nor ends with one of them.
-/

namespace Flowgate.Text

variable {p : Char → Bool} {cs last : List Char}

theorem dropLastWhile_eq (p : Char → Bool) (cs : List Char) :
    dropLastWhile p cs = cs.rdropWhile p :=
  rfl

theorem dropLastWhile_split (p : Char → Bool) (cs : List Char) :
    ∃ last, cs = dropLastWhile p cs ++ last ∧ ∀ c ∈ last, p c := by
  refine ⟨cs.rtakeWhile p, ?_, fun c hc => List.mem_rtakeWhile_imp hc⟩
  rw [dropLastWhile_eq, List.rdropWhile_append_rtakeWhile]

theorem not_of_head?_dropWhile {c : Char} (h : (cs.dropWhile p).head? = some c) :
    p c = false := by
  have hhead := List.head?_dropWhile_not p cs
  rwa [h] at hhead

theorem not_of_getLast?_dropLastWhile {c : Char} (h : (dropLastWhile p cs).getLast? = some c) :
    p c = false := by
  rw [dropLastWhile, List.getLast?_reverse] at h
  exact not_of_head?_dropWhile h

theorem dropLastWhile_append (h : ∀ c ∈ last, p c) :
    dropLastWhile p (cs ++ last) = dropLastWhile p cs := by
  have hall : ∀ c ∈ last.reverse, p c := fun c hc => h c (List.mem_reverse.mp hc)
  rw [dropLastWhile, List.reverse_append, List.dropWhile_append_of_pos hall, dropLastWhile]

/-! ## Final slashes -/

theorem toList_dropSlashes (s : String) : ∃ slashes,
    s.toList = (dropSlashes s).toList ++ List.replicate slashes '/' := by
  obtain ⟨last, hsplit, hlast⟩ := dropLastWhile_split (· == '/') s.toList
  refine ⟨last.length, ?_⟩
  have hslashes : last = List.replicate last.length '/' :=
    List.eq_replicate_of_mem fun c hc => eq_of_beq (hlast c hc)
  rw [dropSlashes, String.toList_ofList, ← hslashes, ← hsplit]

theorem getLast?_dropSlashes (s : String) : (dropSlashes s).toList.getLast? ≠ some '/' := by
  intro hlast
  rw [dropSlashes, String.toList_ofList] at hlast
  cases not_of_getLast?_dropLastWhile hlast

theorem dropSlashes_append (s : String) (more : Nat) :
    dropSlashes (s ++ String.ofList (List.replicate more '/')) = dropSlashes s := by
  have hslashes : ∀ c ∈ List.replicate more '/', (c == '/') = true :=
    fun c hc => beq_iff_eq.mpr (List.eq_of_mem_replicate hc)
  rw [dropSlashes, String.toList_append, String.toList_ofList,
    dropLastWhile_append hslashes, dropSlashes]

theorem dropSlashes_eq_self {s : String} (h : s.toList.getLast? ≠ some '/') :
    dropSlashes s = s := by
  apply String.toList_injective
  rw [dropSlashes, String.toList_ofList, dropLastWhile_eq, List.rdropWhile_eq_self_iff]
  intro hne hslash
  apply h
  rw [List.getLast?_eq_some_getLast hne, eq_of_beq hslash]

theorem notMem_dropSlashes {s : String} (hline : '\n' ∉ s.toList) :
    '\n' ∉ (dropSlashes s).toList := by
  obtain ⟨slashes, hsplit⟩ := toList_dropSlashes s
  rw [hsplit] at hline
  exact fun hmem => hline (List.mem_append_left _ hmem)

/-! ## Both ends -/

/-- What is left of a text when the characters of a set are dropped from both ends. -/
structure Trimmed (p : Char → Bool) (whole core : List Char) : Prop where
  split : ∃ first last, whole = first ++ core ++ last ∧ (∀ c ∈ first, p c) ∧ ∀ c ∈ last, p c
  begins : ∀ c, core.head? = some c → p c = false
  ends : ∀ c, core.getLast? = some c → p c = false

/-- What is trimmed stands in the whole between characters of the set. -/
theorem trim_split (p : Char → Bool) (cs : List Char) :
    ∃ first last, cs = first ++ trim p cs ++ last ∧ (∀ c ∈ first, p c) ∧ ∀ c ∈ last, p c := by
  obtain ⟨last, hsplit, hlast⟩ := dropLastWhile_split p (cs.dropWhile p)
  refine ⟨cs.takeWhile p, last, ?_, fun c hc => List.mem_takeWhile_imp hc, hlast⟩
  rw [trim, List.append_assoc, ← hsplit, List.takeWhile_append_dropWhile]

theorem trim_eq_self (h : ∀ c ∈ cs, p c = false) : trim p cs = cs := by
  obtain ⟨first, last, hsplit, hfirst, hlast⟩ := trim_split p cs
  have hnone {part : List Char} (hpart : ∀ c ∈ part, p c) (hsub : part ⊆ cs) : part = [] := by
    refine List.eq_nil_iff_forall_not_mem.mpr fun c hc => ?_
    simpa [hpart c hc] using h c (hsub hc)
  have hfirst : first = [] := hnone hfirst fun c hc => by
    rw [hsplit, List.append_assoc]
    exact List.mem_append_left _ hc
  have hlast : last = [] := hnone hlast fun c hc => by
    rw [hsplit]
    exact List.mem_append_right _ hc
  rw [hfirst, hlast, List.nil_append, List.append_nil] at hsplit
  exact hsplit.symm

theorem trimmed_trim (p : Char → Bool) (cs : List Char) : Trimmed p cs (trim p cs) where
  split := trim_split p cs
  begins := by
    intro c hc
    -- the front of the text is what the end is dropped from
    obtain ⟨rest, hrest⟩ : trim p cs <+: cs.dropWhile p := List.rdropWhile_prefix p _
    have hhead : (cs.dropWhile p).head? = some c := by
      rw [← hrest, List.head?_append, hc]
      rfl
    exact not_of_head?_dropWhile hhead
  ends := fun c hc => not_of_getLast?_dropLastWhile hc

/-- There is one way to trim a text. -/
theorem Trimmed.trim_eq {core : List Char} (h : Trimmed p cs core) : trim p cs = core := by
  obtain ⟨first, last, rfl, hfirst, hlast⟩ := h.split
  rw [trim, List.append_assoc, List.dropWhile_append_of_pos hfirst]
  cases core with
  | nil =>
      have hnone : last.dropWhile p = [] := List.dropWhile_eq_nil_iff.mpr hlast
      rw [List.nil_append, hnone]
      rfl
  | cons c rest =>
      have hbegins : (c :: rest ++ last).dropWhile p = c :: rest ++ last :=
        List.dropWhile_cons_of_neg (by simp [h.begins c rfl])
      rw [hbegins, dropLastWhile_append hlast, dropLastWhile_eq, List.rdropWhile_eq_self_iff]
      intro hne hdropped
      rw [h.ends _ (List.getLast?_eq_some_getLast hne)] at hdropped
      cases hdropped

/-- Between the space and the end of ASCII no character is white space. -/
theorem toNat_of_isBlank {c : Char} (h : isBlank c) : c.toNat ≤ 0x20 ∨ 0x80 ≤ c.toNat := by
  simp only [isBlank, inRanges, blankRanges, List.any_cons, List.any_nil, Bool.or_false,
    Bool.or_eq_true, Bool.and_eq_true, decide_eq_true_eq] at h
  omega

end Flowgate.Text
