import Flowgate.Proofs.Listing.Pages

/-! # Two listings side by side

Where the workflows of two listings meet criteria at the same places, the pages of the matches
show the same places of both, whatever else the workflows hold.
-/

namespace Flowgate.Listing

variable {c d : Criteria} {workflows others found : List Json} {shown : List Nat}

/-- The places of the workflows that meet criteria, in order. -/
def Criteria.places (c : Criteria) (workflows : List Json) : List Nat :=
  (workflows.zipIdx.filter fun numbered => c.isMetBy numbered.1).map Prod.snd

/-- Items are those that stand at places of a listing, one by one. -/
def StandAt (workflows : List Json) (places : List Nat) (items : List Json) : Prop :=
  items.map some = places.map (workflows[·]?)

theorem StandAt.length_eq (h : StandAt workflows shown found) : found.length = shown.length := by
  simpa only [List.length_map] using congrArg List.length h

theorem standAt_places (c : Criteria) (workflows : List Json) :
    StandAt workflows (c.places workflows) (workflows.filter c.isMetBy) := by
  have hnumbered : ∀ numbered ∈ workflows.zipIdx.filter fun numbered => c.isMetBy numbered.1,
      workflows[numbered.2]? = some numbered.1 := by
    intro numbered hmem
    exact List.mem_zipIdx_iff_getElem?.mp (List.mem_of_mem_filter hmem)
  have hfilter : workflows.filter c.isMetBy =
      (workflows.zipIdx.filter fun numbered => c.isMetBy numbered.1).map Prod.fst := by
    conv_lhs => rw [← List.zipIdx_map_fst 0 workflows, List.filter_map]
    rfl
  rw [StandAt, Criteria.places, hfilter, List.map_map, List.map_map]
  apply List.map_congr_left
  intro numbered hmem
  exact (hnumbered numbered hmem).symm

theorem StandAt.run (h : StandAt workflows shown found) (start size : Nat) :
    StandAt workflows ((shown.drop start).take size) ((found.drop start).take size) := by
  rw [StandAt] at h ⊢
  simp only [List.map_take, List.map_drop, h]

/-- Criteria that are met by the workflows of two listings one by one are met at one list of
places. -/
theorem places_congr (h : List.Forall₂ (fun v w => c.isMetBy v = d.isMetBy w) workflows others) :
    c.places workflows = d.places others := by
  unfold Criteria.places
  generalize 0 = start
  induction h generalizing start with
  | nil => rfl
  | cons hhead _ ih =>
      simp only [List.zipIdx_cons, List.filter_cons, hhead]
      split
      · rw [List.map_cons, List.map_cons, ih]
      · exact ih _

/-- Where two tests tell the same of the workflows of two listings one by one, what they keep of
them goes together one by one. -/
theorem keep_abreast {related : Json → Json → Prop} {test other : Json → Except Fault Bool}
    (htest : ∀ v w, related v w → test v = other w)
    (h : List.Forall₂ related workflows others) :
    Abreast (List.Forall₂ related) (keep test workflows) (keep other others) := by
  induction h with
  | nil => exact .ok .nil
  | @cons v w vs ws hhead _ ih =>
      rw [keep, keep, htest v w hhead]
      cases other w with
      | error cause => exact .error cause
      | ok passes =>
          apply Abreast.bind ih
          intro kept left hkept
          cases passes with
          | false => exact .ok hkept
          | true => exact .ok (.cons hhead hkept)

/-- Two pages show the items of the same places, out of those where the criteria are met. -/
structure Alike (workflows others : List Json) (matched : List Nat) (p q : Page) : Prop where
  total : p.total = matched.length ∧ q.total = matched.length
  count : p.data.length = q.data.length
  offset : p.offset = q.offset
  limit : p.limit = q.limit
  data : ∃ shown, shown <:+: matched ∧ StandAt workflows shown p.data ∧
    StandAt others shown q.data

/-- One window cuts the same places out of two lists of matches. -/
theorem alike_page {matched : List Nat} {left : List Json} (w : Window)
    (hfound : StandAt workflows matched found) (hleft : StandAt others matched left) :
    Abreast (Alike workflows others matched) (w.page found) (w.page left) := by
  unfold Window.page
  cases reportedOffset w.offset with
  | error cause => exact .error cause
  | ok offset =>
      simp only [Bind.bind, Except.bind]
      cases toIndex offset with
      | error cause => exact .error cause
      | ok start =>
          cases toIndex (reportedLimit w.limit) with
          | error cause => exact .error cause
          | ok count =>
              have hlength : found.length = left.length :=
                hfound.length_eq.trans hleft.length_eq.symm
              refine .ok ⟨⟨hfound.length_eq, hleft.length_eq⟩, ?_, rfl, rfl, ?_⟩
              · simp only [slice_eq, List.length_take, List.length_drop, hlength]
              · refine ⟨(matched.drop start.toNat).take
                  (sliceSize start.toNat count found.length), ?_, ?_, ?_⟩
                · exact (List.take_prefix _ _).isInfix.trans (List.drop_suffix _ _).isInfix
                · simp only [slice_eq]
                  exact hfound.run _ _
                · simp only [slice_eq, hlength]
                  exact hleft.run _ _

/-- Where two selections fail alike, and criteria are met at the same places, so are all pages. -/
theorem alike_run {related : List Json → List Json → Prop}
    (hplaces : c.places workflows = d.places others)
    (hselect : Abreast related (c.select workflows) (d.select others)) (w : Window) :
    Abreast (Alike workflows others (c.places workflows)) (Query.run ⟨c, w⟩ workflows)
      (Query.run ⟨d, w⟩ others) := by
  unfold Query.run
  generalize hfirst : c.select workflows = first at hselect
  generalize hsecond : d.select others = second at hselect
  cases hselect with
  | error cause => exact .error cause
  | ok =>
      obtain rfl := Criteria.filter_of_select hfirst
      obtain rfl := Criteria.filter_of_select hsecond
      refine alike_page w (standAt_places c workflows) ?_
      rw [hplaces]
      exact standAt_places d others

end Flowgate.Listing
