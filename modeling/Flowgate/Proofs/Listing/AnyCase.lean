import Flowgate.Proofs.Json.Fields
import Flowgate.Proofs.Listing.Places
import Flowgate.Proofs.Listing.Search
import Flowgate.Proofs.Text.LetterCase

/-! # Searching in any case

Letters of ASCII may be written small or capital in the term and in every name: the search finds
the workflows at the same places, and the pages show the same places.
-/

namespace Flowgate.Listing

open Text

variable {v w : Json} {workflows others : List Json} {term other : String}

/-- A workflow that has a text for its name or none, and the same workflow with a name that
differs in no more than the case of letters in ASCII. -/
inductive Recased : Json → Json → Prop
  | unnamed {fields : List (String × Json)} : Json.getField "name" fields = .null →
      Recased (.obj fields) (.obj fields)
  | renamed {fields : List (String × Json)} {name other : String} :
      Json.getField "name" fields = .str name → SameLetters name other →
      Recased (.obj fields) (.obj (Json.setField "name" (.str other) fields))

namespace Recased

theorem get_eq (h : Recased v w) {key : String} (hkey : key ≠ "name") : v.get key = w.get key := by
  cases h with
  | unnamed => rfl
  | renamed => simp only [Json.get, Json.getField, Json.lookup_setField, if_neg hkey]

theorem fieldOf_eq (h : Recased v w) {key : String} (hkey : key ≠ "name") :
    fieldOf key v = fieldOf key w := by
  cases h with
  | unnamed => rfl
  | renamed => simp only [fieldOf, Json.field?, Json.lookup_setField, if_neg hkey]

theorem isSearchable (h : Recased v w) : IsSearchable v ∧ IsSearchable w := by
  cases h with
  | @unnamed fields hnull =>
      have hname : fieldOf "name" (.obj fields) = .null := hnull
      have hsearchable : IsSearchable (.obj fields) := by
        refine ⟨⟨fields, rfl⟩, ?_⟩
        rw [hname]
        exact nofun
      exact ⟨hsearchable, hsearchable⟩
  | @renamed fields name other hname =>
      constructor
      · exact ⟨⟨fields, rfl⟩, fun _ => ⟨name, hname⟩⟩
      · refine ⟨⟨_, rfl⟩, fun _ => ⟨other, ?_⟩⟩
        simp [fieldOf, Json.field?, Json.lookup_setField]

theorem lowercase_name (h : Recased v w) :
    lowercase (textOf (fieldOf "name" v)) = lowercase (textOf (fieldOf "name" w)) := by
  cases h with
  | unnamed => rfl
  | @renamed fields name other hname hletters =>
      have hold : fieldOf "name" (.obj fields) = .str name := hname
      have hnew :
          fieldOf "name" (.obj (Json.setField "name" (.str other) fields)) = .str other := by
        simp [fieldOf, Json.field?, Json.lookup_setField]
      rw [hold, hnew]
      exact lowercase_eq_of_sameLetters hletters

/-! ## Tests -/

theorem isNamed_eq (h : Recased v w) (hterm : SameLetters term other) :
    isNamed (.str term) v = isNamed (.str other) w := by
  simp only [isNamed, lowercase_eq_of_sameLetters hterm, h.lowercase_name]

theorem nameHolds_eq (h : Recased v w) (hterm : SameLetters term other) :
    nameHolds (lowercase term) v = nameHolds (lowercase other) w := by
  obtain ⟨hv, hw⟩ := h.isSearchable
  rw [(decides_nameHolds term v _).mpr ⟨hv, rfl⟩, (decides_nameHolds other w _).mpr ⟨hw, rfl⟩,
    h.isNamed_eq hterm]

theorem hasState_eq (h : Recased v w) (state : Json) : hasState state v = hasState state w := by
  rw [hasState, hasState, h.get_eq (by decide)]

theorem hasTag_eq (h : Recased v w) (wanted : List Json) : hasTag wanted v = hasTag wanted w := by
  rw [hasTag, hasTag, tagNames, tagNames, h.get_eq (by decide)]

theorem isMetBy_eq (h : Recased v w) (hterm : SameLetters term other) (active tags : Json) :
    Criteria.isMetBy ⟨.str term, active, tags⟩ v =
      Criteria.isMetBy ⟨.str other, active, tags⟩ w := by
  simp only [Criteria.isMetBy, h.isNamed_eq hterm, isInState, isTagged, tagsOf,
    h.fieldOf_eq (show "active" ≠ "name" by decide), h.fieldOf_eq (show "tags" ≠ "name" by decide)]

end Recased

/-! ## Listings -/

theorem searchStep_abreast (hterm : SameLetters term other)
    (h : List.Forall₂ Recased workflows others) :
    Abreast (List.Forall₂ Recased) (searchStep (.str term) workflows)
      (searchStep (.str other) others) := by
  have hset : (Json.str term).truthy = (Json.str other).truthy := by
    rw [Bool.eq_iff_iff]
    simp only [Json.truthy, bne_iff_ne, ne_eq, eq_empty_iff_of_sameLetters hterm]
  unfold searchStep
  rw [hset]
  split
  · exact keep_abreast (fun v w hvw => hvw.nameHolds_eq hterm) h
  · exact .ok h

theorem activeStep_abreast (active : Json) (h : List.Forall₂ Recased workflows others) :
    Abreast (List.Forall₂ Recased) (activeStep active workflows) (activeStep active others) := by
  unfold activeStep
  split
  · exact .ok h
  · exact keep_abreast (fun v w hvw => hvw.hasState_eq active) h

theorem tagStep_abreast (tags : Json) (h : List.Forall₂ Recased workflows others) :
    Abreast (List.Forall₂ Recased) (tagStep tags workflows) (tagStep tags others) := by
  unfold tagStep
  split
  · cases tags.items with
    | error cause => exact .error cause
    | ok items =>
        simp only [Bind.bind, Except.bind]
        cases items.mapM Json.asKey with
        | error cause => exact .error cause
        | ok wanted => exact keep_abreast (fun v w hvw => hvw.hasTag_eq wanted) h
  · exact .ok h

theorem select_abreast (hterm : SameLetters term other) (active tags : Json)
    (h : List.Forall₂ Recased workflows others) :
    Abreast (List.Forall₂ Recased) (Criteria.select ⟨.str term, active, tags⟩ workflows)
      (Criteria.select ⟨.str other, active, tags⟩ others) := by
  apply (searchStep_abreast hterm h).bind
  intro named found hnamed
  apply (activeStep_abreast active hnamed).bind
  intro living left hliving
  exact tagStep_abreast tags hliving

/-- A search goes by letters and not by their case. With the case of letters in ASCII changed in
the term and in names, criteria are met at the same places, and every window shows the same
places of both listings, whatever else is asked. A search by name alone does not fail. -/
theorem search_ignores_letter_case (hterm : SameLetters term other)
    (h : List.Forall₂ Recased workflows others) :
    (∀ active tags : Json,
      Criteria.places ⟨.str term, active, tags⟩ workflows =
        Criteria.places ⟨.str other, active, tags⟩ others ∧
      ∀ window : Window,
        Abreast (Alike workflows others (Criteria.places ⟨.str term, active, tags⟩ workflows))
          (Query.run ⟨⟨.str term, active, tags⟩, window⟩ workflows)
          (Query.run ⟨⟨.str other, active, tags⟩, window⟩ others)) ∧
    ∀ offset limit : Int, ∃ page, (searching term).page offset limit workflows = .ok page := by
  constructor
  · intro active tags
    have hplaces := places_congr (h.imp fun v w hvw => hvw.isMetBy_eq hterm active tags)
    exact ⟨hplaces, alike_run hplaces (select_abreast hterm active tags h)⟩
  · intro offset limit
    have hsearchable : ∀ v ∈ workflows, IsSearchable v := by
      intro v hv
      obtain ⟨w, -, hvw⟩ := exists_left_of_mem_right h.flip hv
      exact hvw.isSearchable.1
    exact ⟨_, Criteria.page_of_select (select_searching term hsearchable) offset limit⟩

/-- A capital sigma behind a letter ends a word whichever case the letter has. -/
theorem search_ignores_case_before_sigma :
    SameLetters "aΣ" "AΣ" ∧ List.Forall₂ Recased [named "ΒaΣ", .obj []] [named "ΒAΣ", .obj []] ∧
      ∃ page again, (searching "aΣ").page 0 50 [named "ΒaΣ", .obj []] = .ok page ∧
        (searching "AΣ").page 0 50 [named "ΒAΣ", .obj []] = .ok again ∧
        page.total = again.total ∧ page.data.length = again.data.length := by
  have hterm : SameLetters "aΣ" "AΣ" := by decide
  have hnames : List.Forall₂ Recased [named "ΒaΣ", .obj []] [named "ΒAΣ", .obj []] :=
    .cons (.renamed rfl (by decide)) (.cons (.unnamed rfl) .nil)
  obtain ⟨halike, hreturns⟩ := search_ignores_letter_case hterm hnames
  obtain ⟨page, hpage⟩ := hreturns 0 50
  have hpages := (halike .null .null).2 ⟨.int 0, .int 50⟩
  change Abreast _ ((searching "aΣ").page 0 50 _) ((searching "AΣ").page 0 50 _) at hpages
  rw [hpage] at hpages
  generalize hagain : (searching "AΣ").page 0 50 [named "ΒAΣ", .obj []] = second at hpages
  cases hpages with
  | @ok _ again hshown =>
      exact ⟨hterm, hnames, page, again, hpage, rfl,
        hshown.total.1.trans hshown.total.2.symm, hshown.count⟩

end Flowgate.Listing
