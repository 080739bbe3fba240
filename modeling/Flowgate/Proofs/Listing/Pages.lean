import Flowgate.Listing.Page
import Flowgate.Proofs.Listing.Matches

/-! # Pages of the matches

A page holds a run of the matches. Pages of one length that follow each other hold every match
once, in order. A limit below zero bounds no page: a page whose end falls below zero ends that
far in front of the last match.
-/

namespace Flowgate.Listing

variable {workflows items : List Json}

/-! ## Slices -/

/-- How many items a slice holds where there are enough of them behind its offset. -/
def sliceSize (offset : Nat) (limit : Int) (length : Nat) : Nat :=
  if offset + limit < 0 then (length + limit).toNat else limit.toNat

theorem slice_eq (offset : Nat) (limit : Int) (items : List Json) :
    slice offset limit items =
      (items.drop offset).take (sliceSize offset limit items.length) := by
  unfold slice sliceSize endPlace
  rw [List.drop_take, List.take_eq_take_iff, List.length_drop]
  split <;> omega

theorem slice_of_nat (offset size : Nat) (items : List Json) :
    slice offset size items = (items.drop offset).take size := by
  rw [slice_eq, sliceSize, if_neg (by omega), Int.toNat_natCast]

/-- Slices of one length, one behind the other, are a slice of all their lengths. -/
theorem flatten_slices (size : Nat) (items : List Json) (n : Nat) :
    ((List.range n).map fun k => (items.drop (k * size)).take size).flatten =
      items.take (n * size) := by
  induction n with
  | zero => simp
  | succ n ih =>
      rw [List.range_succ, List.map_append, List.flatten_append, ih, Nat.succ_mul, List.take_add]
      simp

/-! ## Windows of integers -/

/-- The limit that counts: zero stands for none. -/
def givenLimit (limit : Int) : Int := if limit = 0 then defaultLimit else limit

/-- The page of an integer offset and an integer limit. -/
def pageAt (offset limit : Int) (found : List Json) : Page where
  data := slice offset.toNat (givenLimit limit) found
  total := found.length
  offset := .nat offset.toNat
  limit := .int (givenLimit limit)

theorem reportedOffset_int (offset : Int) :
    reportedOffset (.int offset) = .ok (.nat offset.toNat) := by
  unfold reportedOffset
  by_cases hzero : offset = 0
  · simp [hzero, Json.truthy, Json.nat]
  · by_cases hneg : offset < 0
    · simp [Json.truthy, hzero, hneg, Json.nat, Int.toNat_of_nonpos (Int.le_of_lt hneg)]
    · simp [Json.truthy, hzero, hneg, Json.nat, Int.toNat_of_nonneg (Int.not_lt.mp hneg)]

theorem reportedLimit_int (limit : Int) :
    reportedLimit (.int limit) = .int (givenLimit limit) := by
  unfold reportedLimit givenLimit
  by_cases hzero : limit = 0 <;> simp [hzero, Json.truthy]

/-- A window of integers can always be cut out. -/
theorem Window.page_int (offset limit : Int) (found : List Json) :
    Window.page ⟨.int offset, .int limit⟩ found = .ok (pageAt offset limit found) := by
  unfold Window.page
  rw [reportedOffset_int, reportedLimit_int]
  rfl

/-- The page of an integer offset and an integer limit of the workflows that meet criteria. -/
def Criteria.page (c : Criteria) (offset limit : Int) (workflows : List Json) :
    Except Fault Page :=
  Query.run ⟨c, ⟨.int offset, .int limit⟩⟩ workflows

/-- What criteria select is cut into pages. -/
theorem Criteria.page_of_select {c : Criteria} {found : List Json}
    (h : c.select workflows = .ok found) (offset limit : Int) :
    c.page offset limit workflows = .ok (pageAt offset limit found) :=
  bind_eq_ok.mpr ⟨found, h, Window.page_int offset limit found⟩

/-- Criteria that give a page of a listing give one for all integers. -/
theorem Criteria.page_of_run {c : Criteria} {window : Window} {told : Page}
    (hrun : Query.run ⟨c, window⟩ workflows = .ok told) (offset limit : Int) :
    c.page offset limit workflows = .ok (pageAt offset limit (workflows.filter c.isMetBy)) := by
  obtain ⟨found, hfound, -⟩ := bind_eq_ok.mp hrun
  rw [Criteria.filter_of_select hfound]
  exact Criteria.page_of_select hfound offset limit

/-! ## Pages of one length -/

/-- The first pages of a length, each behind the one before. -/
def pagesOf (size : Nat) (found : List Json) (n : Nat) : List Page :=
  (List.range n).map fun k => pageAt ↑(k * size) size found

theorem data_pageAt {size : Nat} (hsize : 1 ≤ size) (start : Nat) (found : List Json) :
    (pageAt start size found).data = (found.drop start).take size := by
  have hgiven : givenLimit size = size := if_neg (by omega)
  simp only [pageAt, hgiven, Int.toNat_natCast]
  exact slice_of_nat start size found

theorem flatten_pagesOf {size : Nat} (hsize : 1 ≤ size) (found : List Json) (n : Nat) :
    ((pagesOf size found n).map Page.data).flatten = found.take (n * size) := by
  rw [← flatten_slices, pagesOf, List.map_map]
  congr 1
  apply List.map_congr_left
  intro k _
  exact data_pageAt hsize (k * size) found

/-- A match stands on one page, as far behind the first item there as its number is behind the
offset of the page. -/
theorem existsUnique_page {size : Nat} (hsize : 1 ≤ size) {found : List Json} {n : Nat}
    (hn : found.length ≤ n * size) {i : Nat} (hi : i < found.length) :
    ∃! k, ∃ page place, (pagesOf size found n)[k]? = some page ∧
      k * size + place = i ∧ page.data[place]? = found[i]? := by
  refine ⟨i / size, ?_, ?_⟩
  · have hk : i / size < n := Nat.div_lt_of_lt_mul (by rw [Nat.mul_comm]; omega)
    refine ⟨pageAt ↑(i / size * size) size found, i % size, ?_, Nat.div_add_mod' i size, ?_⟩
    · simp [pagesOf, hk]
    · rw [data_pageAt hsize, List.getElem?_take_of_lt (Nat.mod_lt i hsize), List.getElem?_drop,
        Nat.div_add_mod']
  · rintro k ⟨page, place, hpage, rfl, hplace⟩
    obtain ⟨hk, rfl⟩ : k < n ∧ pageAt ↑(k * size) size found = page := by
      simpa [pagesOf, List.getElem?_eq_some_iff] using hpage
    -- beyond the length of a page there is nothing that could be the match
    have hshort : place < size := by
      by_contra hlong
      rw [data_pageAt hsize, List.getElem?_eq_getElem hi,
        List.getElem?_take_eq_none (by omega)] at hplace
      cases hplace
    rw [Nat.add_comm, Nat.add_mul_div_right place k (by omega), Nat.div_eq_of_lt hshort,
      Nat.zero_add]

/-- Pages of one length tile the matches. The total is that of all matches whatever page is asked
for, pages that follow each other hold the matches in order and each of them once, no page behind
the last match holds anything, and an offset below zero is none. -/
theorem Criteria.pages_tile_matches {c : Criteria} {window : Window} {told : Page}
    (hrun : Query.run ⟨c, window⟩ workflows = .ok told) :
    (∀ offset limit, ∃ page, c.page offset limit workflows = .ok page ∧
      page.toJson.field? "total" = some (.nat (workflows.filter c.isMetBy).length) ∧
      page.toJson.field? "data" = some (.arr page.data) ∧
      page.toJson.field? "count" = some (.nat page.data.length)) ∧
    (∀ limit : Int, 1 ≤ limit → ∀ n : Nat, (workflows.filter c.isMetBy).length ≤ n * limit →
      ∃ pages, (List.range n).mapM (fun k : Nat => c.page (k * limit) limit workflows) =
          .ok pages ∧
        (pages.map Page.data).flatten = workflows.filter c.isMetBy ∧
        ∀ i < (workflows.filter c.isMetBy).length, ∃! k : Nat, ∃ page, ∃ place : Nat,
          pages[k]? = some page ∧ k * limit + place = i ∧
            page.data[place]? = (workflows.filter c.isMetBy)[i]?) ∧
    (∀ offset limit, (workflows.filter c.isMetBy).length ≤ offset →
      ∃ page, c.page offset limit workflows = .ok page ∧ page.data = []) ∧
    ∀ offset limit, offset < 0 → c.page offset limit workflows = c.page 0 limit workflows := by
  have hpage := Criteria.page_of_run hrun
  generalize workflows.filter c.isMetBy = found at *
  refine ⟨?_, ?_, ?_, ?_⟩
  · intro offset limit
    exact ⟨_, hpage offset limit, rfl, rfl, rfl⟩
  · intro limit hlimit n hn
    obtain ⟨size, rfl⟩ := Int.eq_ofNat_of_zero_le (by omega : 0 ≤ limit)
    have hsize : 1 ≤ size := by omega
    have hcover : found.length ≤ n * size := by exact_mod_cast hn
    refine ⟨pagesOf size found n, ?_, ?_, ?_⟩
    · apply mapM_eq_ok.mpr
      apply List.forall₂_map_right_iff.mpr
      apply List.forall₂_same.mpr
      intro k _
      rw [hpage, Int.natCast_mul]
    · rw [flatten_pagesOf hsize, List.take_of_length_le hcover]
    · intro i hi
      exact_mod_cast existsUnique_page hsize hcover hi
  · intro offset limit hoffset
    refine ⟨_, hpage offset limit, ?_⟩
    simp only [pageAt, slice_eq]
    rw [List.drop_eq_nil_of_le (by omega), List.take_nil]
  · intro offset limit hoffset
    rw [hpage, hpage, pageAt, pageAt, Int.toNat_of_nonpos (Int.le_of_lt hoffset), Int.toNat_zero]

/-- The criteria of those who look for workflows that run. -/
def running : Criteria := ⟨.null, .bool true, .null⟩

/-- Workflows of which no more than the state is told. -/
def inStates (states : List Bool) : List Json :=
  states.map fun state => .obj [("active", .bool state)]

/-- Three workflows that run are found on two pages. -/
theorem pages_tile_three_running :
    running.page 0 50 (inStates [true, false, true, true]) =
        .ok ⟨inStates [true, true, true], 3, .int 0, .int 50⟩ ∧
      ∃ pages, (List.range 2).mapM
          (fun k : Nat => running.page (k * 2) 2 (inStates [true, false, true, true])) =
            .ok pages ∧
        (pages.map Page.data).flatten = inStates [true, true, true] := by
  have hrun : running.page 0 50 (inStates [true, false, true, true]) =
      .ok ⟨inStates [true, true, true], 3, .int 0, .int 50⟩ := rfl
  obtain ⟨-, htile, -⟩ := Criteria.pages_tile_matches hrun
  obtain ⟨pages, hpages, hflatten, -⟩ := htile 2 (by decide) 2 (by decide)
  exact ⟨hrun, pages, hpages, hflatten⟩

/-! ## The length of a page -/

theorem length_pageAt (offset limit : Int) (found : List Json) :
    (pageAt offset limit found).data.length =
      if offset.toNat + givenLimit limit < 0 then (found.length + givenLimit limit).toNat
      else min (givenLimit limit).toNat (found.length - offset.toNat) := by
  simp only [pageAt, slice_eq, List.length_take, List.length_drop, sliceSize]
  split <;> omega

/-- A page is the run of the matches behind its offset. It has as many of them as its limit says
and as there are, and one with a limit below zero has none, save where its end falls below zero
and is counted from behind the last match: then the limit says how many matches are left out
there. -/
theorem Criteria.page_is_run {c : Criteria} {window : Window} {told : Page}
    (hrun : Query.run ⟨c, window⟩ workflows = .ok told) (offset limit : Int) :
    ∃ (page : Page) (o : Nat) (l : Int), c.page offset limit workflows = .ok page ∧
      page.offset = .nat o ∧ page.limit = .int l ∧
      o = offset.toNat ∧ l = (if limit = 0 then defaultLimit else limit) ∧
      page.total = (workflows.filter c.isMetBy).length ∧
      page.data = ((workflows.filter c.isMetBy).drop o).take page.data.length ∧
      page.data.length =
        (if o + l < 0 then (page.total + l).toNat else min l.toNat (page.total - o)) ∧
      (page.data.length = min l.toNat (page.total - o) ↔ ¬ (o + l < 0 ∧ 0 < page.total + l)) := by
  have hpage := Criteria.page_of_run hrun offset limit
  generalize workflows.filter c.isMetBy = found at *
  have hlength := length_pageAt offset limit found
  refine ⟨_, offset.toNat, givenLimit limit, hpage, rfl, rfl, rfl, rfl, rfl, ?_, hlength, ?_⟩
  · simp only [pageAt, slice_eq, List.length_take]
    rw [← List.take_eq_take_min]
  · -- with a limit below zero the law wants an empty page, and so it fails where one is not
    rw [hlength]
    simp only [pageAt]
    split <;> omega

/-- A page may start behind the last match, and its limit may be below zero. -/
theorem page_is_run_behind_matches :
    running.page 0 50 (inStates [true, true]) =
        .ok ⟨inStates [true, true], 2, .int 0, .int 50⟩ ∧
      ∃ page, running.page 3 (-1) (inStates [true, true]) = .ok page ∧
        page.data.length = min (-1 : Int).toNat (page.total - 3) := by
  have hrun : running.page 0 50 (inStates [true, true]) =
      .ok ⟨inStates [true, true], 2, .int 0, .int 50⟩ := rfl
  obtain ⟨page, o, l, hpage, -, -, rfl, rfl, -, -, -, hlaw⟩ :=
    Criteria.page_is_run hrun 3 (-1)
  exact ⟨hrun, page, hpage, hlaw.mpr fun h => absurd h.1 (by decide)⟩

/-- With a limit below zero the first page holds all matches but the last. -/
theorem page_overfills_negative_limit :
    running.page 0 (-1) (inStates [true, true, true]) =
        .ok ⟨inStates [true, true], 3, .int 0, .int (-1)⟩ ∧
      (inStates [true, true]).length ≠ min (-1 : Int).toNat (3 - 0) :=
  ⟨rfl, by decide⟩

end Flowgate.Listing
