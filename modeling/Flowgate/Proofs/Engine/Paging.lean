import Flowgate.Proofs.Engine.Documented
import Flowgate.Proofs.Engine.Serving
import Flowgate.Proofs.Url.Form

/-! # Pages of workflows

An engine tells all workflows in pages, and each page but the last one tells the cursor of the
next. The client asks for one page after the other, with the cursor that it was told and with
the same limit, and what it has in the end are the workflows of all pages in order.
-/

namespace Flowgate

namespace Client

open Engine Exchange

/-- Outcomes that are the pages of a list, the cursors that are told on the way, and the
entries of all pages in order. A page is an object; the last one may be a bare list. -/
inductive Listed : List Outcome → List String → List Json → Prop
  | bare {page : Outcome} {items : List Json} : page.Serves (.arr items) →
      Listed [page] [] items
  | last {page : Outcome} {fields : List (String × Json)} {items : List Json} :
      page.Serves (.obj fields) → (fields.lookup "data").getD (.arr []) = .arr items →
      (Json.getField "nextCursor" fields).truthy = false → Listed [page] [] items
  | more {page : Outcome} {fields : List (String × Json)} {items rest : List Json}
      {cursor : String} {pages : List Outcome} {cursors : List String} :
      page.Serves (.obj fields) → (fields.lookup "data").getD (.arr []) = .arr items →
      Json.getField "nextCursor" fields = .str cursor → cursor ≠ "" →
      Listed pages cursors rest → Listed (page :: pages) (cursor :: cursors) (items ++ rest)

theorem Listed.length {outcomes : List Outcome} {cursors : List String} {entries : List Json}
    (h : Listed outcomes cursors entries) : outcomes.length = cursors.length + 1 := by
  induction h with
  | bare | last => rfl
  | more _ _ _ _ _ ih => rw [List.length_cons, List.length_cons, ih]

variable {c : Client} {url : Url} {r : Request} {l : Link} {v : Json} {left : List Outcome}

/-! ## The query of a page -/

/-- The pairs of the query of a page. -/
def pageForm (pageSize : Int) (cursor : Option String) : List (String × String) :=
  ("limit", toString pageSize) :: (cursor.map (("cursor", ·))).toList

/-- A cursor as it is handed over; without one it is null. -/
def cursorValue (cursor : Option String) : Json := cursor.elim .null .str

theorem queryText_pageCall (pageSize : Int) (cursor : Option String) :
    queryText (setParameters [("limit", .int pageSize), ("cursor", cursorValue cursor),
      ("active", .null), ("tags", .null)]) =
        some (String.ofList (Url.formEncode (pageForm pageSize cursor))) := by
  cases cursor <;> rfl

/-- The request for a page, made from the one for the first page: nothing but the query is
another. -/
def pageRequest (url : Url) (r : Request) (pageSize : Int) (cursor : Option String) : Request :=
  { r with url := Url.toText { url with
      query := some (String.ofList (Url.formEncode (pageForm pageSize cursor))) } }

/-- No cursor stands in the way of a page. -/
theorem isSpelt_page {pageSize : Int} (h : (pageCall (.int pageSize) .null).IsSpelt)
    (cursor : Option String) : (pageCall (.int pageSize) (cursorValue cursor)).IsSpelt := by
  have hlimit : (Json.int pageSize).textFlaw? = none :=
    Json.textFlaw?_obj.mp h.parameters ("limit", .int pageSize) List.mem_cons_self
  refine ⟨rfl, Json.textFlaw?_obj.mpr ?_⟩
  simp only [pageCall, Option.getD_some, List.forall_mem_cons]
  refine ⟨hlimit, ?_, rfl, rfl, nofun⟩
  cases cursor <;> rfl

/-- Where the first page can be asked for so can any other, unless the query is too long. -/
theorem prepare_page_cases {pageSize : Int}
    (hready : c.prepare (pageCall (.int pageSize) .null) = .ok (url, r))
    (cursor : Option String) :
    let query := Url.formEncode (pageForm pageSize cursor)
    query.length ≤ Url.lengthLimit ∧
        c.prepare (pageCall (.int pageSize) (cursorValue cursor)) =
          .ok ({ url with query := some (String.ofList query) },
            pageRequest url r pageSize cursor) ∨
      Url.lengthLimit < query.length ∧
        c.prepare (pageCall (.int pageSize) (cursorValue cursor)) =
          .error (.url (.partTooLong "query")) := by
  obtain ⟨hfirst, base, body, hlocate, hurl, hbody, hkey, hplace, rfl⟩ := prepare_eq_ok.mp hready
  have hspelt := isSpelt_page hfirst cursor
  have hparameters : withParameters base
      (pageCall (.int pageSize) (cursorValue cursor)).parameters =
        base.withQuery (Url.formQuery (pageForm pageSize cursor)) :=
    congrArg base.withQuery (queryText_pageCall pageSize cursor)
  have hcases := Url.withQuery_form_cases hurl (pageForm pageSize cursor)
  rw [← hparameters] at hcases
  refine hcases.imp (fun ⟨hshort, hquery⟩ => ⟨hshort, ?_⟩) fun ⟨hlong, hquery⟩ => ⟨hlong, ?_⟩
  · exact prepare_eq_ok.mpr ⟨hspelt, base, body, hlocate, hquery, hbody, hkey, hplace, rfl⟩
  · exact prepare_of_unasked hspelt hlocate hkey hquery

/-! ## The pages one after the other -/

section Pages

variable {pageSize : Int} {outcomes : List Outcome} {cursors : List String} {entries : List Json}

/-- A page that is served is asked for with its cursor. -/
theorem yields_listWorkflows (hready : c.prepare (pageCall (.int pageSize) .null) = .ok (url, r))
    (habsolute : url.isAbsolute = true) {cursor : Option String}
    (hshort : (Url.formEncode (pageForm pageSize cursor)).length ≤ Url.lengthLimit)
    {page : Outcome} (hserves : page.Serves v) (hscript : l.script = page :: left) :
    Yields (c.listWorkflows (.int pageSize) (cursorValue cursor) .null .null) l (.ok v)
      [pageRequest url r pageSize cursor] left := by
  rcases prepare_page_cases hready cursor with ⟨-, hprepare⟩ | ⟨hlong, -⟩
  · exact .shaped_bind rfl (yields_request hprepare habsolute hserves hscript)
  · exact absurd hshort (Nat.not_le.mpr hlong)

/-- From any cursor on, the entries of the pages that follow are gathered behind those that
were gathered before, with one request for each page. -/
theorem yields_pagesFrom (hready : c.prepare (pageCall (.int pageSize) .null) = .ok (url, r))
    (habsolute : url.isAbsolute = true) (hlisted : Listed outcomes cursors entries)
    (hscript : l.script = outcomes ++ left) {fuel : Nat} (hfuel : outcomes.length ≤ fuel)
    (cursor : Option String) (gathered : List Json)
    (hshort : ∀ asked ∈ cursor :: cursors.map some,
      (Url.formEncode (pageForm pageSize asked)).length ≤ Url.lengthLimit) :
    Yields (c.pagesFrom (.int pageSize) fuel (cursorValue cursor) gathered) l
      (.ok (gathered ++ entries)) ((cursor :: cursors.map some).map (pageRequest url r pageSize))
      left := by
  have hfirst := hshort cursor List.mem_cons_self
  induction hlisted generalizing l fuel cursor gathered with
  | bare hserves =>
      cases fuel with
      | zero => simp at hfuel
      | succ fuel =>
          have hpage := yields_listWorkflows hready habsolute hfirst hserves hscript
          exact hpage.bind (.pure _ hpage.script)
  | last hserves hdata hend =>
      cases fuel with
      | zero => simp at hfuel
      | succ fuel =>
          have hpage := yields_listWorkflows hready habsolute hfirst hserves hscript
          refine hpage.bind (.shaped_bind (congrArg Except.ok hdata) ?_)
          refine .shaped_bind rfl (.shaped_bind rfl ?_)
          rw [if_neg (by simp [hend])]
          exact .pure _ hpage.script
  | @more _ _ _ _ next _ _ hserves hdata hnext hset hlisted ih =>
      cases fuel with
      | zero => simp at hfuel
      | succ fuel =>
          have hpage := yields_listWorkflows hready habsolute hfirst hserves hscript
          have hrest := (List.forall_mem_cons.mp hshort).2
          refine hpage.bind (.shaped_bind (congrArg Except.ok hdata) (.shaped_bind rfl ?_))
          refine .shaped_bind (congrArg Except.ok hnext) ?_
          rw [if_pos (by simpa [Json.truthy] using hset), ← List.append_assoc]
          exact ih hpage.script (by simpa using hfuel) (some next) _ hrest
            (hrest _ List.mem_cons_self)

/-- A list in pages: they are the outcomes to come, and every cursor that is told can be put
into a query. -/
structure Paged (pageSize : Int) (l : Link) (outcomes : List Outcome) (cursors : List String)
    (entries : List Json) : Prop where
  listed : Listed outcomes cursors entries
  script : outcomes <+: l.script
  short : ∀ cursor ∈ cursors,
    (Url.formEncode (pageForm pageSize (some cursor))).length ≤ Url.lengthLimit

theorem Paged.of_script {m : Link} (h : Paged pageSize l outcomes cursors entries)
    (hscript : m.script = l.script) : Paged pageSize m outcomes cursors entries :=
  ⟨h.listed, hscript ▸ h.script, h.short⟩

/-- All workflows are those of the pages, each of which is asked for once. -/
theorem yields_listAllWorkflows
    (hready : c.prepare (pageCall (.int pageSize) .null) = .ok (url, r))
    (habsolute : url.isAbsolute = true) (h : Paged pageSize l outcomes cursors entries) :
    Yields (c.listAllWorkflows (.int pageSize)) l (.ok entries)
      ((none :: cursors.map some).map (pageRequest url r pageSize))
      (l.script.drop outcomes.length) := by
  obtain ⟨left, hscript⟩ := h.script
  have hfuel : outcomes.length ≤ l.script.length + 1 := by
    rw [← hscript, List.length_append]
    omega
  have hfirst : (Url.formEncode (pageForm pageSize none)).length ≤ Url.lengthLimit := by
    rcases prepare_page_cases hready none with ⟨hshort, -⟩ | ⟨-, hother⟩
    · exact hshort
    · cases hready.symm.trans hother
  have hshort : ∀ asked ∈ none :: cursors.map some,
      (Url.formEncode (pageForm pageSize asked)).length ≤ Url.lengthLimit :=
    List.forall_mem_cons.mpr ⟨hfirst, List.forall_mem_map.mpr h.short⟩
  rw [← hscript, List.drop_left]
  exact .get_bind (yields_pagesFrom hready habsolute h.listed hscript.symm hfuel none []
    hshort).bind_log_pure

/-- A cursor that is too long for a query is not asked for. -/
theorem yields_of_long_cursor
    (hready : c.prepare (pageCall (.int pageSize) .null) = .ok (url, r))
    (habsolute : url.isAbsolute = true) {page : Outcome} {fields : List (String × Json)}
    {items : List Json} {cursor : String} (hserves : page.Serves (.obj fields))
    (hdata : (fields.lookup "data").getD (.arr []) = .arr items)
    (hnext : Json.getField "nextCursor" fields = .str cursor) (hset : cursor ≠ "")
    (hlong : Url.lengthLimit < (Url.formEncode (pageForm pageSize (some cursor))).length)
    (hscript : l.script = page :: left) :
    Yields (c.listAllWorkflows (.int pageSize)) l (.error (.url (.partTooLong "query")))
      [r] left := by
  rcases prepare_page_cases hready (some cursor) with ⟨hshort, -⟩ | ⟨-, hrefused⟩
  · exact absurd hlong (Nat.not_lt.mpr hshort)
  have hpage : Yields (c.listWorkflows (.int pageSize) .null .null .null) l (.ok (.obj fields))
      [r] left :=
    .shaped_bind rfl (yields_request hready habsolute hserves hscript)
  refine .get_bind (.bind_error ?_)
  rw [hscript]
  refine hpage.bind (.shaped_bind (congrArg Except.ok hdata) (.shaped_bind rfl ?_))
  refine .shaped_bind (congrArg Except.ok hnext) ?_
  rw [if_pos (by simpa [Json.truthy] using hset)]
  exact .bind_error (.shaped_bind rfl (yields_request_of_error hrefused hpage.script))

end Pages

end Client

end Flowgate
