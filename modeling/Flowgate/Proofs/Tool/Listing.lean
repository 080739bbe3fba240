import Flowgate.Proofs.Agreement
import Flowgate.Proofs.Engine.Address
import Flowgate.Proofs.Engine.Paging
import Flowgate.Proofs.Json.RoundTrip
import Flowgate.Proofs.Tool.Validation

/-! # Listing workflows that come in pages

What an agent is told about workflows is selected from the workflows of all pages. How the
engine puts them into pages is not seen in the answer, and every page is asked for once.
-/

namespace Flowgate.Tool

open Client Exchange

variable {c : Client} {pageSize : Int} {l : Link} {url : Url} {r : Request}
  {outcomes : List Outcome} {cursors : List String} {entries : List Json}

/-- What is selected from workflows is not led by the link. -/
theorem answer_list_eq {arguments : Json} {m : Link}
    (hl : (c.listAllWorkflows (.int 100)).answer l = .ok entries)
    (hm : (c.listAllWorkflows (.int 100)).answer m = .ok entries) :
    (runListWorkflows c arguments).answer l = (runListWorkflows c arguments).answer m := by
  unfold runListWorkflows
  rw [(bind_of_ok _ hl).1, (bind_of_ok _ hm).1]
  refine And.left ((?_ : Agree (fun _ _ => True) _ _) _ _ trivial)
  refine .bind (.shaped _) fun search => .bind (.shaped _) fun active => ?_
  refine .bind (.shaped _) fun tags => .bind (.ofExcept _) fun offset => ?_
  exact .bind (.ofExcept _) fun limit => .bind (.shaped _) fun page => .pure _

/-- An agent is told the same whenever the same workflows are listed. -/
theorem call_list_eq {arguments : Json} {m : Link} {others : List Outcome} {told : List String}
    (hready : c.prepare (pageCall (.int 100) .null) = .ok (url, r))
    (habsolute : url.isAbsolute = true) (hl : Paged 100 l outcomes cursors entries)
    (hm : Paged 100 m others told entries) :
    (call c "list_workflows" arguments).answer l =
      (call c "list_workflows" arguments).answer m := by
  obtain ⟨first, -, hfirst, hcall, -⟩ := call_eq_run c listWorkflows arguments l
  obtain ⟨second, -, hsecond, hother, -⟩ := call_eq_run c listWorkflows arguments m
  have hlist := yields_listAllWorkflows hready habsolute (hl.of_script hfirst)
  have hagain := yields_listAllWorkflows hready habsolute (hm.of_script hsecond)
  refine hcall.trans (Eq.trans ?_ hother.symm)
  exact congrArg (Except.mapError forAgent) (answer_list_eq hlist.answer hagain.answer)

/-- All workflows of all pages are listed, in order and each page once: the first request has no
cursor, and every other one has the cursor that the page before it told. The answer to an agent
is the same for all pages with the same workflows. -/
theorem list_gathers_pages (hready : c.prepare (pageCall (.int pageSize) .null) = .ok (url, r))
    (habsolute : url.isAbsolute = true) (hpaged : Paged pageSize l outcomes cursors entries) :
    (c.listAllWorkflows (.int pageSize)).answer l = .ok entries ∧
      (∃ requests,
        ((c.listAllWorkflows (.int pageSize)).after l).requests = l.requests ++ requests ∧
          requests.length = outcomes.length ∧
          List.Forall₂ (fun cursor request => request.method = .get ∧ ∃ query : String,
            request = { r with url := Url.toText { url with query := some query } } ∧
              Url.formDecode query.toList = some
                (("limit", toString pageSize) :: (cursor.map (("cursor", ·))).toList))
            (none :: cursors.map some) requests) ∧
      (pageSize = 100 → ∀ m others told, Paged 100 m others told entries → ∀ arguments,
        (call c "list_workflows" arguments).answer m =
          (call c "list_workflows" arguments).answer l) := by
  have hlist := yields_listAllWorkflows hready habsolute hpaged
  refine ⟨hlist.answer, ⟨_, hlist.requests, ?_, ?_⟩, ?_⟩
  · simp [hpaged.listed.length]
  · refine List.forall₂_map_right_iff.mpr (List.forall₂_same.mpr fun cursor _ => ?_)
    refine ⟨method_of_prepare hready, _, rfl, ?_⟩
    rw [String.toList_ofList, Url.formDecode_formEncode]
    rfl
  · rintro rfl m others told hother arguments
    exact call_list_eq hready habsolute hother hpaged

theorem prepare_firstPage : Operation.hosted.prepare (pageCall (.int 100) .null) =
    .ok (⟨"http", "", "n8n.test", none, "/api/v1/workflows", some "limit=100", none⟩,
      ⟨.get, "http://n8n.test/api/v1/workflows?limit=100", "key", .int 30, none⟩) := by
  cbv

/-- Two workflows in three pages, the second of them empty, are listed with three requests, and
an agent is told the same as of a bare list. A cursor may hold the marks of a form. -/
theorem list_gathers_three_pages :
    let first := Outcome.body "\x7b\"data\":[\"one\"],\"nextCursor\":\"a b&c=\"\x7d"
    let second := Outcome.body "\x7b\"nextCursor\":\"é\"\x7d"
    let l : Link := ⟨[first, second, Outcome.body "[\"two\"]"], [], []⟩
    let bare : Link := ⟨[Outcome.body "[\"one\",\"two\"]"], [], []⟩
    (Operation.hosted.listAllWorkflows (.int 100)).answer l = .ok [.str "one", .str "two"] ∧
      ((Operation.hosted.listAllWorkflows (.int 100)).after l).requests.length = 3 ∧
      ∀ arguments, (call Operation.hosted "list_workflows" arguments).answer bare =
        (call Operation.hosted "list_workflows" arguments).answer l := by
  intro first second l bare
  have hfirst : first.Serves
      (.obj [("data", .arr [.str "one"]), ("nextCursor", .str "a b&c=")]) :=
    ⟨by decide, by cbv⟩
  have hsecond : second.Serves (.obj [("nextCursor", .str "é")]) := ⟨by decide, by cbv⟩
  have hthird : (Outcome.body "[\"two\"]").Serves (.arr [.str "two"]) := ⟨by decide, by cbv⟩
  have hbare : (Outcome.body "[\"one\",\"two\"]").Serves (.arr [.str "one", .str "two"]) :=
    ⟨by decide, by cbv⟩
  have hpaged : Paged 100 l l.script ["a b&c=", "é"] [.str "one", .str "two"] :=
    ⟨.more hfirst rfl rfl (by decide) (.more hsecond rfl rfl (by decide) (.bare hthird)),
      List.prefix_refl _, by decide⟩
  obtain ⟨hanswer, ⟨requests, hrequests, hlength, -⟩, hsame⟩ :=
    list_gathers_pages prepare_firstPage rfl hpaged
  refine ⟨hanswer, by rw [hrequests]; exact hlength, fun arguments => ?_⟩
  exact hsame rfl _ _ [] ⟨.bare hbare, List.prefix_refl _, List.forall_mem_nil _⟩ arguments

/-- An empty page that tells a cursor. -/
def cursorPage (cursor : String) : Json := .obj [("data", .arr []), ("nextCursor", .str cursor)]

theorem serves_cursorPage (cursor : String) :
    (Outcome.body (String.ofList (cursorPage cursor).compact)).Serves (cursorPage cursor) := by
  have hkeys : (cursorPage cursor).UniqueKeys := by
    refine .obj (by simp) ?_
    simp only [List.forall_mem_cons]
    exact ⟨.arr nofun, .str cursor, nofun⟩
  have hutf8 : Json.Encoding.of (Utf8.encode (String.ofList (cursorPage cursor).compact)) =
      .utf8 := by
    rw [Utf8.encode, String.toList_ofList]
    rfl
  apply Outcome.serves_body
  rw [Json.ofOctets?, hutf8]
  exact Json.read?_body hkeys (Json.body_eq_ok.mpr ⟨rfl, rfl⟩)

/-- A list in two pages. -/
def twoPages (cursor : String) : Link :=
  ⟨[Outcome.body (String.ofList (cursorPage cursor).compact), Outcome.body "[]"], [], []⟩

/-- The second page is not asked for where the query would be longer than a locator may hold. -/
theorem list_of_long_cursor {cursor : String} (hlength : cursor.length = Url.lengthLimit) :
    Listed (twoPages cursor).script [cursor] [] ∧
      (Operation.hosted.listAllWorkflows (.int 100)).answer (twoPages cursor) =
        .error (.url (.partTooLong "query")) ∧
      ((Operation.hosted.listAllWorkflows (.int 100)).after (twoPages cursor)).requests.map
        Request.url = ["http://n8n.test/api/v1/workflows?limit=100"] := by
  have hbare : (Outcome.body "[]").Serves (.arr []) := ⟨by decide, by cbv⟩
  have hset : cursor ≠ "" := by
    rintro rfl
    cases hlength
  have hlong : Url.lengthLimit < (Url.formEncode (pageForm 100 (some cursor))).length := by
    have htext := Url.length_le_length_formText cursor
    simp only [pageForm, Option.map_some, Option.toList_some, Url.formEncode, Url.formPair,
      List.length_append, List.length_cons]
    omega
  have hscript : (twoPages cursor).script =
      Outcome.body (String.ofList (cursorPage cursor).compact) :: [Outcome.body "[]"] := rfl
  have hstop := yields_of_long_cursor prepare_firstPage rfl (serves_cursorPage cursor) rfl rfl
    hset hlong hscript
  exact ⟨.more (serves_cursorPage cursor) rfl rfl hset (.bare hbare), hstop.answer,
    congrArg (List.map Request.url) hstop.requests⟩

/-- With a cursor of that length the entries of both pages are not listed. -/
theorem list_stops_at_long_cursor :
    let cursor := String.ofList (List.replicate Url.lengthLimit 'a')
    Listed (twoPages cursor).script [cursor] [] ∧
      (Operation.hosted.listAllWorkflows (.int 100)).answer (twoPages cursor) =
        .error (.url (.partTooLong "query")) ∧
      ((Operation.hosted.listAllWorkflows (.int 100)).after (twoPages cursor)).requests.map
        Request.url = ["http://n8n.test/api/v1/workflows?limit=100"] :=
  list_of_long_cursor (by rw [String.length_ofList, List.length_replicate])

end Flowgate.Tool
