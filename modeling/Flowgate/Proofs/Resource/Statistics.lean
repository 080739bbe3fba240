import Flowgate.Proofs.Engine.Course
import Flowgate.Proofs.Execution.Records
import Flowgate.Resource.Read

/-! # What reading the statistics gives

Reading the statistics makes one call, for a page of the latest executions. An engine that
fails gives zeros and a reason for them, and a page with a list of records gives the summary
of the records. A page that offers no records is a fault.
-/

namespace Flowgate

namespace Resource

open Client Exchange

variable {c : Client} {limit : Json}

/-- The call for the latest executions. -/
def statsCall (limit : Json) : Call :=
  { method := .get, endpoint := "/executions"
    parameters := some ({ limit } : ExecutionFilter).parameters }

/-- Zeros, and why there is nothing else. -/
def noStats : Json :=
  .obj [("total", .int 0), ("succeeded", .int 0), ("failed", .int 0), ("waiting", .int 0),
    ("avgExecutionTime", .str "0.00s"), ("error", .str "Failed to retrieve execution statistics")]

/-- The statistics of a page. -/
def statsOf (page : Json) : Except Fault Json := do
  let data ← page.getOr "data" (.arr [])
  return (← Execution.summarizeItems data).toJson

/-- What is answered with the answer of the call. -/
def shown : Except Failure Json → Except Failure Json
  | .ok page => (statsOf page).mapError .fault
  | .error (.engine _) => .ok noStats
  | .error failure => .error failure

theorem toJson_unavailable : (Execution.Summary.unavailable statsReason).toJson = noStats := by
  have hzero : (Binary64.zero false).toCents = "0.00" := by decide +kernel
  have htext : (Execution.Summary.unavailable statsReason).averageText = "0.00s" := by
    simp only [Execution.Summary.averageText, Execution.Summary.unavailable,
      Execution.Summary.ofTally, Execution.Tally.average, Execution.Tally.zero, if_true, hzero]
    rfl
  rw [Execution.Summary.toJson, htext]
  rfl

/-! ## What a page offers -/

/-- The records that a page offers. None are offered by an object without data, or with a
text or an object for them that holds nothing. -/
inductive Offers : Json → List Json → Prop
  | unset {fields : List (String × Json)} : fields.lookup "data" = none → Offers (.obj fields) []
  | listed {fields : List (String × Json)} {records : List Json} :
      fields.lookup "data" = some (.arr records) → Offers (.obj fields) records
  | blankText {fields : List (String × Json)} : fields.lookup "data" = some (.str "") →
      Offers (.obj fields) []
  | blankObject {fields : List (String × Json)} : fields.lookup "data" = some (.obj []) →
      Offers (.obj fields) []

theorem statsOf_of_offers {page : Json} {records : List Json} (h : Offers page records) :
    statsOf page = (Execution.summarize records).map Execution.Summary.toJson := by
  have hsteps : ∀ data : Json, data.items = .ok records → page.getOr "data" (.arr []) = .ok data →
      statsOf page = (Execution.summarize records).map Execution.Summary.toJson := by
    intro data hitems hdata
    simp only [statsOf, hdata, Execution.summarizeItems, hitems, Bind.bind, Except.bind]
    cases Execution.summarize records <;> rfl
  cases h with
  | unset hdata => exact hsteps (.arr []) rfl (by simp [Json.getOr, hdata])
  | listed hdata => exact hsteps (.arr records) rfl (by simp [Json.getOr, hdata])
  | blankText hdata => exact hsteps (.str "") rfl (by simp [Json.getOr, hdata])
  | blankObject hdata => exact hsteps (.obj []) rfl (by simp [Json.getOr, hdata])

theorem summarize_text (s : String) (rest : List Json) :
    Execution.summarize (.str s :: rest) = .error (.noMember .str "get") :=
  rfl

theorem statsOf_of_nothing {page : Json} (h : ∀ records, ¬ Offers page records) :
    ∃ fault, statsOf page = .error fault := by
  cases page with
  | obj fields =>
      cases hdata : fields.lookup "data" with
      | none => exact absurd (.unset hdata) (h [])
      | some data =>
          simp only [statsOf, Json.getOr, hdata, Option.getD_some, Execution.summarizeItems,
            Bind.bind, Except.bind]
          cases data with
          | arr records => exact absurd (.listed hdata) (h records)
          | str s =>
              cases hs : s.toList with
              | nil =>
                  have hempty : s = "" := String.toList_injective hs
                  exact absurd (.blankText (hempty ▸ hdata)) (h [])
              -- the items of a text are texts, and a text is no record
              | cons c rest =>
                  simp only [Json.items, hs, List.map_cons, summarize_text]
                  exact ⟨_, rfl⟩
          | obj entries =>
              cases entries with
              | nil => exact absurd (.blankObject hdata) (h [])
              | cons entry rest =>
                  simp only [Json.items, List.map_cons, summarize_text]
                  exact ⟨_, rfl⟩
          | _ => exact ⟨_, rfl⟩
  | _ => exact ⟨_, rfl⟩

/-! ## The one call -/

/-- The statistics of the page that the call is answered with, and every failure as it is. -/
theorem takes_page (c : Client) (limit : Json) :
    Takes (do
      let page ← c.listExecutions { limit }
      let data ← shaped (page.getOr "data" (.arr []))
      return (← shaped (Execution.summarizeItems data)).toJson)
    fun steps answer => ∃ page, Called c (statsCall limit) steps page ∧
      answer = page.bind fun page => (statsOf page).mapError .fault := by
  unfold listExecutions
  rw [bind_assoc]
  refine .log_bind (takes_request_bind ?_ ?_)
  · intro steps failure hcalled
    exact ⟨.error failure, hcalled, rfl⟩
  · intro r response hcalled
    refine .shaped_bind (fun data hdata => .shaped_bind (fun summary hsummary => ?_) ?_) ?_
    · refine .pure _ ⟨_, hcalled, ?_⟩
      simp [Except.bind, statsOf, hdata, hsummary, Bind.bind, Except.mapError, pure, Except.pure]
    · intro fault hsummary
      refine ⟨_, hcalled, ?_⟩
      simp [Except.bind, statsOf, hdata, hsummary, Bind.bind, Except.mapError]
    · intro fault hdata
      refine ⟨_, hcalled, ?_⟩
      simp [Except.bind, statsOf, hdata, Bind.bind, Except.mapError]

theorem takes_readStats (c : Client) (limit : Json) :
    (readStats c limit).Takes fun steps answer =>
      ∃ page, Called c (statsCall limit) steps page ∧ answer = shown page := by
  refine .recover ((takes_page c limit).imp ?_)
  intro steps answer ⟨page, hcalled, hanswer⟩
  subst hanswer
  cases page with
  | ok page =>
      refine ⟨fun error herror => ?_, fun _ => ⟨_, hcalled, rfl⟩⟩
      -- a page is never taken for a failure of the engine
      obtain ⟨fault, -, hfault⟩ := mapError_eq_error.mp herror
      cases hfault
  | error failure =>
      refine ⟨fun error herror => ?_, fun hserved => ⟨_, hcalled, ?_⟩⟩
      · cases herror
        have hsent : Called c (statsCall limit) (steps ++ []) (.error (.engine error)) := by
          rwa [List.append_nil]
        exact .log_bind (.pure _ ⟨_, hsent, congrArg Except.ok toJson_unavailable⟩)
      · cases failure with
        | engine error => exact absurd rfl (hserved error)
        | _ => rfl

/-- A locator that names a resource goes the course of fetching it. -/
theorem takes_read {s : String} {resource : Resource} {p : Course Json}
    (hnamed : ofUri? (Text.dropSlashes s) = some resource)
    (h : (fetch c limit resource).Takes p) : (read c limit s).Takes p := by
  unfold read
  refine .log_bind ?_
  rw [hnamed]
  exact h

/-! ## Answers by outcome -/

/-- What is answered for the outcome of the one call, made to a locator. -/
def Renders (url : Url) (answer : Except Failure Json) : Outcome → Prop
  | .unreachable _ => answer = .ok noStats
  | .aborted reason => answer = .error reason.failure
  | .answer response =>
      (url.isAbsolute = false → answer = .error (.placeless url.toText)) ∧
      (url.isAbsolute = true → 400 ≤ response.status → answer = .ok noStats) ∧
      (url.isAbsolute = true → response.status < 400 →
        (∀ records, Offers response.body records →
          (∀ record ∈ records, Execution.IsRecord record) →
          ∃ summary, Execution.summarize records = .ok summary ∧ answer = .ok summary.toJson) ∧
        ((∀ records, ¬ Offers response.body records) →
          ∃ fault, answer = .error (.fault fault)))

/-- The page that an engine answers with is summarized where it offers records as they are
documented. -/
theorem shown_of_offers {page : Json} {records : List Json} (hoffers : Offers page records)
    (hrecords : ∀ record ∈ records, Execution.IsRecord record) :
    ∃ summary, Execution.summarize records = .ok summary ∧
      shown (.ok page) = .ok summary.toJson := by
  obtain ⟨summary, hsummary⟩ := Execution.exists_summarize hrecords
  refine ⟨summary, hsummary, ?_⟩
  rw [shown, statsOf_of_offers hoffers, hsummary]
  rfl

theorem shown_of_nothing {page : Json} (h : ∀ records, ¬ Offers page records) :
    ∃ fault, shown (.ok page) = .error (.fault fault) := by
  obtain ⟨fault, hfault⟩ := statsOf_of_nothing h
  refine ⟨fault, ?_⟩
  rw [shown, hfault]
  rfl

theorem renders_of_called {url : Url} {r : Request} {steps : List (Request × Outcome)}
    {page : Except Failure Json} (hprepare : c.prepare (statsCall limit) = .ok (url, r))
    (hcalled : Called c (statsCall limit) steps page) :
    ∃ outcome, steps = [(r, outcome)] ∧ Renders url (shown page) outcome := by
  cases hcalled with
  | refused hother => cases hprepare.symm.trans hother
  | unreachable message hother =>
      cases hprepare.symm.trans hother
      exact ⟨_, rfl, rfl⟩
  | aborted reason hother =>
      cases hprepare.symm.trans hother
      refine ⟨_, rfl, ?_⟩
      cases reason <;> rfl
  | placeless response hother habsolute =>
      cases hprepare.symm.trans hother
      refine ⟨_, rfl, fun _ => rfl, ?_, ?_⟩
      · intro hplaced
        cases habsolute.symm.trans hplaced
      · intro hplaced
        cases habsolute.symm.trans hplaced
  | rejected response hother habsolute hstatus =>
      cases hprepare.symm.trans hother
      refine ⟨_, rfl, ?_, fun _ _ => rfl, ?_⟩
      · intro hplaceless
        cases habsolute.symm.trans hplaceless
      · intro _ hserved
        exact absurd hstatus (Int.not_le.mpr hserved)
  | answered response hother habsolute hstatus =>
      cases hprepare.symm.trans hother
      refine ⟨_, rfl, ?_, ?_, fun _ _ => ⟨?_, shown_of_nothing⟩⟩
      · intro hplaceless
        cases habsolute.symm.trans hplaceless
      · intro _ hrejected
        exact absurd hrejected (Int.not_le.mpr hstatus)
      · intro records hoffers hrecords
        exact shown_of_offers hoffers hrecords

/-- Reading the statistics makes one request. Where the engine fails there are zeros and a
reason; a page of an engine that answers is summarized if it offers records, and is a fault
if it does not. -/
theorem statistics_by_outcome {url : Url} {r : Request}
    (hprepare : c.prepare (statsCall limit) = .ok (url, r)) (l : Link) :
    ((read c limit "n8n://execution-stats").after l).requests = l.requests ++ [r] ∧
      Renders url ((read c limit "n8n://execution-stats").answer l) (l.outcome 0) := by
  have hnamed : ofUri? (Text.dropSlashes "n8n://execution-stats") = some executionStats := by
    decide
  obtain ⟨steps, hrequests, -, houtcomes, page, hcalled, hanswer⟩ :=
    takes_read (p := fun steps answer => ∃ page, Called c (statsCall limit) steps page ∧
      answer = shown page) hnamed (takes_readStats c limit) l
  obtain ⟨outcome, hsteps, hrenders⟩ := renders_of_called hprepare hcalled
  subst hsteps
  have hmet : l.outcome 0 = outcome := Link.outcome_eq_getElem houtcomes 0 Nat.zero_lt_one
  rw [hrequests, hanswer, hmet]
  exact ⟨rfl, hrenders⟩

/-- A page with one record is summarized. -/
theorem statistics_of_one_record :
    let c : Client := ⟨"http://n8n.test/api/v1", "key", .int 30⟩
    let record : Json := .obj [("startedAt", .str "2024-01-01T00:00:00.000Z")]
    let body := "\x7b\"data\":[\x7b\"startedAt\":\"2024-01-01T00:00:00.000Z\"\x7d]\x7d"
    Execution.IsRecord record ∧ ∃ summary, Execution.summarize [record] = .ok summary ∧
      (read c (.int 100) "n8n://execution-stats").answer
        ⟨[.answer (.ofOctets 200 (Utf8.encode body))], [], []⟩ = .ok summary.toJson := by
  intro c record body
  let url : Url := ⟨"http", "", "n8n.test", none, "/api/v1/executions", some "limit=100", none⟩
  let r : Request := ⟨.get, "http://n8n.test/api/v1/executions?limit=100", "key", .int 30, none⟩
  have hprepare : c.prepare (statsCall (.int 100)) = .ok (url, r) := by cbv
  have hbody :
      (Response.ofOctets 200 (Utf8.encode body)).body = .obj [("data", .arr [record])] := by cbv
  have hmoment : Execution.IsMoment "2024-01-01T00:00:00.000Z" :=
    ⟨"2024-01-01T00:00:00.000".toList, by decide, by unfold Execution.momentForm; decide⟩
  have hrecord : Execution.IsRecord record := by
    intro key hkey
    rcases List.mem_pair.mp hkey with rfl | rfl
    · exact .inr ⟨_, rfl, hmoment⟩
    · exact .inl rfl
  obtain ⟨-, -, -, hserved⟩ :=
    statistics_by_outcome hprepare ⟨[.answer (.ofOctets 200 (Utf8.encode body))], [], []⟩
  refine ⟨hrecord, (hserved rfl (by decide)).1 [record] ?_ (by simpa using hrecord)⟩
  rw [hbody]
  exact .listed rfl

/-- A bare list of records, as older engines answer, is a fault. -/
theorem statistics_of_bare_list :
    (read ⟨"http://n8n.test/api/v1", "key", .int 30⟩ (.int 100) "n8n://execution-stats").answer
        ⟨[.answer (.ofOctets 200 (Utf8.encode "[\x7b\"finished\":true\x7d]"))], [], []⟩ =
      .error (.fault (.noMember .arr "get")) := by
  cbv

end Resource

end Flowgate
