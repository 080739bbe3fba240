import Flowgate.Proofs.Engine.Documented
import Flowgate.Proofs.Engine.Endpoint
import Flowgate.Proofs.Engine.Serving
import Flowgate.Proofs.Tool.Course
import Flowgate.Proofs.Tool.Creation

/-! # Replacing a workflow

A workflow is replaced by what would be created of the same definition, under the name that it
has where the definition has none. Nothing is sent for a definition that does not compile.
-/

namespace Flowgate

namespace Client

open Exchange

variable {c : Client} {id workflow : Json}

theorem makes_updateWorkflow :
    (c.updateWorkflow id workflow).Takes (Makes c
      { method := .put, endpoint := workflowPath id, identifier := id, body := workflow }
      (· = [])) :=
  .log_bind (makes_request_bind rfl fun _ => .log_bind (.pure _ rfl))

end Client

namespace Tool

open Client Exchange

variable {c : Client} {fields : List (String × Json)} {id : String} {l : Link}

/-- The call that puts a graph in the place of a workflow, under a name. -/
def putCall (id : String) (g : Graph) (name : Json) : Call where
  method := .put
  endpoint := workflowPath (.str id)
  identifier := .str id
  body := Payload.toJson { g.payload with name }

/-- What is done with a fetched workflow: an object gives the name, and nothing else does. -/
def Renames (c : Client) (id : String) (g : Graph) (fetched : Json) : Course Json :=
  fun steps answer => ((∀ found, fetched ≠ .obj found) → steps = []) ∧
    ∀ found, fetched = .obj found →
      let name := Json.getField "name" found
      Makes c (putCall id g (if name.truthy then name else .str g.name)) (· = []) steps answer

theorem payload_renamed (g : Graph) (name : Json) :
    (if name.truthy then { g.payload with name } else g.payload) =
      { g.payload with name := (if name.truthy then name else .str g.name) } := by
  split <;> rfl

theorem takes_rename (id : String) (g : Graph) (fetched : Json) :
    (do
      let name ← Exchange.shaped (fetched.get "name")
      c.updateWorkflow (.str id)
        (if name.truthy then { g.payload with name } else g.payload).toJson).Takes
      (Renames c id g fetched) := by
  cases fetched with
  | obj found =>
      apply Takes.shaped_bind
      · intro name hname
        cases hname
        refine makes_updateWorkflow.imp fun steps answer hmakes => ⟨?_, ?_⟩
        · intro hnone
          exact absurd rfl (hnone found)
        · intro other hother
          cases hother
          rw [payload_renamed] at hmakes
          exact hmakes
      · nofun
  | _ =>
      apply Takes.shaped_bind
      · nofun
      · exact fun _ _ => ⟨fun _ => rfl, nofun⟩

/-- How a workflow is replaced under the name that it has: it is fetched, and only where that
gives an object is there another request. -/
def Refreshes (c : Client) (id : String) (g : Graph) : Course Json := fun steps answer =>
  ∀ url r, c.prepare (fetchCall (.str id)) = .ok (url, r) → url.isAbsolute = true →
    ∃ outcome more, steps = (r, outcome) :: more ∧
      ((∀ v, ¬ outcome.Serves v) → more = []) ∧
      ∀ v, outcome.Serves v → Renames c id g v more answer

theorem takes_refresh (id : String) (g : Graph) :
    (do
      let existing ← c.getWorkflow (.str id)
      let name ← Exchange.shaped (existing.get "name")
      c.updateWorkflow (.str id)
        (if name.truthy then { g.payload with name } else g.payload).toJson).Takes
      (Refreshes c id g) := by
  rw [Client.getWorkflow, bind_assoc]
  apply Takes.log_bind
  apply takes_request_bind
  · intro steps failure hcalled url r hprepare habsolute
    obtain ⟨outcome, rfl, hunserved⟩ := hcalled.unserved hprepare habsolute
    exact ⟨outcome, [], rfl, fun _ => rfl, fun v hserves => absurd hserves (hunserved v)⟩
  · intro r response hcalled
    refine (takes_rename id g _).imp fun more answer hrenames => ?_
    intro url other hprepare habsolute
    cases hcalled.sent hprepare
    refine ⟨_, more, rfl, fun hunserved => ?_, fun v hserves => ?_⟩
    · cases hcalled with
      | answered _ _ _ hstatus => exact absurd ⟨hstatus, rfl⟩ (hunserved _)
    · rw [← hserves.2]
      exact hrenames

/-- How a workflow is replaced: a definition is compiled before anything is sent, and its name
decides whether the workflow is fetched. -/
def Updates (c : Client) (fields : List (String × Json)) (id : String) : Course Json :=
  fun steps answer =>
    (∀ cause, Json.compile defaultWorkflowName (.obj fields) = .error cause →
      steps = [] ∧ answer = .error (.definition cause)) ∧
    ∀ g, Json.compile defaultWorkflowName (.obj fields) = .ok g →
      ((Json.getField "name" fields).truthy = true →
        Makes c (putCall id g (.str g.name)) (· = []) steps answer) ∧
      ((Json.getField "name" fields).truthy = false → Refreshes c id g steps answer)

theorem takes_runUpdate (hid : fields.lookup "id" = some (.str id)) (hne : id ≠ "") :
    (runUpdate c (.obj fields)).Takes (Updates c fields id) := by
  unfold runUpdate
  apply takes_workflowId_bind hid hne
  apply takes_compileArguments_bind
  · intro g hcompile
    apply Takes.shaped_bind
    · intro name hname
      cases hname
      split
      next hset =>
        refine makes_updateWorkflow.imp fun steps answer hmakes => ?_
        refine ⟨fun cause herror => ?_, fun other hother => ?_⟩
        · cases hcompile.symm.trans herror
        · cases hcompile.symm.trans hother
          refine ⟨fun _ => hmakes, fun hunset => ?_⟩
          rw [hset] at hunset
          cases hunset
      next hunset =>
        refine (takes_refresh id g).imp fun steps answer hrefreshes => ?_
        refine ⟨fun cause herror => ?_, fun other hother => ?_⟩
        · cases hcompile.symm.trans herror
        · cases hcompile.symm.trans hother
          exact ⟨fun hset => absurd hset hunset, fun _ => hrefreshes⟩
    · nofun
  · intro cause hcompile
    refine ⟨fun other hother => ?_, fun g hother => ?_⟩
    · cases hcompile.symm.trans hother
      exact ⟨rfl, rfl⟩
    · cases hcompile.symm.trans hother

theorem takes_call_update (hid : fields.lookup "id" = some (.str id)) (hne : id ≠ "") :
    (call c "update_workflow" (.obj fields)).Takes fun steps answer =>
      ∃ raw, answer = raw.mapError forAgent ∧ Updates c fields id steps raw := by
  change (call c updateWorkflow.name (.obj fields)).Takes _
  exact takes_call_of_run (takes_runUpdate hid hne)

/-- A name that is given is the name of the graph, and a graph without one has the default. -/
theorem name_of_compile {g : Graph}
    (h : Json.compile defaultWorkflowName (.obj fields) = .ok g) :
    (Json.getField "name" fields).truthy = true ∧ Json.getField "name" fields = .str g.name ∨
      (Json.getField "name" fields).truthy = false ∧ g.name = defaultWorkflowName := by
  obtain ⟨spec, hspec, hcompile⟩ := bind_eq_ok.mp h
  obtain ⟨⟨nodes, edges⟩, -, hgraph⟩ := bind_eq_ok.mp hcompile
  cases hgraph
  obtain ⟨_, heq, hname, -⟩ := Json.readWorkflow_eq_ok.mp (WorkflowSpec.ofJson_eq_ok.mp hspec)
  cases heq
  unfold WorkflowSpec.title Json.getField
  cases hlookup : fields.lookup "name" with
  | none =>
      have hnone : spec.name = none := by
        rcases Reading.optional_eq_ok.mp hname with ⟨-, hnone⟩ | ⟨_, _, hfield, -⟩
        · exact hnone
        · simp [Reading.fieldUnder, hlookup] at hfield
      rw [hnone]
      exact .inr ⟨rfl, rfl⟩
  | some v =>
      rw [Reading.optional_of_lookup hlookup, Reading.within_eq_ok] at hname
      cases v with
      | null =>
          rw [← Except.ok.inj hname]
          exact .inr ⟨rfl, rfl⟩
      | str s =>
          rw [← Except.ok.inj hname]
          by_cases hempty : s = ""
          · subst hempty
            exact .inr ⟨rfl, rfl⟩
          · exact .inl ⟨by simp [Json.truthy, hempty], by simp [hempty]⟩
      | _ => cases hname

/-- A workflow under another name: all other fields are the same. -/
structure Renamed (created name sent : Json) : Prop where
  name : sent.field? "name" = some name
  rest : ∀ key, key ≠ "name" → sent.field? key = created.field? key

theorem renamed_payload (g : Graph) (name : Json) :
    Renamed g.payload.toJson name (Payload.toJson { g.payload with name }) where
  name := rfl
  rest key hkey := by
    have hother : (key == "name") = false := beq_eq_false_iff_ne.mpr hkey
    simp only [Payload.toJson, Json.field?, List.lookup_cons, hother]

section Requests

variable {base : Url} {g : Graph} {name : Json} {steps : List (Request × Outcome)}
  {answer : Except Failure Json}

theorem workflowPath_str (id : String) : workflowPath (.str id) = "/workflows/" ++ id := by
  apply String.toList_injective
  rw [toList_workflowPath, String.toList_append]
  rfl

theorem prepare_workflow (hready : c.Ready base)
    (hletters : ∀ letter ∈ id.toList, letter.isAlphanum = true)
    (hlength : (c.baseUrl ++ "/workflows/" ++ id).length ≤ Url.lengthLimit) (method : Method) :
    ∃ url, url.isAbsolute = true ∧
      c.prepare { method, endpoint := workflowPath (.str id), identifier := .str id } =
        .ok (url, ⟨method, base.toText ++ "/workflows/" ++ id, c.apiKey, c.timeout, none⟩) := by
  have hfixed : Url.IsFixed id.toList := by
    apply Url.isFixed_of_isUnreserved
    intro letter hletter
    refine ⟨by simp [Url.isUnreserved, hletters letter hletter], ?_⟩
    rintro rfl
    exact absurd (hletters '.' hletter) (by decide)
  have hparts : ∀ part ∈ ["workflows".toList, id.toList], Url.IsFixed part :=
    List.forall_mem_cons.mpr ⟨Url.isFixed_workflows _ List.mem_cons_self,
      List.forall_mem_singleton.mpr hfixed⟩
  have hendpoint : (workflowPath (.str id)).toList =
      Url.joined ["workflows".toList, id.toList] := by
    simp [workflowPath_str, Url.joined]
  rw [String.append_assoc, ← workflowPath_str] at hlength
  refine ⟨{ base with path := base.path ++ workflowPath (.str id) }, hready.absolute, ?_⟩
  rw [hready.prepare_endpoint (List.cons_ne_nil _ _) hparts hendpoint hlength method rfl,
    workflowPath_str, String.append_assoc]

/-- A graph is put in the place of a workflow where the name that it gets can be written. -/
theorem put_of_makes {url : Url} {r : Request}
    (hput :
      c.prepare { method := .put, endpoint := workflowPath (.str id), identifier := .str id } =
        .ok (url, r))
    (hwritable : g.payload.toJson.isWritable = true)
    (hmakes : Makes c (putCall id g name) (· = []) steps answer) :
    (name.isWritable = true → ∃ sent text, Renamed g.payload.toJson name sent ∧
      sent.body = .ok text ∧ steps.map Prod.fst = [{ r with body := some text }]) ∧
      ∀ flaw, name.bodyFlaw? = some flaw → steps = [] ∧ answer = .error (.unwritable flaw) := by
  have hflaw := Payload.bodyFlaw?_with hwritable name
  constructor
  · intro hname
    have hsent : (Payload.toJson { g.payload with name }).isWritable = true := by
      rwa [Json.isWritable, hflaw]
    obtain ⟨text, htext⟩ := Json.exists_body hsent
    obtain ⟨outcome, more, rfl, rfl⟩ := hmakes.1 _ _ (prepare_body hput rfl htext)
    exact ⟨_, text, renamed_payload g name, htext, rfl⟩
  · intro flaw hname
    rw [hname] at hflaw
    exact hmakes.2 _ (prepare_of_unwritten hput hflaw)

/-- A workflow that is fetched keeps its name, and nothing is put in the place of what is not
fetched. -/
theorem put_of_refreshes {place url : Url} {fetch r : Request}
    (hget : c.prepare (fetchCall (.str id)) = .ok (place, fetch)) (habsolute : place.isAbsolute)
    (hput :
      c.prepare { method := .put, endpoint := workflowPath (.str id), identifier := .str id } =
        .ok (url, r))
    (hwritable : g.payload.toJson.isWritable = true) (h : Refreshes c id g steps answer) :
    ∃ outcome more, steps = (fetch, outcome) :: more ∧
      ((∀ found, ¬ outcome.Serves (.obj found)) → more = []) ∧
      ∀ found, outcome.Serves (.obj found) →
        let own := Json.getField "name" found
        let kept := if own.truthy then own else .str g.name
        (kept.isWritable = true → ∃ sent text, Renamed g.payload.toJson kept sent ∧
          sent.body = .ok text ∧ more.map Prod.fst = [{ r with body := some text }]) ∧
          ∀ flaw, kept.bodyFlaw? = some flaw →
            more = [] ∧ answer = .error (.unwritable flaw) := by
  obtain ⟨outcome, more, rfl, hunserved, hserved⟩ := h _ _ hget habsolute
  refine ⟨outcome, more, rfl, fun hnone => ?_, fun found hfound => ?_⟩
  · by_cases hserves : ∃ v, outcome.Serves v
    · obtain ⟨v, hv⟩ := hserves
      exact (hserved v hv).1 fun found heq => hnone found (heq ▸ hv)
    · exact hunserved fun v hv => hserves ⟨v, hv⟩
  · exact put_of_makes hput hwritable ((hserved _ hfound).2 found rfl)

theorem create_of_compile (hready : c.Ready base)
    (hlength : (c.baseUrl ++ "/workflows").length ≤ Url.lengthLimit)
    (hcompile : Json.compile defaultWorkflowName (.obj fields) = .ok g) {text : String}
    (htext : g.payload.toJson.body = .ok text) :
    ((call c "create_workflow" (.obj fields)).after l).requests = l.requests ++
      [⟨.post, base.toText ++ "/workflows", c.apiKey, c.timeout, some text⟩] := by
  have hcompiled (l : Link) : (compileArguments (given (.obj fields))).answer l = .ok g := by
    rw [given_obj, answer_compileArguments_eq, hcompile]
    rfl
  obtain ⟨handed, hrequests, -, -, hafter⟩ := call_create_of_ok (c := c) (l := l) hcompiled
  obtain ⟨steps, hsent, -, -, hserved, -⟩ :=
    takes_createWorkflow (c := c) (rfl : g.payload.toJson.get "name" = .ok (.str g.name)) handed
  have hplaced : c.prepare { method := .post, endpoint := "/workflows" } = _ :=
    hready.prepare_endpoint (List.cons_ne_nil _ _) Url.isFixed_workflows (by simp [Url.joined])
      hlength .post rfl
  rw [hafter, hsent, hrequests, hserved _ _ (prepare_body hplaced rfl htext)]

end Requests

/-- Nothing is sent to replace a workflow by a definition that does not compile. One that
compiles is put in one request, and that differs from what creating sends in the name alone:
the name given, or else the name that the workflow has, for which it is fetched first, or else
the default. -/
theorem update_keeps_all_but_name (c : Client) {base : Url} (fields : List (String × Json))
    {id : String} (l : Link) (hready : c.Ready base)
    (hid : fields.lookup "id" = some (.str id)) (hne : id ≠ "")
    (hletters : ∀ letter ∈ id.toList, letter.isAlphanum = true)
    (hlength : (c.baseUrl ++ "/workflows/" ++ id).length ≤ Url.lengthLimit)
    (hwritable : ∀ g, Json.compile defaultWorkflowName (.obj fields) = .ok g →
      g.payload.toJson.isWritable = true) :
    let updated := call c "update_workflow" (.obj fields)
    let place := base.toText ++ "/workflows/" ++ id
    let fetch : Request := ⟨.get, place, c.apiKey, c.timeout, none⟩
    let put (text : String) : Request := ⟨.put, place, c.apiKey, c.timeout, some text⟩
    let name := Json.getField "name" fields
    (∀ cause, Json.compile defaultWorkflowName (.obj fields) = .error cause →
      updated.answer l = .error (.refusal (refusalOf cause)) ∧
        (refusalOf cause).code = .invalidParams ∧ (updated.after l).requests = l.requests) ∧
    ∀ g, Json.compile defaultWorkflowName (.obj fields) = .ok g →
      let created := g.payload.toJson
      (∃ text, created.body = .ok text ∧
        ((call c "create_workflow" (.obj fields)).after l).requests = l.requests ++
          [⟨.post, base.toText ++ "/workflows", c.apiKey, c.timeout, some text⟩]) ∧
      (name.truthy = true → ∃ sent text, Renamed created name sent ∧ sent.body = .ok text ∧
        (updated.after l).requests = l.requests ++ [put text]) ∧
      (name.truthy = false →
        ((∀ found, ¬ (l.outcome 0).Serves (.obj found)) →
          (updated.after l).requests = l.requests ++ [fetch]) ∧
        ∀ found, (l.outcome 0).Serves (.obj found) →
          let own := Json.getField "name" found
          let kept := if own.truthy then own else .str defaultWorkflowName
          (kept.isWritable = true → ∃ sent text, Renamed created kept sent ∧
            sent.body = .ok text ∧
            (updated.after l).requests = l.requests ++ [fetch, put text]) ∧
          ∀ flaw, kept.bodyFlaw? = some flaw →
            (updated.after l).requests = l.requests ++ [fetch] ∧
              updated.answer l = .error (.unwritable flaw)) := by
  intro updated place fetch put name
  obtain ⟨steps, hrequests, -, houtcomes, raw, hanswer, hrefused, hcompiled⟩ :=
    takes_call_update hid hne l
  constructor
  · intro cause hcause
    obtain ⟨rfl, rfl⟩ := hrefused cause hcause
    exact ⟨hanswer, rfl, hrequests.trans (List.append_nil _)⟩
  · intro g hcompile created
    have hpayload := hwritable g hcompile
    obtain ⟨hnamed, hunnamed⟩ := hcompiled g hcompile
    obtain ⟨url, habsolute, hput⟩ := prepare_workflow hready hletters hlength .put
    obtain ⟨place', habsolute', hget⟩ := prepare_workflow hready hletters hlength .get
    refine ⟨?_, fun hset => ?_, fun hunset => ?_⟩
    · obtain ⟨text, htext⟩ := Json.exists_body hpayload
      refine ⟨text, htext, create_of_compile hready ?_ hcompile htext⟩
      simp only [String.length_append] at hlength ⊢
      have hpath : "/workflows".length ≤ "/workflows/".length := by decide
      omega
    · obtain ⟨sent, text, hrenamed, htext, hsteps⟩ :=
        (put_of_makes hput hpayload (hnamed hset)).1 rfl
      rcases name_of_compile hcompile with ⟨-, hname⟩ | ⟨hunset, -⟩
      · rw [← hname] at hrenamed
        exact ⟨sent, text, hrenamed, htext, hrequests.trans (congrArg _ hsteps)⟩
      · cases hset.symm.trans hunset
    · have hdefault : g.name = defaultWorkflowName := by
        rcases name_of_compile hcompile with ⟨hset, -⟩ | ⟨-, hdefault⟩
        · cases hset.symm.trans hunset
        · exact hdefault
      obtain ⟨outcome, more, rfl, hunserved, hserved⟩ :=
        put_of_refreshes hget habsolute' hput hpayload (hunnamed hunset)
      obtain rfl : l.outcome 0 = outcome :=
        Link.outcome_eq_getElem houtcomes 0 (Nat.zero_lt_succ _)
      rw [hdefault] at hserved
      refine ⟨fun hnone => ?_, fun found hfound => ⟨fun hkept => ?_, fun flaw hflaw => ?_⟩⟩
      · obtain rfl := hunserved hnone
        exact hrequests
      · obtain ⟨sent, text, hrenamed, htext, hsteps⟩ := (hserved found hfound).1 hkept
        refine ⟨sent, text, hrenamed, htext, hrequests.trans ?_⟩
        rw [List.map_cons, hsteps]
      · obtain ⟨rfl, rfl⟩ := (hserved found hfound).2 flaw hflaw
        exact ⟨hrequests, hanswer⟩

/-- A workflow is replaced under the name that it has: it is fetched and put. -/
theorem update_keeps_fetched_name :
    let fields : List (String × Json) :=
      [("id", "w1"), ("nodes", .arr [.obj [("name", "a"), ("type", "t")]])]
    let l : Link := ⟨[.body "\x7b\"name\":\"mine\"\x7d"], [], []⟩
    ∃ g sent text, Json.compile defaultWorkflowName (.obj fields) = .ok g ∧
      Renamed g.payload.toJson (.str "mine") sent ∧ sent.body = .ok text ∧
      ((call Operation.hosted "update_workflow" (.obj fields)).after l).requests =
        [⟨.get, "http://n8n.test/api/v1/workflows/w1", "key", .int 30, none⟩,
          ⟨.put, "http://n8n.test/api/v1/workflows/w1", "key", .int 30, some text⟩] := by
  intro fields l
  obtain ⟨g, hcompile⟩ : ∃ g, Json.compile defaultWorkflowName (.obj fields) = .ok g := ⟨_, rfl⟩
  have hserves : (l.outcome 0).Serves (.obj [("name", .str "mine")]) := ⟨by decide, by cbv⟩
  have hid : fields.lookup "id" = some (.str "w1") := rfl
  have hletters : ∀ letter ∈ "w1".toList, letter.isAlphanum = true :=
    List.all_eq_true.mp (by decide)
  have hupdate := update_keeps_all_but_name Operation.hosted fields l ready_hosted hid (by decide)
    hletters (by decide) ?_
  · obtain ⟨-, -, hunset⟩ := hupdate.2 g hcompile
    obtain ⟨sent, text, hrenamed, htext, hrequests⟩ := ((hunset rfl).2 _ hserves).1 rfl
    have hplace : Url.toText ⟨"http", "", "n8n.test", none, "/api/v1", none, none⟩ ++
        "/workflows/" ++ "w1" = "http://n8n.test/api/v1/workflows/w1" := by cbv
    rw [hplace] at hrequests
    exact ⟨g, sent, text, hcompile, hrenamed, htext, hrequests⟩
  · rintro g ⟨⟩
    rfl

/-- Nothing is put where the identifier is longer than a locator may be. -/
theorem update_of_long_id {id : String} (hlength : id.length = Url.lengthLimit) (l : Link) :
    let fields : List (String × Json) :=
      [("id", .str id), ("name", "w"), ("nodes", .arr [.obj [("name", "a"), ("type", "t")]])]
    (∃ g, Json.compile defaultWorkflowName (.obj fields) = .ok g) ∧
      (call Operation.hosted "update_workflow" (.obj fields)).answer l = .error (.url .tooLong) ∧
      ((call Operation.hosted "update_workflow" (.obj fields)).after l).requests = l.requests := by
  intro fields
  have hid : fields.lookup "id" = some (.str id) := rfl
  have hne : id ≠ "" := by
    rintro rfl
    cases hlength
  obtain ⟨g, hcompile⟩ : ∃ g, Json.compile defaultWorkflowName (.obj fields) = .ok g := ⟨_, rfl⟩
  have hrefused : Operation.hosted.prepare (putCall id g (.str g.name)) =
      .error (.url .tooLong) := by
    refine prepare_of_long rfl ?_
    simp only [putCall, workflowPath_str, String.length_append, hlength]
    have hbase : 0 < Operation.hosted.baseUrl.length := by decide
    omega
  obtain ⟨steps, hrequests, -, -, raw, hanswer, -, hcompiled⟩ :=
    takes_call_update (c := Operation.hosted) hid hne l
  obtain ⟨rfl, rfl⟩ := ((hcompiled g hcompile).1 rfl).2 _ hrefused
  exact ⟨⟨g, hcompile⟩, hanswer, hrequests.trans (List.append_nil _)⟩

/-- A name is given, and an identifier of letters, and nothing is put. -/
theorem update_stops_at_long_id :
    let id := String.ofList (List.replicate Url.lengthLimit 'a')
    let fields : List (String × Json) :=
      [("id", .str id), ("name", "w"), ("nodes", .arr [.obj [("name", "a"), ("type", "t")]])]
    id ≠ "" ∧ (∀ letter ∈ id.toList, letter.isAlphanum = true) ∧
      (∃ g, Json.compile defaultWorkflowName (.obj fields) = .ok g) ∧
      (call Operation.hosted "update_workflow" (.obj fields)).answer ⟨[], [], []⟩ =
        .error (.url .tooLong) ∧
      ((call Operation.hosted "update_workflow" (.obj fields)).after ⟨[], [], []⟩).requests =
        [] := by
  have hlength : (String.ofList (List.replicate Url.lengthLimit 'a')).length = Url.lengthLimit := by
    rw [String.length_ofList, List.length_replicate]
  refine ⟨?_, ?_, update_of_long_id hlength _⟩
  · intro heq
    rw [heq] at hlength
    cases hlength
  · intro letter hletter
    rw [String.toList_ofList] at hletter
    rw [List.eq_of_mem_replicate hletter]
    decide

end Tool

end Flowgate
