import Flowgate.Proofs.Agreement
import Flowgate.Proofs.Engine.Course
import Flowgate.Proofs.Number.Numeral
import Flowgate.Proofs.Text.Trim

/-! # The key of the engine

The key goes into the requests and nowhere else. Two clients that differ in their keys give
the same answers, log the same events and send the same requests, each under its own key.
-/

namespace Flowgate

/-- A request under a key. -/
def Request.under (key : String) (r : Request) : Request := { r with apiKey := key }

/-- Links on which the same has happened since two starts, but for the keys of the requests. -/
structure Link.Twins (first second : String) (starts : List Request × List Request)
    (l m : Link) : Prop where
  script : l.script = m.script
  events : l.events = m.events
  requests : ∃ sent : List Request, l.requests = starts.1 ++ sent.map (·.under first) ∧
    m.requests = starts.2 ++ sent.map (·.under second)

namespace Client

open Exchange

variable {c : Client} {key : String} {starts : List Request × List Request}

/-- The same client under another key. -/
def under (key : String) (c : Client) : Client := { c with apiKey := key }

/-- Two runs of one operation, by a client and by the same client under another key. -/
abbrev Same {α : Type} (c : Client) (key : String) (starts : List Request × List Request)
    (operation : Client → Exchange α) : Prop :=
  Agree (Link.Twins c.apiKey key starts) (operation c) (operation (c.under key))

theorem same_log {level : Log.Level} {name : String} {fields : List (String × Json)} :
    Same c key starts fun _ => log level name fields := by
  intro l m htwins
  refine ⟨rfl, htwins.script, ?_, htwins.requests⟩
  exact congrArg (· ++ [(⟨level, name, fields⟩ : Log.Event)]) htwins.events

theorem same_send (c : Client) (key : String) (starts : List Request × List Request)
    (r : Request) :
    Agree (Link.Twins c.apiKey key starts) (send (r.under c.apiKey)) (send (r.under key)) := by
  intro l m htwins
  obtain ⟨hscript, hevents, sent, hfirst, hsecond⟩ := htwins
  have hrequests : ∃ sent : List Request,
      l.requests ++ [r.under c.apiKey] = starts.1 ++ sent.map (·.under c.apiKey) ∧
        m.requests ++ [r.under key] = starts.2 ++ sent.map (·.under key) := by
    refine ⟨sent ++ [r], ?_, ?_⟩
    · rw [hfirst, List.map_append, List.append_assoc]
      rfl
    · rw [hsecond, List.map_append, List.append_assoc]
      rfl
  obtain ⟨script, requests, events⟩ := l
  obtain ⟨script', requests', events'⟩ := m
  cases hscript
  cases script with
  | nil => exact ⟨rfl, rfl, hevents, hrequests⟩
  | cons outcome rest => exact ⟨rfl, rfl, hevents, hrequests⟩

/-- A key in ASCII stands in the request that is made of a call, and changes nothing else. -/
theorem prepare_under (call : Call) (hown : Text.isAscii c.apiKey = true)
    (hkey : Text.isAscii key = true) :
    (c.under key).prepare call =
      (c.prepare call).map fun prepared => (prepared.1, prepared.2.under key) := by
  have hlocate : (c.under key).locate call.endpoint = c.locate call.endpoint := rfl
  have hheader : headerText (c.under key).apiKey = .ok key := if_pos hkey
  have hownHeader : headerText c.apiKey = .ok c.apiKey := if_pos hown
  unfold prepare
  rw [hlocate, hheader, hownHeader]
  -- the two are alike step for step, and only the last one holds the key
  have hmap {α β : Type} (f : α → β) (x : Except Failure α) : x.map f = f <$> x := rfl
  simp only [hmap, map_bind, map_pure]
  rfl

theorem under_own {url : Url} {r : Request} {call : Call} (h : c.prepare call = .ok (url, r)) :
    r.under c.apiKey = r := by
  obtain ⟨-, _, _, -, -, -, -, -, rfl⟩ := prepare_eq_ok.mp h
  rfl

/-- What is logged and answered of a call comes from the call and its outcome. -/
theorem same_request (call : Call) (hown : Text.isAscii c.apiKey = true)
    (hkey : Text.isAscii key = true) : Same c key starts fun c => c.request call := by
  change Agree _ (c.request call) ((c.under key).request call)
  unfold request
  rw [prepare_under call hown hkey]
  refine .ofExcept_bind ?_
  intro ⟨url, r⟩ hprepare
  have hsend : Agree (Link.Twins c.apiKey key starts) (send r) (send (r.under key)) := by
    have hsame := same_send c key starts r
    rwa [under_own hprepare] at hsame
  refine hsend.bind fun outcome => ?_
  -- the events and the answer are made of the call and this outcome, never of the request
  cases outcome with
  | unreachable message => exact same_log.bind fun _ => .fail _
  | aborted reason => exact .fail _
  | answer response =>
      cases url.isAbsolute with
      | false => exact .fail_bind
      | true =>
          refine same_log.bind fun _ => ?_
          split
          · exact same_log.bind fun _ => .fail _
          · exact .pure _

/-! ## Operations -/

section Operations

variable (hown : Text.isAscii c.apiKey = true) (hkey : Text.isAscii key = true)

include hown hkey

theorem same_getWorkflow {id : Json} : Same c key starts fun c => c.getWorkflow id :=
  same_log.bind fun _ => same_request _ hown hkey

theorem same_listWorkflows {limit cursor active tags : Json} :
    Same c key starts fun c => c.listWorkflows limit cursor active tags :=
  .bind (.shaped _) fun _ => same_request _ hown hkey

/-- However many pages there are, both runs follow the same cursors. -/
theorem same_pagesFrom {pageSize : Json} (fuel : Nat) (cursor : Json) (gathered : List Json) :
    Same c key starts fun c => c.pagesFrom pageSize fuel cursor gathered := by
  induction fuel generalizing cursor gathered with
  | zero => exact .pure gathered
  | succ fuel ih =>
      refine (same_listWorkflows hown hkey).bind fun page => ?_
      split
      next items => exact .pure _
      next page _ =>
        refine .bind (.shaped _) fun data => ?_
        refine .bind (.shaped _) fun items => ?_
        refine .bind (.shaped _) fun next => ?_
        split
        · exact ih _ _
        · exact .pure _

/-- The bound of the pages is told by the outcomes to come, which are the same. -/
theorem same_listAllWorkflows {pageSize : Json} :
    Same c key starts fun c => c.listAllWorkflows pageSize := by
  refine .get_bind fun l m htwins => ?_
  rw [htwins.script]
  refine (same_pagesFrom hown hkey _ _ _).bind fun workflows => ?_
  exact same_log.bind fun _ => .pure _

theorem same_createWorkflow {workflow : Json} :
    Same c key starts fun c => c.createWorkflow workflow := by
  refine .bind (.shaped _) fun name => same_log.bind fun _ => ?_
  refine (same_request _ hown hkey).bind fun created => ?_
  refine .bind (.shaped _) fun id => .bind (.shaped _) fun name => ?_
  exact same_log.bind fun _ => .pure _

theorem same_updateWorkflow {id workflow : Json} :
    Same c key starts fun c => c.updateWorkflow id workflow := by
  refine same_log.bind fun _ => (same_request _ hown hkey).bind fun updated => ?_
  exact same_log.bind fun _ => .pure _

theorem same_getExecution {id includeData : Json} :
    Same c key starts fun c => c.getExecution id includeData := by
  refine same_log.bind fun _ => (same_request _ hown hkey).bind fun execution => ?_
  dsimp only
  split
  · refine .bind (.shaped _) fun data => ?_
    split
    · exact same_log.bind fun _ => .pure _
    · exact .pure _
  · exact .pure _

theorem same_run {workflow runData : Json} :
    Same c key starts fun c => c.run workflow runData :=
  .bind (.shaped _) fun _ => same_request _ hown hkey

theorem same_executeWorkflow {id input : Json} :
    Same c key starts fun c => c.executeWorkflow id input := by
  refine same_log.bind fun _ => same_log.bind fun _ => ?_
  refine (same_getWorkflow hown hkey).bind fun workflow => .bind (.shaped _) fun data => ?_
  split
  next => exact same_run hown hkey
  next name data =>
    cases keyText name with
    | error failure => exact .fail_bind
    | ok text => exact same_run hown hkey

theorem same_retryExecution {id : Json} : Same c key starts fun c => c.retryExecution id := by
  refine same_log.bind fun _ => (same_getExecution hown hkey).bind fun execution => ?_
  refine .bind (.shaped _) fun workflowId => ?_
  split
  · cases pasted workflowId with
    | error failure => exact .fail_bind
    | ok text =>
        refine (same_getWorkflow hown hkey).bind fun workflow => .bind (.shaped _) fun data => ?_
        exact same_run hown hkey
  · exact .fail _

/-- Whatever is asked of the engine, the key changes nothing but the requests' own key. -/
theorem same_operation (op : Operation) : Same c key starts fun c => op.run c := by
  cases op with
  | createWorkflow workflow => exact same_createWorkflow hown hkey
  | updateWorkflow id workflow => exact same_updateWorkflow hown hkey
  | getWorkflow id => exact same_getWorkflow hown hkey
  | listWorkflows limit cursor active tags => exact same_listWorkflows hown hkey
  | listAllWorkflows pageSize =>
      exact (same_listAllWorkflows hown hkey).bind fun workflows => .pure _
  | deleteWorkflow id | activateWorkflow id | deactivateWorkflow id | listExecutions filter
  | deleteExecution id => exact same_log.bind fun _ => same_request _ hown hkey
  | getExecution id includeData => exact same_getExecution hown hkey
  | executeWorkflow id input => exact same_executeWorkflow hown hkey
  | retryExecution id => exact same_retryExecution hown hkey

end Operations

/-! ## Keys -/

/-- A key as it may be configured: printable ASCII that is not blank. -/
structure IsKeyText (text : String) : Prop where
  printable : ∀ c ∈ text.toList, 0x20 ≤ c.toNat ∧ c.toNat ≤ 0x7e
  unblank : ∃ c ∈ text.toList, c ≠ ' '

theorem eq_blank_of_isSpace {ch : Char} (hprintable : 0x20 ≤ ch.toNat ∧ ch.toNat ≤ 0x7e)
    (h : Text.isSpace ch = true) : ch = ' ' := by
  have hcode : ch.toNat = ' '.toNat := by
    rw [show ' '.toNat = 0x20 from rfl]
    rcases Bool.or_eq_true_iff.mp h with hblank | hseparator
    · have := Text.toNat_of_isBlank hblank
      omega
    · simp [Text.inRanges] at hseparator
      omega
  exact Char.toNat_inj.mp hcode

/-- What is left of a key without the white space around it is a key, and in ASCII. -/
theorem IsKeyText.strip {text : String} (h : IsKeyText text) :
    Text.strip text ≠ "" ∧ Text.isAscii (Text.strip text) = true := by
  obtain ⟨first, last, hsplit, hfirst, hlast⟩ := Text.trim_split Text.isSpace text.toList
  constructor
  · intro hempty
    have hcore : Text.trim Text.isSpace text.toList = [] := String.ofList_eq_empty_iff.mp hempty
    obtain ⟨ch, hch, hne⟩ := h.unblank
    -- if nothing is left, all of the key is white space, and so is what is no blank in it
    have hspace : Text.isSpace ch = true := by
      rw [hsplit, hcore, List.append_nil] at hch
      exact (List.mem_append.mp hch).elim (hfirst ch) (hlast ch)
    exact hne (eq_blank_of_isSpace (h.printable ch hch) hspace)
  · simp only [Text.isAscii, Text.strip, String.toList_ofList, Bool.not_eq_true',
      List.any_eq_false]
    intro ch hch
    have hprintable := h.printable ch (by
      rw [hsplit]
      exact List.mem_append_left _ (List.mem_append_right _ hch))
    simp only [Text.isForeign, ge_iff_le, decide_eq_true_eq]
    omega

/-- The key that a client is given, or that of the settings where it is given none. -/
theorem create_of_key {settings : Settings} {baseUrl given timeout : Json} {text : String}
    (hgiven : textOr "strip" settings.apiKey given = .ok text) (htext : Text.strip text ≠ "") :
    create settings baseUrl given timeout =
      (textOr "rstrip" settings.host baseUrl).map fun base =>
        { baseUrl := Text.dropSlashes base
          apiKey := Text.strip text
          timeout := if timeout.isNull then .float settings.requestTimeout else timeout } := by
  unfold create
  rw [hgiven]
  cases textOr "rstrip" settings.host baseUrl with
  | error failure => rfl
  | ok base =>
      dsimp only [Bind.bind, Except.bind]
      rw [if_neg htext]
      rfl

/-- Two clients that differ in their keys are both refused, for the same cause, or both made.
Whatever they are then asked to do, and whatever becomes of the requests, they answer the same,
log the same and send the same, but that each request stands under its client's own key: the
key that was configured, without the white space around it. -/
theorem key_stays_in_requests (settings : Settings) (own own' : String)
    (baseUrl given given' timeout : Json) (text text' : String)
    (hgiven : textOr "strip" own given = .ok text)
    (hgiven' : textOr "strip" own' given' = .ok text')
    (htext : IsKeyText text) (htext' : IsKeyText text') :
    let created := create { settings with apiKey := own } baseUrl given timeout
    let created' := create { settings with apiKey := own' } baseUrl given' timeout
    (∃ failure, created = .error failure ∧ created' = .error failure) ∨
      ∃ c c', created = .ok c ∧ created' = .ok c' ∧
        Text.Trimmed Text.isSpace text.toList c.apiKey.toList ∧
        Text.Trimmed Text.isSpace text'.toList c'.apiKey.toList ∧
        ∀ (op : Operation) (script : List Outcome) (events : List Log.Event)
          (earlier earlier' : List Request),
          let l : Link := ⟨script, earlier, events⟩
          let l' : Link := ⟨script, earlier', events⟩
          (op.run c).answer l = (op.run c').answer l' ∧
            ((op.run c).after l).events = ((op.run c').after l').events ∧
            ((op.run c).after l).script = ((op.run c').after l').script ∧
            ∃ sent : List Request,
              ((op.run c).after l).requests = earlier ++ sent.map (·.under c.apiKey) ∧
              ((op.run c').after l').requests = earlier' ++ sent.map (·.under c'.apiKey) := by
  intro created created'
  obtain ⟨hkey, hascii⟩ := htext.strip
  obtain ⟨hkey', hascii'⟩ := htext'.strip
  have hcreated : created = _ := create_of_key hgiven hkey
  have hcreated' : created' = _ := create_of_key hgiven' hkey'
  cases hbase : textOr "rstrip" settings.host baseUrl with
  | error failure =>
      left
      rw [hbase] at hcreated hcreated'
      exact ⟨failure, hcreated, hcreated'⟩
  | ok base =>
      right
      rw [hbase] at hcreated hcreated'
      generalize hc : (⟨Text.dropSlashes base, Text.strip text,
        if timeout.isNull then .float settings.requestTimeout else timeout⟩ : Client) = c
      have hown : c.apiKey = Text.strip text := by rw [← hc]
      -- the other client is this one under the other key
      refine ⟨c, c.under (Text.strip text'), ?_, ?_, ?_, ?_, ?_⟩
      · rw [hcreated, ← hc]
        rfl
      · rw [hcreated', ← hc]
        rfl
      · rw [hown]
        simpa [Text.strip] using Text.trimmed_trim Text.isSpace text.toList
      · simpa [Text.strip, under] using Text.trimmed_trim Text.isSpace text'.toList
      · intro op script events earlier earlier' l l'
        -- before anything is sent, nothing has been sent since the two starts
        have htwins : Link.Twins c.apiKey (Text.strip text') (earlier, earlier') l l' :=
          ⟨rfl, rfl, [], (List.append_nil _).symm, (List.append_nil _).symm⟩
        rw [← hown] at hascii
        obtain ⟨hanswer, hafter⟩ := same_operation hascii hascii' op l l' htwins
        exact ⟨hanswer, hafter.events, hafter.script, hafter.requests⟩

/-- One key is given with blanks around it, the other one is configured. The engine refuses
both clients, and they cannot be told apart by what they say of it. -/
theorem key_of_refused_clients :
    let settings (key : String) : Settings :=
      ⟨"n8n-workflow-builder", "INFO", true, "http://n8n.test/api/v1", key, .zero false, 100⟩
    let l : Link := ⟨[.answer ⟨401, [], none, ""⟩], [], []⟩
    IsKeyText " alpha " ∧ IsKeyText "beta" ∧
      ∃ c c', create (settings "") .null " alpha " (.int 30) = .ok c ∧
        create (settings "beta") .null .null (.int 30) = .ok c' ∧
        c.apiKey = "alpha" ∧ c'.apiKey = "beta" ∧
        ((Operation.getWorkflow "7").run c).answer l =
          ((Operation.getWorkflow "7").run c').answer l ∧
        ∃ sent : List Request, (((Operation.getWorkflow "7").run c).after l).requests =
            sent.map (Request.under "alpha") ∧
          (((Operation.getWorkflow "7").run c').after l).requests =
            sent.map (Request.under "beta") := by
  intro settings l
  have hfirst : IsKeyText " alpha " := ⟨by simp, 'a', by simp, by decide⟩
  have hsecond : IsKeyText "beta" := ⟨by simp, 'b', by simp, by decide⟩
  refine ⟨hfirst, hsecond, ?_⟩
  have hcreated : create (settings "") .null " alpha " (.int 30) =
      .ok ⟨"http://n8n.test/api/v1", "alpha", .int 30⟩ := by cbv
  have hcreated' : create (settings "beta") .null .null (.int 30) =
      .ok ⟨"http://n8n.test/api/v1", "beta", .int 30⟩ := by cbv
  rcases key_stays_in_requests (settings "") "" "beta" .null " alpha " .null (.int 30) " alpha "
    "beta" (by rfl) (by rfl) hfirst hsecond with
    ⟨failure, herror, -⟩ | ⟨c, c', hc, hc', -, -, hsame⟩
  · cases hcreated.symm.trans herror
  · cases hcreated.symm.trans hc
    cases hcreated'.symm.trans hc'
    obtain ⟨hanswer, -, -, hsent⟩ := hsame (.getWorkflow "7") l.script [] [] []
    exact ⟨_, _, hc, hc', rfl, rfl, hanswer, hsent⟩

end Client

end Flowgate
