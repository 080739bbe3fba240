import Flowgate.Proofs.Engine.Conduct
import Flowgate.Proofs.Number.Integer
import Flowgate.Proofs.Resource.Statistics
import Flowgate.Proofs.Text.Trim

/-! # What locators of resources name

Final slashes of a locator do not count. What is left names one of the two listings, or by
what stands behind a slash one workflow or one execution, or nothing. Each resource is read by
one operation of the client, and what names nothing is refused before anything is sent.
-/

namespace Flowgate

namespace Resource

/-- Whether a resource is what a locator without final slashes names. -/
def NamedBy (u : String) : Resource → Prop
  | workflows => u = "n8n://workflows"
  | executionStats => u = "n8n://execution-stats"
  | workflow id => id ≠ "" ∧ u = "n8n://workflows/" ++ id
  | execution id => id ≠ "" ∧ u = "n8n://executions/" ++ id

section Locators

variable {u id : String} {resource : Resource}

/-- On one line, the identifier is all that stands behind the start. -/
theorem identifierBehind?_eq_some (start : String) (hline : '\n' ∉ u.toList) :
    identifierBehind? start u = some id ↔ id ≠ "" ∧ u = start ++ id := by
  unfold identifierBehind?
  split
  next hprefix =>
    obtain ⟨rest, hrest⟩ := List.isPrefixOf_iff_prefix.mp hprefix
    have hbehind : u.toList.drop start.length = rest := by
      rw [← hrest, ← String.length_toList, List.drop_left]
    have hall : ∀ c ∈ rest, (c != '\n') = true := by
      intro c hc
      have hmem : c ∈ u.toList := by
        rw [← hrest]
        exact List.mem_append_right _ hc
      simpa using fun heq : c = '\n' => hline (heq ▸ hmem)
    have hspan : rest.span (· != '\n') = (rest, []) := by
      have happend : (rest ++ []).span (· != '\n') = (rest, []) := Text.span_append hall nofun
      rwa [List.append_nil] at happend
    have hu : u = start ++ String.ofList rest := by
      apply String.toList_injective
      rw [String.toList_append, String.toList_ofList, hrest]
    rw [hbehind, hspan, hu, String.append_right_inj]
    cases rest with
    | nil => exact iff_of_false nofun fun ⟨hne, hid⟩ => hne hid.symm
    | cons c rest =>
        constructor
        · rintro ⟨⟩
          exact ⟨by simp, rfl⟩
        · rintro ⟨-, rfl⟩
          rfl
  next hprefix =>
    refine iff_of_false nofun ?_
    rintro ⟨-, rfl⟩
    exact hprefix (List.isPrefixOf_iff_prefix.mpr ⟨id.toList, String.toList_append.symm⟩)

/-- No locator of a workflow is one of an execution. -/
theorem workflowUri_ne_executionUri (first second : String) :
    "n8n://workflows/" ++ first ≠ "n8n://executions/" ++ second := by
  intro heq
  have hlists := congrArg String.toList heq
  rw [String.toList_append, String.toList_append] at hlists
  -- the first letter behind the scheme is another one
  have hplace := congrArg (·[6]?) hlists
  exact absurd hplace (by simp)

/-- A locator on one line asks for what it names, and no locator names two resources. -/
theorem ofUri?_eq_some (hline : '\n' ∉ u.toList) :
    ofUri? u = some resource ↔ resource.NamedBy u := by
  unfold ofUri?
  -- one test after the other: what passed a test is named by its resource alone
  split
  next hlisting =>
    subst hlisting
    cases resource with
    | workflows => exact iff_of_true rfl rfl
    | executionStats => exact iff_of_false nofun (by decide : workflowsUri ≠ executionStatsUri)
    | workflow id =>
        refine iff_of_false nofun fun hnamed => ?_
        cases (identifierBehind?_eq_some "n8n://workflows/" hline).mpr hnamed
    | execution id =>
        refine iff_of_false nofun fun hnamed => ?_
        cases (identifierBehind?_eq_some "n8n://executions/" hline).mpr hnamed
  next hlisting =>
    split
    next hstats =>
      subst hstats
      cases resource with
      | workflows => exact iff_of_false nofun hlisting
      | executionStats => exact iff_of_true rfl rfl
      | workflow id =>
          refine iff_of_false nofun fun hnamed => ?_
          cases (identifierBehind?_eq_some "n8n://workflows/" hline).mpr hnamed
      | execution id =>
          refine iff_of_false nofun fun hnamed => ?_
          cases (identifierBehind?_eq_some "n8n://executions/" hline).mpr hnamed
    next hstats =>
      split
      next own hown =>
        obtain ⟨hne, rfl⟩ := (identifierBehind?_eq_some _ hline).mp hown
        cases resource with
        | workflows => exact iff_of_false nofun hlisting
        | executionStats => exact iff_of_false nofun hstats
        | workflow id =>
            rw [Option.some_inj, workflow.injEq, NamedBy, String.append_right_inj]
            constructor
            · rintro rfl
              exact ⟨hne, rfl⟩
            · exact fun ⟨_, heq⟩ => heq
        | execution id =>
            exact iff_of_false nofun fun ⟨_, heq⟩ => workflowUri_ne_executionUri _ _ heq
      next hnone =>
        rw [Option.map_eq_some_iff]
        cases resource with
        | workflows => exact iff_of_false (by simp) hlisting
        | executionStats => exact iff_of_false (by simp) hstats
        | workflow id =>
            refine iff_of_false (by simp) fun hnamed => ?_
            rw [(identifierBehind?_eq_some _ hline).mpr hnamed] at hnone
            cases hnone
        | execution id =>
            simp only [execution.injEq, exists_eq_right]
            exact identifierBehind?_eq_some _ hline

end Locators

section Reading

open Client Exchange

variable {c : Client} {limit : Json} {s : String} {resource : Resource}

theorem getLast?_toString (start : String) (n : Int) :
    (start ++ toString n).toList.getLast? ≠ some '/' := by
  have hdigits := Json.isDigits_toDigits n.natAbs
  rw [String.toList_append, Json.toList_toString, ← List.append_assoc,
    List.getLast?_append_of_ne_nil _ hdigits.ne_nil]
  intro hlast
  have hdigit := hdigits.all _ (List.mem_of_getLast? hlast)
  exact absurd hdigit (by decide)

/-- The link once a locator has been noted in the log. -/
def noted (u : String) (l : Link) : Link :=
  { l with events := l.events ++ [⟨.info, "read_resource", [("uri", .str u)]⟩] }

/-- What is answered where a failure of the engine is told as a refusal. -/
def told (message : String) : Except Failure Json → Except Failure Json
  | .error (.engine _) => .error (.refusal (.invalid message))
  | answer => answer

theorem orRefuse_eq (message : String) (x : Exchange Json) (l : Link) :
    (orRefuse message x).answer l = told message (x.answer l) ∧
      (orRefuse message x).after l = x.after l := by
  rcases recover_cases x _ l with ⟨error, herror, hrecovered, hafter⟩ | ⟨hserved, hanswer, hafter⟩
  · rw [herror]
    exact ⟨hrecovered, hafter⟩
  · have htold : told message (x.answer l) = x.answer l := by
      unfold told
      split
      next error heq => exact absurd heq (hserved error)
      next => rfl
    rw [htold]
    exact ⟨hanswer, hafter⟩

theorem read_of_named (hline : '\n' ∉ s.toList) (resource : Resource)
    (hnamed : resource.NamedBy (Text.dropSlashes s)) (l : Link) :
    (read c limit s).answer l =
        (fetch c limit resource).answer (noted (Text.dropSlashes s) l) ∧
      (read c limit s).after l =
        (fetch c limit resource).after (noted (Text.dropSlashes s) l) := by
  have huri : ofUri? (Text.dropSlashes s) = some resource :=
    (ofUri?_eq_some (Text.notMem_dropSlashes hline)).mpr hnamed
  unfold read
  dsimp only
  rw [huri]
  exact bind_of_ok _ rfl

theorem read_of_unnamed (hline : '\n' ∉ s.toList)
    (hnamed : ∀ resource : Resource, ¬ resource.NamedBy (Text.dropSlashes s)) (l : Link) :
    (read c limit s).answer l =
        .error (.refusal (.invalid s!"Resource not found: {Text.dropSlashes s}")) ∧
      (read c limit s).after l = noted (Text.dropSlashes s) l := by
  have huri : ofUri? (Text.dropSlashes s) = none := by
    refine Option.eq_none_iff_forall_ne_some.mpr fun resource hsome => ?_
    exact hnamed resource ((ofUri?_eq_some (Text.notMem_dropSlashes hline)).mp hsome)
  unfold read
  dsimp only
  rw [huri]
  exact bind_of_ok _ rfl

theorem reading_orRefuse {message : String} {x : Exchange Json} (hx : x.Keeps .reading) :
    (orRefuse message x).Keeps .reading :=
  reading_recover hx fun _ => .fail _ (by simp [Conduct.reading])

theorem reading_readStats : (readStats c limit).Keeps .reading := by
  refine reading_recover ?_ fun error => ?_
  · refine .before_quiet Conduct.roomy_reading reading_listExecutions fun page => ?_
    refine quiet_bind quiet_shaped fun data => ?_
    exact quiet_bind quiet_shaped fun summary => quiet_pure
  · refine .after_quiet Conduct.roomy_reading quiet_log fun _ => ?_
    exact .pure _ (by simp [Conduct.reading])

theorem reading_fetch : (fetch c limit resource).Keeps .reading := by
  cases resource with
  | workflows =>
      exact .before_quiet Conduct.roomy_reading reading_listAllWorkflows fun _ => quiet_pure
  | executionStats => exact reading_readStats
  | workflow id => exact reading_orRefuse reading_getWorkflow
  | execution id =>
      unfold fetch
      dsimp only
      split
      · exact reading_orRefuse reading_getExecution
      · exact .fail _ (by simp [Conduct.reading])

/-- Whatever a locator names, reading changes nothing. -/
theorem reading_read : (read c limit s).Keeps .reading := by
  refine .after_quiet Conduct.roomy_reading quiet_log fun _ => ?_
  split
  · exact reading_fetch
  · exact .fail _ (by simp [Conduct.reading])

/-- How a text is read that is the locator `u` with slashes behind it. -/
structure Routed (c : Client) (limit : Json) (s u : String) : Prop where
  bare : (∃ slashes, s.toList = u.toList ++ List.replicate slashes '/') ∧
    u.toList.getLast? ≠ some '/'
  /-- However many slashes come behind, nothing changes. -/
  slashes : ∀ more, read c limit (s ++ String.ofList (List.replicate more '/')) = read c limit s
  reads : ∀ l, ∃ sent, ((read c limit s).after l).requests = l.requests ++ sent ∧
    ∀ r ∈ sent, r.method = .get
  one : ∀ first second : Resource, first.NamedBy u → second.NamedBy u → first = second
  workflows : u = "n8n://workflows" → ∀ l,
    (read c limit s).answer l = ((c.listAllWorkflows (.int 100)).answer (noted u l)).map .arr ∧
      (read c limit s).after l = (c.listAllWorkflows (.int 100)).after (noted u l)
  statistics : u = "n8n://execution-stats" →
    ∀ url r, c.prepare (statsCall limit) = .ok (url, r) →
      ∀ l, ((read c limit s).after l).requests = l.requests ++ [r]
  workflow : ∀ id, id ≠ "" → u = "n8n://workflows/" ++ id → ∀ l,
    (read c limit s).answer l =
        told s!"Workflow with ID {id} not found" ((c.getWorkflow (.str id)).answer (noted u l)) ∧
      (read c limit s).after l = (c.getWorkflow (.str id)).after (noted u l)
  execution : ∀ id n, id ≠ "" → u = "n8n://executions/" ++ id → Numeral.integer? id = some n →
    ∀ l, (read c limit s).answer l =
        told s!"Execution with ID {n} not found"
          ((c.getExecution (.int n) (.bool true)).answer (noted u l)) ∧
      (read c limit s).after l = (c.getExecution (.int n) (.bool true)).after (noted u l)
  unnumbered : ∀ id, id ≠ "" → u = "n8n://executions/" ++ id → Numeral.integer? id = none →
    ∀ l, (read c limit s).answer l =
        .error (.refusal (.invalid "Execution ID must be a number")) ∧
      (read c limit s).after l = noted u l
  nothing : (∀ resource : Resource, ¬ resource.NamedBy u) → ∀ l,
    (read c limit s).answer l = .error (.refusal (.invalid s!"Resource not found: {u}")) ∧
      (read c limit s).after l = noted u l
  /-- Every integer that is not too long is the number of an execution. -/
  numbered : ∀ n : Int, (Nat.toDigits 10 n.natAbs).length ≤ 4300 →
    s = "n8n://executions/" ++ toString n → ∀ l,
      (read c limit s).answer l =
          told s!"Execution with ID {n} not found"
            ((c.getExecution (.int n) (.bool true)).answer (noted s l)) ∧
        (read c limit s).after l = (c.getExecution (.int n) (.bool true)).after (noted s l)

theorem read_execution (c : Client) (limit : Json) {id : String} {n : Int}
    (hline : '\n' ∉ s.toList) (hid : id ≠ "")
    (hu : Text.dropSlashes s = "n8n://executions/" ++ id) (hn : Numeral.integer? id = some n)
    (l : Link) :
    (read c limit s).answer l = told s!"Execution with ID {n} not found"
        ((c.getExecution (.int n) (.bool true)).answer (noted (Text.dropSlashes s) l)) ∧
      (read c limit s).after l =
        (c.getExecution (.int n) (.bool true)).after (noted (Text.dropSlashes s) l) := by
  obtain ⟨hanswer, hafter⟩ := read_of_named hline (.execution id) ⟨hid, hu⟩ l
  rw [hanswer, hafter, fetch, hn]
  exact orRefuse_eq _ _ _

/-- Every text on one line goes one way: its final slashes do not count, and what is left
names one resource, which is read, or none, which is refused. -/
theorem read_routes (c : Client) (limit : Json) {s : String} (hline : '\n' ∉ s.toList) :
    Routed c limit s (Text.dropSlashes s) where
  bare := ⟨Text.toList_dropSlashes s, Text.getLast?_dropSlashes s⟩
  slashes := by
    intro more
    rw [read, Text.dropSlashes_append, read]
  reads := by
    intro l
    obtain ⟨sent, hrequests, -, hreads⟩ := reading_read l
    exact ⟨sent, hrequests, hreads⟩
  one := by
    intro first second hfirst hsecond
    have hline := Text.notMem_dropSlashes hline
    exact Option.some_inj.mp
      (((ofUri?_eq_some hline).mpr hfirst).symm.trans ((ofUri?_eq_some hline).mpr hsecond))
  workflows := by
    intro hu l
    obtain ⟨hanswer, hafter⟩ := read_of_named hline .workflows hu l
    rw [hanswer, hafter]
    exact bind_pure_eq _
  statistics := by
    intro hu url r hprepare l
    obtain ⟨steps, hrequests, -, -, page, hcalled, -⟩ :=
      takes_readStats c limit (noted (Text.dropSlashes s) l)
    obtain ⟨-, hafter⟩ := read_of_named hline .executionStats hu l
    rw [hafter, fetch, hrequests, hcalled.sent hprepare]
    rfl
  workflow := by
    intro id hid hu l
    obtain ⟨hanswer, hafter⟩ := read_of_named hline (.workflow id) ⟨hid, hu⟩ l
    rw [hanswer, hafter]
    exact orRefuse_eq _ _ _
  execution := fun id n hid hu hn l => read_execution c limit hline hid hu hn l
  unnumbered := by
    intro id hid hu hnone l
    obtain ⟨hanswer, hafter⟩ := read_of_named hline (.execution id) ⟨hid, hu⟩ l
    rw [hanswer, hafter, fetch, hnone]
    exact ⟨rfl, rfl⟩
  nothing := fun hnamed l => read_of_unnamed hline hnamed l
  numbered := by
    intro n hlength hs l
    have hu : Text.dropSlashes s = s := Text.dropSlashes_eq_self (hs ▸ getLast?_toString _ n)
    have hn : Numeral.integer? (toString n) = some n := Numeral.integer?_toString hlength
    have hid : toString n ≠ "" := by
      intro hempty
      rw [hempty] at hn
      cases hn
    have hread := read_execution c limit hline hid (hu.trans hs) hn l
    rwa [hu] at hread

/-- Two slashes behind the number of an execution do not count. -/
theorem read_seven_with_slashes :
    let c : Client := ⟨"http://n8n.test/api/v1", "key", .int 30⟩
    '\n' ∉ "n8n://executions/7//".toList ∧
      (read c (.int 100) "n8n://executions/7//").answer ⟨[], [], []⟩ =
        .error (.refusal (.invalid "Execution with ID 7 not found")) := by
  intro c
  have hline : '\n' ∉ "n8n://executions/7//".toList := by decide
  have hu : Text.dropSlashes "n8n://executions/7//" = "n8n://executions/" ++ "7" := by decide
  obtain ⟨hanswer, -⟩ :=
    (read_routes c (.int 100) hline).execution "7" 7 (by decide) hu rfl ⟨[], [], []⟩
  rw [hanswer]
  exact ⟨hline, by cbv⟩

end Reading

end Resource

end Flowgate
