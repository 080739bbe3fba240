import Flowgate.Proofs.Engine.Conduct
import Flowgate.Proofs.Engine.Endpoint
import Flowgate.Proofs.Number.Integer
import Flowgate.Proofs.Number.Whole
import Flowgate.Proofs.Tool.Contract
import Flowgate.Proofs.Tool.Course

/-! # Which execution a call is about

A call is about the execution whose integer the identifier denotes, as a number or as a numeral.
Flags and numbers with a fraction denote no integer. They are not refused: a flag counts as zero
or one, and a fraction is cut off. An integer with too many digits is written into no locator.
-/

namespace Flowgate

namespace Json

/-- The integer that a value denotes. -/
inductive Denotes : Json → Int → Prop
  | int (n : Int) : Denotes (.int n) n
  | float {x : Binary64} {n : Int} : x.isFinite = true → x.number = n → Denotes (.float x) n
  | str {s : String} {n : Int} : Numeral.IsInteger s n → Denotes (.str s) n

/-- The integer that a value is cut to which denotes none. -/
inductive CutTo : Json → Int → Prop
  | flag (b : Bool) : CutTo (.bool b) (if b then 1 else 0)
  | fraction {x : Binary64} : x.isFinite = true → (∀ n : Int, x.number ≠ n) →
      CutTo (.float x) (towardZero x.number)

variable {v : Json}

theorem toInt?_eq_some_iff {n : Int} :
    Argument.toInt? v = .ok (some n) ↔ v.Denotes n ∨ v.CutTo n := by
  constructor
  · intro h
    cases v with
    | int i =>
        cases h
        exact .inl (.int _)
    | bool b =>
        cases h
        exact .inr (.flag b)
    | float x =>
        have hfinite := Tool.isFinite_of_toInt? h
        have hcut : towardZero x.number = n := by
          simp only [Argument.toInt?] at h
          split at h
          · cases h
          · rw [Binary64.truncate?_of_isFinite hfinite] at h
            exact Option.some.inj (Except.ok.inj h)
        by_cases hwhole : ∃ m : Int, x.number = m
        · obtain ⟨m, hm⟩ := hwhole
          rw [hm, towardZero_intCast] at hcut
          exact .inl (.float hfinite (hcut ▸ hm))
        · rw [← hcut]
          exact .inr (.fraction hfinite fun m hm => hwhole ⟨m, hm⟩)
    | str s => exact .inl (.str (Numeral.integer?_eq_some_iff.mp (Except.ok.inj h)))
    | _ => cases h
  · have hcut {x : Binary64} (hfinite : x.isFinite = true) :
        Argument.toInt? (.float x) = .ok (some (towardZero x.number)) := by
      have hbounded : x.isInfinite = false := by
        by_contra hinfinite
        rw [Bool.not_eq_false] at hinfinite
        rw [Binary64.isFinite_of_isInfinite hinfinite] at hfinite
        cases hfinite
      simp [Argument.toInt?, hbounded, Binary64.truncate?_of_isFinite hfinite]
    rintro (hdenotes | hcuts)
    · cases hdenotes with
      | int => rfl
      | float hfinite hwhole => rw [hcut hfinite, hwhole, towardZero_intCast]
      | str hnumeral => exact congrArg Except.ok (Numeral.integer?_eq_some_iff.mpr hnumeral)
    · cases hcuts with
      | flag => rfl
      | fraction hfinite => exact hcut hfinite

theorem toInt?_eq_error_iff {fault : Fault} :
    Argument.toInt? v = .error fault ↔
      (∃ x, v = .float x ∧ x.isInfinite = true) ∧ fault = .infinite := by
  cases v with
  | float x =>
      simp only [Argument.toInt?]
      split
      next hinfinite =>
        constructor
        · rintro ⟨⟩
          exact ⟨⟨x, rfl, hinfinite⟩, rfl⟩
        · rintro ⟨-, rfl⟩
          rfl
      next hbounded => simp [hbounded]
  | _ => simp [Argument.toInt?]

/-- What stands for no integer is not read as one, or it is an infinity. -/
theorem toInt?_of_none (h : ∀ n, ¬ v.Denotes n ∧ ¬ v.CutTo n) :
    Argument.toInt? v = .ok none ∨
      Argument.toInt? v = .error .infinite ∧ ∃ x, v = .float x ∧ x.isInfinite = true := by
  cases hread : Argument.toInt? v with
  | error fault =>
      obtain ⟨hinfinite, rfl⟩ := toInt?_eq_error_iff.mp hread
      exact .inr ⟨rfl, hinfinite⟩
  | ok found =>
      cases found with
      | none => exact .inl rfl
      | some n =>
          rcases toInt?_eq_some_iff.mp hread with hdenotes | hcuts
          · exact absurd hdenotes (h n).1
          · exact absurd hcuts (h n).2

end Json

namespace Client

open Exchange

variable {c : Client} {id : Json}

theorem makes_deleteExecution : (c.deleteExecution id).Takes
    (Makes c { method := .delete, endpoint := executionPath id, identifier := id }
      fun _ => True) :=
  .log_bind makes_request

theorem makes_getExecution {includeData : Json} : (c.getExecution id includeData).Takes
    (Makes c (executionCall id includeData) fun _ => True) := by
  apply Takes.log_bind
  apply makes_request_bind trivial
  intro execution
  apply Takes.of_keeps (q := .quiet)
  split
  · refine quiet_bind quiet_shaped fun data => ?_
    split
    · exact quiet_bind quiet_log fun _ => quiet_pure
    · exact quiet_pure
  · exact quiet_pure

theorem makes_retryExecution : (c.retryExecution id).Takes
    (Makes c (executionCall id (.bool true)) fun _ => True) := by
  apply Takes.log_bind
  apply makes_bind makes_getExecution
  intro execution
  apply Takes.of_keeps (q := .orderly)
  refine .after_quiet Conduct.roomy_orderly quiet_shaped fun workflowId => ?_
  split
  · refine .after_quiet Conduct.roomy_orderly quiet_pasted fun pasted => ?_
    refine orderly_bind reading_getWorkflow fun workflow => ?_
    exact .after_quiet Conduct.roomy_orderly quiet_shaped fun data => orderly_run
  · exact .fail _ (Conduct.roomy_orderly.fails fun h => h)

end Client

namespace Tool

open Client Exchange

variable {c : Client} {base asked : Url} {tool : Tool} {fields : List (String × Json)} {v : Json}

/-! ## Identifiers -/

/-- The identifier of an execution is its integer, or what is refused, or an infinity. -/
theorem takes_executionId_bind {α : Type} {next : Json → Exchange α} {p : Course α}
    (hid : fields.lookup "id" = some v)
    (hnext : ∀ n, Argument.toInt? v = .ok (some n) → (next (.int n)).Takes p)
    (hrefused : Argument.toInt? v = .ok none → ∀ refusal : Refusal,
      refusal.code = .invalidParams → p [] (.error (.refusal refusal)))
    (hfault : ∀ fault, Argument.toInt? v = .error fault → p [] (.error (.fault fault))) :
    (executionId (.obj fields) >>= next).Takes p := by
  unfold executionId
  rw [bind_assoc, executionId_eq hid]
  cases hread : Argument.toInt? v with
  | error fault =>
      apply Takes.ofExcept_bind
      · nofun
      · rintro _ ⟨⟩
        exact hfault fault hread
  | ok found =>
      cases found with
      | none =>
          apply Takes.ofExcept_bind
          · nofun
          · rintro _ ⟨⟩
            exact hrefused hread _ rfl
      | some n =>
          apply Takes.ofExcept_bind
          · rintro _ ⟨⟩
            rw [pure_bind]
            exact hnext n hread
          · nofun

/-! ## Calls -/

/-- A tool may ask for the data of its execution as well. -/
def asksData (fields : List (String × Json)) : Tool → Bool
  | retryExecution => true
  | getExecution => (Json.getField "includeData" fields).truthy
  | _ => false

/-- The first call of a tool that is about an execution. -/
def executionAsk (tool : Tool) (fields : List (String × Json)) (n : Int) : Call where
  method := if tool = deleteExecution then .delete else .get
  endpoint := executionPath (.int n)
  identifier := .int n
  parameters := if tool.asksData fields then some [("includeData", .bool true)] else none

/-- An identifier that is read as an integer is asked for; any other one is refused, or it is an
infinity. -/
def Executes (c : Client) (tool : Tool) (fields : List (String × Json)) (v : Json) :
    Course Json := fun steps answer =>
  match Argument.toInt? v with
  | .ok (some n) => Makes c (tool.executionAsk fields n) (fun _ => True) steps answer
  | .ok none => steps = [] ∧
      ∃ refusal : Refusal, answer = .error (.refusal refusal) ∧ refusal.code = .invalidParams
  | .error fault => steps = [] ∧ answer = .error (.fault fault)

theorem executes_bind {next : Json → Exchange Json} (hid : fields.lookup "id" = some v)
    (hnext : ∀ n, (next (.int n)).Takes
      (Makes c (tool.executionAsk fields n) fun _ => True)) :
    (executionId (.obj fields) >>= next).Takes (Executes c tool fields v) := by
  unfold Executes
  apply takes_executionId_bind hid
  · intro n hread
    rw [hread]
    exact hnext n
  · intro hread refusal hcode
    rw [hread]
    exact ⟨rfl, refusal, rfl, hcode⟩
  · intro fault hread
    rw [hread]
    exact ⟨rfl, rfl⟩

theorem executes_run (htool : tool ∈ executionTools) (hid : fields.lookup "id" = some v) :
    (run c tool (.obj fields)).Takes (Executes c tool fields v) := by
  simp only [executionTools, List.mem_cons, List.not_mem_nil, or_false] at htool
  rcases htool with rfl | rfl | rfl
  · exact executes_bind hid fun n => makes_retryExecution
  · refine executes_bind hid fun n => .shaped_bind (fun includeData hincluded => ?_) ?_
    · cases hincluded
      exact makes_getExecution
    · intro fault hfault
      cases hfault
  · exact executes_bind hid fun n => makes_deleteExecution

/-! ## Where calls go -/

theorem isFixed_execution (n : Int) :
    ∀ part ∈ ["executions".toList, (toString n).toList], Url.IsFixed part := by
  refine List.forall_mem_cons.mpr ⟨?_, List.forall_mem_singleton.mpr ?_⟩
  · exact ⟨by decide, by decide, by decide, by decide⟩
  · apply Url.isFixed_of_isUnreserved
    rw [Json.toList_toString]
    intro mark hmark
    rcases List.mem_append.mp hmark with hsign | hdigit
    · split at hsign
      · rw [List.mem_singleton.mp hsign]
        decide
      · cases hsign
    · have hdecimal := (Json.isDigits_toDigits n.natAbs).all mark hdigit
      refine ⟨by simp [Url.isUnreserved, Char.isAlphanum, hdecimal], ?_⟩
      rintro rfl
      exact absurd hdecimal (by decide)

theorem executionPath_int (n : Int) :
    executionPath (.int n) = "/executions/" ++ toString n := by
  apply String.toList_injective
  rw [toList_executionPath, String.toList_append]
  rfl

/-- The locator of an execution. -/
def executionPlace (base asked : Url) (tool : Tool) (fields : List (String × Json)) (n : Int) :
    Url :=
  { if tool.asksData fields then asked else base with
    path := base.path ++ "/executions/" ++ toString n }

theorem prepare_executionAsk (hasks : c.Asks base "includeData=true" asked) {n : Int}
    (hshort : Json.isShort n = true)
    (hlength : (c.baseUrl ++ "/executions/" ++ toString n).length ≤ Url.lengthLimit)
    (hpath : (base.path ++ "/executions/" ++ toString n).length ≤ Url.lengthLimit) :
    let place := executionPlace base asked tool fields n
    c.prepare (tool.executionAsk fields n) = .ok (place,
      ⟨if tool = deleteExecution then .delete else .get, place.toText, c.apiKey, c.timeout,
        none⟩) := by
  have hendpoint : (executionPath (.int n)).toList =
      Url.joined ["executions".toList, (toString n).toList] := by
    simp [executionPath_int, Url.joined]
  have hspelt : (Json.int n).textFlaw? = none :=
    Json.textFlaw?_of_isWritable ((Json.isWritable_int n).trans hshort)
  rw [String.append_assoc, ← executionPath_int] at hlength hpath
  unfold executionAsk executionPlace
  rw [String.append_assoc, ← executionPath_int]
  cases tool.asksData fields with
  | true =>
      exact hasks.prepare_endpoint (List.cons_ne_nil _ _) (isFixed_execution n) hendpoint hlength
        hpath hspelt rfl (by decide) _
  | false =>
      have hprepare := hasks.ready.prepare_endpoint (List.cons_ne_nil _ _) (isFixed_execution n)
        hendpoint hlength (if tool = deleteExecution then .delete else .get) hspelt
      rw [← hasks.ready.toText_endpoint] at hprepare
      exact hprepare

theorem prepare_executionAsk_of_long {n : Int} (hlong : Json.isShort n = false) :
    c.prepare (tool.executionAsk fields n) = .error (.unwritable .tooLong) := by
  apply prepare_of_unspelt
  change Json.integerFlaw? n = some .tooLong
  rw [Json.integerFlaw?, hlong]
  rfl

/-- The first request of a call is about the execution that the identifier denotes; an integer
with too many digits is not sent. Where the identifier denotes none, flags and fractions are cut
to an execution all the same, an infinity ends the call, and anything else is refused. -/
theorem execution_of_identifier (c : Client) {base asked : Url} {tool : Tool}
    {fields : List (String × Json)} {v : Json} (l : Link)
    (hasks : c.Asks base "includeData=true" asked) (htool : tool ∈ executionTools)
    (hid : fields.lookup "id" = some v) :
    let act := call c tool.name (.obj fields)
    let method : Method := if tool = deleteExecution then .delete else .get
    let Acts (n : Int) : Prop :=
      (Json.isShort n = true →
        (c.baseUrl ++ "/executions/" ++ toString n).length ≤ Url.lengthLimit →
        (base.path ++ "/executions/" ++ toString n).length ≤ Url.lengthLimit →
        ∃ more, (act.after l).requests = l.requests ++
          ⟨method, (executionPlace base asked tool fields n).toText, c.apiKey, c.timeout, none⟩ ::
            more) ∧
      (Json.isShort n = false →
        (act.after l).requests = l.requests ∧ act.answer l = .error (.unwritable .tooLong))
    (∀ n, v.Denotes n → Acts n) ∧ (∀ n, v.CutTo n → Acts n) ∧
      ((∀ n, ¬ v.Denotes n ∧ ¬ v.CutTo n) → (act.after l).requests = l.requests ∧
        ((∃ x, v = .float x ∧ x.isInfinite = true) → act.answer l = .error (.fault .infinite)) ∧
        ((¬ ∃ x, v = .float x ∧ x.isInfinite = true) → ∃ refusal : Refusal,
          act.answer l = .error (.refusal refusal) ∧ refusal.code = .invalidParams)) := by
  intro act method Acts
  obtain ⟨steps, hrequests, -, -, raw, hanswer, hexecutes⟩ :=
    takes_call_of_run (executes_run (c := c) htool hid) l
  unfold Executes at hexecutes
  have hacts (n : Int) (hread : Argument.toInt? v = .ok (some n)) : Acts n := by
    rw [hread] at hexecutes
    refine ⟨fun hshort hlength hpath => ?_, fun hlong => ?_⟩
    · obtain ⟨outcome, more, rfl, -⟩ :=
        hexecutes.1 _ _ (prepare_executionAsk hasks hshort hlength hpath)
      exact ⟨more.map Prod.fst, hrequests⟩
    · obtain ⟨rfl, rfl⟩ := hexecutes.2 _ (prepare_executionAsk_of_long hlong)
      exact ⟨hrequests.trans (List.append_nil _), hanswer⟩
  refine ⟨fun n hdenotes => ?_, fun n hcuts => ?_, fun hnone => ?_⟩
  · exact hacts n (Json.toInt?_eq_some_iff.mpr (.inl hdenotes))
  · exact hacts n (Json.toInt?_eq_some_iff.mpr (.inr hcuts))
  · rcases Json.toInt?_of_none hnone with hread | ⟨hread, hinfinite⟩
    · rw [hread] at hexecutes
      obtain ⟨rfl, refusal, rfl, hcode⟩ := hexecutes
      refine ⟨hrequests.trans (List.append_nil _), fun hinfinite => ?_,
        fun _ => ⟨refusal, hanswer, hcode⟩⟩
      cases hread.symm.trans (Json.toInt?_eq_error_iff.mpr ⟨hinfinite, rfl⟩)
    · rw [hread] at hexecutes
      obtain ⟨rfl, rfl⟩ := hexecutes
      exact ⟨hrequests.trans (List.append_nil _), fun _ => hanswer,
        fun hbounded => absurd hinfinite hbounded⟩

/-- A numeral may have zeros in front and blanks around it. -/
theorem get_execution_of_numeral :
    let fields : List (String × Json) := [("id", " 0_7 "), ("includeData", .bool true)]
    ∃ more, ((call Operation.hosted "get_execution" (.obj fields)).after ⟨[], [], []⟩).requests =
      ⟨.get, "http://n8n.test/api/v1/executions/7?includeData=true", "key", .int 30, none⟩ ::
        more := by
  intro fields
  have hnumeral : Json.Denotes " 0_7 " 7 := .str (Numeral.integer?_eq_some_iff.mp (by cbv))
  have hlength : (Operation.hosted.baseUrl ++ "/executions/" ++ toString (7 : Int)).length ≤
      Url.lengthLimit := by decide
  have htool : getExecution ∈ executionTools := by decide
  have hid : fields.lookup "id" = some " 0_7 " := rfl
  obtain ⟨more, hrequests⟩ := (execution_of_identifier Operation.hosted ⟨[], [], []⟩ asks_hosted
    htool hid).1 7 hnumeral |>.1 (by decide) hlength (by decide)
  refine ⟨more, hrequests.trans ?_⟩
  have hplace : (executionPlace ⟨"http", "", "n8n.test", none, "/api/v1", none, none⟩
      ⟨"http", "", "n8n.test", none, "/api/v1", some "includeData=true", none⟩ getExecution fields
      7).toText = "http://n8n.test/api/v1/executions/7?includeData=true" := by cbv
  rw [hplace]
  rfl

/-- A flag is the identifier of an execution, and the execution is deleted. -/
theorem delete_execution_of_flag :
    (∀ n, ¬ Json.Denotes (.bool true) n) ∧
      ((call Operation.hosted "delete_execution" (.obj [("id", .bool true)])).after
        ⟨[], [], []⟩).requests =
        [⟨.delete, "http://n8n.test/api/v1/executions/1", "key", .int 30, none⟩] :=
  ⟨nofun, by cbv⟩

end Tool

end Flowgate
