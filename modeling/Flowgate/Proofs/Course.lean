import Flowgate.Proofs.Conduct

/-! # Courses of computations on the link

The course of a computation is what can be seen of it: the requests that it sends, each
with the outcome that it meets, and the answer in the end. What a course must satisfy is
handed from step to step: a rule for each step says what is left for the steps behind it.
-/

namespace Flowgate

namespace Link

/-- The outcome of a request to come. Places count from the next request on. -/
def outcome (l : Link) (place : Nat) : Outcome := l.script.getD place Exchange.nothingFound

/-- The outcomes of the next requests, as many as there are. -/
def outcomes (l : Link) (count : Nat) : List Outcome := (List.range count).map l.outcome

theorem outcomes_add {l next : Link} {count : Nat} (h : next.script = l.script.drop count)
    (more : Nat) : l.outcomes (count + more) = l.outcomes count ++ next.outcomes more := by
  have houtcome (place : Nat) : next.outcome place = l.outcome (count + place) := by
    rw [outcome, outcome, h, List.getD_eq_getElem?_getD, List.getElem?_drop,
      List.getD_eq_getElem?_getD]
  unfold outcomes
  rw [List.range_add, List.map_append, List.map_map]
  congr 1
  exact List.map_congr_left fun place _ => (houtcome place).symm

/-- What is sent up to a link meets outcomes, and so does what is sent from it on. -/
theorem sent_append {l next left : Link} {first second : List (Request × Outcome)}
    (hfirst : next.requests = l.requests ++ first.map Prod.fst ∧
      next.script = l.script.drop first.length ∧ first.map Prod.snd = l.outcomes first.length)
    (hsecond : left.requests = next.requests ++ second.map Prod.fst ∧
      left.script = next.script.drop second.length ∧
      second.map Prod.snd = next.outcomes second.length) :
    left.requests = l.requests ++ (first ++ second).map Prod.fst ∧
      left.script = l.script.drop (first ++ second).length ∧
      (first ++ second).map Prod.snd = l.outcomes (first ++ second).length := by
  obtain ⟨hrequests, hscript, houtcomes⟩ := hfirst
  obtain ⟨hrequests', hscript', houtcomes'⟩ := hsecond
  refine ⟨?_, ?_, ?_⟩
  · rw [hrequests', hrequests, List.map_append, List.append_assoc]
  · rw [hscript', hscript, List.drop_drop, List.length_append]
  · rw [List.map_append, houtcomes, houtcomes', List.length_append, outcomes_add hscript]

/-- A request meets with the outcome of its place. -/
theorem outcome_eq_getElem {l : Link} {steps : List (Request × Outcome)}
    (h : steps.map Prod.snd = l.outcomes steps.length) (place : Nat)
    (hplace : place < steps.length) :
    l.outcome place = (steps[place]).2 := by
  have hstep := congrArg (·[place]?) h
  simpa [outcomes, hplace] using hstep.symm

end Link

/-- What is said of the requests of a computation, each with its outcome, and of its
answer. -/
abbrev Course (α : Type) := List (Request × Outcome) → Except Failure α → Prop

namespace Exchange

variable {α β : Type} {x : Exchange α} {next : α → Exchange β} {p : Course β}

/-- The course of a computation on every link. The requests that are sent meet with the
outcomes of the link, one by one. -/
def Takes (x : Exchange α) (p : Course α) : Prop := ∀ l, ∃ steps : List (Request × Outcome),
  (x.after l).requests = l.requests ++ steps.map Prod.fst ∧
    (x.after l).script = l.script.drop steps.length ∧
    steps.map Prod.snd = l.outcomes steps.length ∧ p steps (x.answer l)

namespace Takes

theorem imp {p q : Course α} (h : x.Takes p)
    (hle : ∀ steps answer, p steps answer → q steps answer) : x.Takes q := by
  intro l
  obtain ⟨steps, hrequests, hscript, houtcomes, hp⟩ := h l
  exact ⟨steps, hrequests, hscript, houtcomes, hle _ _ hp⟩

/-- What leaves requests and outcomes alone sends nothing. -/
theorem unsent {p : Course α} (hrequests : ∀ l, (x.after l).requests = l.requests)
    (hscript : ∀ l, (x.after l).script = l.script) (hp : ∀ l, p [] (x.answer l)) :
    x.Takes p := by
  intro l
  exact ⟨[], (hrequests l).trans (List.append_nil _).symm, hscript l, rfl, hp l⟩

theorem pure {p : Course α} (a : α) (h : p [] (.ok a)) : (pure a : Exchange α).Takes p :=
  unsent (fun _ => rfl) (fun _ => rfl) fun _ => h

theorem fail {p : Course α} (failure : Failure) (h : p [] (.error failure)) :
    (Exchange.fail failure : Exchange α).Takes p :=
  unsent (fun _ => rfl) (fun _ => rfl) fun _ => h

/-- Where the first computation fails its course is the whole; otherwise the second goes
on where the first ended. -/
theorem bind
    (h : x.Takes fun first answer =>
      (∀ failure, answer = .error failure → p first (.error failure)) ∧
        ∀ a, answer = .ok a → (next a).Takes fun second answer => p (first ++ second) answer) :
    (x >>= next).Takes p := by
  intro l
  obtain ⟨first, hrequests, hscript, houtcomes, hfailure, hok⟩ := h l
  cases hanswer : x.answer l with
  | error failure =>
      obtain ⟨hbind, hafter⟩ := bind_of_error next hanswer
      rw [hbind, hafter]
      exact ⟨first, hrequests, hscript, houtcomes, hfailure failure hanswer⟩
  | ok a =>
      obtain ⟨hbind, hafter⟩ := bind_of_ok next hanswer
      obtain ⟨second, hrequests', hscript', houtcomes', hp⟩ := hok a hanswer (x.after l)
      obtain ⟨hsent, hleft, hmet⟩ := Link.sent_append ⟨hrequests, hscript, houtcomes⟩
        ⟨hrequests', hscript', houtcomes'⟩
      rw [hbind, hafter]
      exact ⟨first ++ second, hsent, hleft, hmet, hp⟩

/-- What sends nothing and gives a value is followed by what is done with the value. -/
theorem bind_unsent {a : α} (hx : x.Takes fun steps answer => steps = [] ∧ answer = .ok a)
    (hnext : (next a).Takes p) : (x >>= next).Takes p := by
  refine bind (hx.imp ?_)
  rintro _ _ ⟨rfl, rfl⟩
  exact ⟨nofun, fun _ h => Except.ok.inj h ▸ hnext⟩

theorem log_bind {level : Log.Level} {name : String} {fields : List (String × Json)}
    {next : Unit → Exchange β} (h : (next ()).Takes p) :
    (log level name fields >>= next).Takes p :=
  bind_unsent (unsent (fun _ => rfl) (fun _ => rfl) fun _ => ⟨rfl, rfl⟩) h

/-- The requests that are to come may depend on the link as it is found. -/
theorem get_bind {next : Link → Exchange β} (h : ∀ l, (next l).Takes p) :
    ((get : Exchange Link) >>= next).Takes p := by
  refine bind (unsent (fun _ => rfl) (fun _ => rfl) fun l => ⟨nofun, fun _ _ => ?_⟩)
  exact h _

theorem ofExcept_bind {e : Except Failure α} (hok : ∀ a, e = .ok a → (next a).Takes p)
    (herror : ∀ failure, e = .error failure → p [] (.error failure)) :
    ((MonadExcept.ofExcept e : Exchange α) >>= next).Takes p := by
  cases e with
  | ok a => exact bind_unsent (pure a ⟨rfl, rfl⟩) (hok a rfl)
  | error failure => exact fail failure (herror failure rfl)

theorem shaped_bind {e : Except Fault α} (hok : ∀ a, e = .ok a → (next a).Takes p)
    (herror : ∀ fault, e = .error fault → p [] (.error (.fault fault))) :
    (shaped e >>= next).Takes p := by
  cases e with
  | ok a => exact bind_unsent (pure a ⟨rfl, rfl⟩) (hok a rfl)
  | error fault => exact fail (.fault fault) (herror fault rfl)

theorem send_bind {request : Request} {next : Outcome → Exchange β}
    (h : ∀ outcome, (next outcome).Takes fun steps answer =>
      p ((request, outcome) :: steps) answer) :
    (send request >>= next).Takes p := by
  refine bind fun l => ?_
  refine ⟨[(request, l.outcome 0)], ?_, ?_, rfl, nofun, ?_⟩
  · cases l with | mk script requests events => cases script <;> rfl
  · cases l with | mk script requests events => cases script <;> rfl
  · intro outcome hanswer
    have houtcome : outcome = l.outcome 0 := by
      refine Except.ok.inj (hanswer.symm.trans ?_)
      cases l with | mk script requests events => cases script <;> rfl
    rw [houtcome]
    exact h _

/-- A failure of the engine is followed by what the handler does. -/
theorem recover {x : Exchange β} {handler : EngineError → Exchange β}
    (h : x.Takes fun first answer =>
      (∀ error, answer = .error (.engine error) →
        (handler error).Takes fun second answer => p (first ++ second) answer) ∧
      ((∀ error, answer ≠ .error (.engine error)) → p first answer)) :
    (Exchange.recover x handler).Takes p := by
  intro l
  obtain ⟨first, hrequests, hscript, houtcomes, hengine, hserved⟩ := h l
  rcases recover_cases x handler l with
    ⟨error, herror, hrecovered, hafter⟩ | ⟨hnone, hanswer, hafter⟩
  · obtain ⟨second, hrequests', hscript', houtcomes', hp⟩ := hengine error herror (x.after l)
    obtain ⟨hsent, hleft, hmet⟩ := Link.sent_append ⟨hrequests, hscript, houtcomes⟩
      ⟨hrequests', hscript', houtcomes'⟩
    rw [hrecovered, hafter]
    exact ⟨first ++ second, hsent, hleft, hmet, hp⟩
  · rw [hanswer, hafter]
    exact ⟨first, hrequests, hscript, houtcomes, hserved hnone⟩

/-- A course tells the conduct. -/
theorem keeps {p : Course α} {q : Conduct} (h : x.Takes p)
    (hok : ∀ steps a, p steps (.ok a) → q (steps.map Prod.fst) none)
    (herror : ∀ steps failure, p steps (.error failure) →
      q (steps.map Prod.fst) (some failure)) : x.Keeps q := by
  intro l
  obtain ⟨steps, hrequests, hscript, -, hp⟩ := h l
  refine ⟨steps.map Prod.fst, hrequests, ?_, ?_⟩
  · rw [List.length_map, hscript]
  · unfold failure?
    cases hanswer : x.answer l with
    | ok a => exact hok steps a (hanswer ▸ hp)
    | error failure => exact herror steps failure (hanswer ▸ hp)

/-- What has a conduct goes some way. -/
theorem of_keeps {q : Conduct} (h : x.Keeps q) : x.Takes fun _ _ => True := by
  intro l
  obtain ⟨sent, hrequests, hscript, -⟩ := h l
  have hlength : sent.length = (l.outcomes sent.length).length := by
    rw [Link.outcomes, List.length_map, List.length_range]
  refine ⟨sent.zip (l.outcomes sent.length), ?_, ?_, ?_, trivial⟩
  · rw [hrequests, List.map_fst_zip (Nat.le_of_eq hlength)]
  · rw [hscript, List.length_zip, ← hlength, Nat.min_self]
  · rw [List.map_snd_zip (Nat.le_of_eq hlength.symm), List.length_zip, ← hlength, Nat.min_self]

/-- Failures may be told otherwise. -/
theorem adapt {p : Course α} (tell : Failure → Failure)
    (hx : x.Takes fun steps answer => p steps (answer.mapError tell)) :
    Takes (ExceptT.adapt tell x) p := by
  intro l
  obtain ⟨steps, hrequests, hscript, houtcomes, hp⟩ := hx l
  exact ⟨steps, hrequests, hscript, houtcomes, hp⟩

end Takes

end Exchange

end Flowgate
