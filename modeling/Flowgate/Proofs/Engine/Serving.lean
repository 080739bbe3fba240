import Flowgate.Proofs.Engine.Course

/-! # Requests that are served

Where it is known what a request meets with, it is known what a computation comes to: its
answer, what it sends, and which outcomes are left for the requests behind it.
-/

namespace Flowgate

namespace Exchange

/-- What a computation comes to on a link: its answer, what it sends, and the outcomes that it
leaves. -/
structure Yields {α : Type} (x : Exchange α) (l : Link) (answer : Except Failure α)
    (sent : List Request) (left : List Outcome) : Prop where
  answer : x.answer l = answer
  requests : (x.after l).requests = l.requests ++ sent
  script : (x.after l).script = left

namespace Yields

variable {α β : Type} {x : Exchange α} {next : α → Exchange β} {l : Link} {a : α}
  {result : Except Failure β} {sent more : List Request} {left rest : List Outcome}

theorem pure (a : α) (hscript : l.script = left) : Yields (pure a) l (.ok a) [] left :=
  ⟨rfl, (List.append_nil _).symm, hscript⟩

theorem bind (hx : Yields x l (.ok a) sent left)
    (hnext : Yields (next a) (x.after l) result more rest) :
    Yields (x >>= next) l result (sent ++ more) rest := by
  obtain ⟨hbind, hafter⟩ := bind_of_ok next hx.answer
  refine ⟨hbind.trans hnext.answer, ?_, ?_⟩
  · rw [hafter, hnext.requests, hx.requests, List.append_assoc]
  · rw [hafter, hnext.script]

theorem bind_error {failure : Failure} (hx : Yields x l (.error failure) sent left) :
    Yields (x >>= next) l (.error failure) sent left := by
  obtain ⟨hbind, hafter⟩ := bind_of_error next hx.answer
  exact ⟨hbind, hafter ▸ hx.requests, hafter ▸ hx.script⟩

theorem shaped_bind {e : Except Fault α} (he : e = .ok a)
    (hnext : Yields (next a) l result more rest) :
    Yields (shaped e >>= next) l result more rest := by
  subst he
  exact bind (pure a rfl) hnext

theorem ofExcept_bind (hnext : Yields (next a) l result more rest) :
    Yields (MonadExcept.ofExcept (.ok a : Except Failure α) >>= next) l result more rest :=
  bind (pure a rfl) hnext

theorem get_bind {next : Link → Exchange β} (h : Yields (next l) l result more rest) :
    Yields ((get : Exchange Link) >>= next) l result more rest :=
  ⟨h.answer, h.requests, h.script⟩

/-- Logging leaves requests and outcomes alone. -/
theorem log_bind {level : Log.Level} {name : String} {fields : List (String × Json)}
    {next : Unit → Exchange β}
    (hnext : ∀ m : Link, m.script = l.script → Yields (next ()) m result more rest) :
    Yields (log level name fields >>= next) l result more rest := by
  have hlog : Yields (log level name fields) l (.ok ()) [] l.script :=
    ⟨rfl, (List.append_nil _).symm, rfl⟩
  exact hlog.bind (hnext _ rfl)

/-- Logging what was found leaves requests and outcomes alone. -/
theorem bind_log_pure {level : Log.Level} {name : String} {fields : α → List (String × Json)}
    (hx : Yields x l (.ok a) sent left) :
    Yields (x >>= fun a => log level name (fields a) >>= fun _ => Pure.pure a) l (.ok a) sent
      left := by
  have hlog : Yields (log level name (fields a) >>= fun _ => Pure.pure a) (x.after l) (.ok a) []
      left :=
    ⟨rfl, (List.append_nil _).symm, hx.script⟩
  have hbind : Yields (x >>= fun a => log level name (fields a) >>= fun _ => Pure.pure a) l
      (.ok a) (sent ++ []) left := hx.bind hlog
  rwa [List.append_nil] at hbind

end Yields

end Exchange

/-- A request is served with a value. -/
def Outcome.Serves (v : Json) : Outcome → Prop
  | .answer response => response.status < 400 ∧ response.body = v
  | .unreachable _ => False
  | .aborted _ => False

/-- The engine answers with a text in UTF-8. -/
def Outcome.body (text : String) : Outcome := .answer (.ofOctets 200 (Utf8.encode text))

theorem Outcome.serves_body {text : String} {v : Json}
    (hread : Json.ofOctets? (Utf8.encode text) = some v) : (Outcome.body text).Serves v := by
  refine ⟨(by decide : (200 : Int) < 400), ?_⟩
  unfold Response.body Response.ofOctets
  dsimp only
  split
  next hempty =>
    rw [List.isEmpty_iff.mp hempty] at hread
    cases hread
  next =>
    rw [hread]
    rfl

namespace Client

open Exchange

variable {c : Client} {call : Call} {url : Url} {r : Request} {l : Link} {v : Json}
  {left : List Outcome}

/-- What a call fails with was served with nothing. -/
theorem Called.unserved {steps : List (Request × Outcome)} {failure : Failure}
    (h : Called c call steps (.error failure)) (hprepare : c.prepare call = .ok (url, r))
    (habsolute : url.isAbsolute = true) :
    ∃ outcome, steps = [(r, outcome)] ∧ ∀ v, ¬ outcome.Serves v := by
  cases h with
  | refused hother => cases hprepare.symm.trans hother
  | unreachable message hother =>
      cases hprepare.symm.trans hother
      exact ⟨_, rfl, fun _ hserves => hserves⟩
  | aborted reason hother =>
      cases hprepare.symm.trans hother
      exact ⟨_, rfl, fun _ hserves => hserves⟩
  | placeless response hother hplaceless =>
      cases hprepare.symm.trans hother
      rw [habsolute] at hplaceless
      cases hplaceless
  | rejected response hother _ hstatus =>
      cases hprepare.symm.trans hother
      exact ⟨_, rfl, fun _ hserves => absurd hserves.1 (Int.not_lt.mpr hstatus)⟩

/-- A request that is served gives what it is served with. -/
theorem yields_request {outcome : Outcome} (hprepare : c.prepare call = .ok (url, r))
    (habsolute : url.isAbsolute = true) (hserves : outcome.Serves v)
    (hscript : l.script = outcome :: left) : Yields (c.request call) l (.ok v) [r] left := by
  obtain ⟨steps, hrequests, hleft, houtcomes, hcalled⟩ := takes_request c call l
  have hfirst : l.outcome 0 = outcome := by rw [Link.outcome, hscript]; rfl
  have hsent := hcalled.sent hprepare
  obtain ⟨⟨_, met⟩, rfl, rfl⟩ := List.map_eq_singleton_iff.mp hsent
  have hmet : met = outcome := by
    rw [← hfirst]
    exact (Link.outcome_eq_getElem houtcomes 0 Nat.one_pos).symm
  subst hmet
  refine ⟨?_, hrequests, by rw [hleft, hscript]; rfl⟩
  generalize (c.request call).answer l = answer at hcalled
  cases hcalled with
  | unreachable | aborted => exact hserves.elim
  | placeless response hother hplaceless =>
      cases hprepare.symm.trans hother
      rw [habsolute] at hplaceless
      cases hplaceless
  | rejected response _ _ hstatus => exact absurd hserves.1 (Int.not_lt.mpr hstatus)
  | answered response => rw [hserves.2]

/-- A call that is refused sends nothing. -/
theorem yields_request_of_error {failure : Failure} (hprepare : c.prepare call = .error failure)
    (hscript : l.script = left) : Yields (c.request call) l (.error failure) [] left := by
  obtain ⟨steps, hrequests, hleft, -, hcalled⟩ := takes_request c call l
  obtain ⟨rfl, hanswer⟩ := hcalled.unsent hprepare
  exact ⟨hanswer, hrequests, hleft.trans hscript⟩

end Client

end Flowgate
