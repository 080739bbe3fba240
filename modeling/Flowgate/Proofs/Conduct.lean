import Flowgate.Proofs.Exchange
import Mathlib.Order.Basic

/-! # What computations on the link send

A conduct says what a computation may send and which failure it may end with. Conducts
follow one another as computations do, so that the conduct of a computation is put
together from those of its steps, whatever becomes of the requests.
-/

namespace Flowgate

/-- A refusal of what was asked, told to the agent or still to be told. -/
def Failure.IsRefusal : Failure → Prop
  | .definition _ => True
  | .refusal _ => True
  | _ => False

/-- What a computation may send, with the failure that it may end with. -/
abbrev Conduct := List Request → Option Failure → Prop

namespace Conduct

/-- Nothing is sent. -/
def silent : Conduct := fun sent _ => sent = []

/-- What was asked is not refused. -/
def unrefused : Conduct := fun _ failure => ∀ f ∈ failure, ¬ f.IsRefusal

/-- Nothing is sent and nothing is refused. -/
def quiet : Conduct := fun sent failure => sent = [] ∧ ∀ f ∈ failure, ¬ f.IsRefusal

/-- Nothing is changed. -/
def reading : Conduct := fun sent _ => ∀ r ∈ sent, r.method = .get

/-- Reads come first and one change at most comes last. Where what was asked is refused,
there is no change. -/
def orderly : Conduct := fun sent failure =>
  ∃ reads changes, sent = reads ++ changes ∧ (∀ r ∈ reads, r.method = .get) ∧
    (∀ r ∈ changes, r.method ≠ .get) ∧ changes.length ≤ 1 ∧
    (changes ≠ [] → ∀ f ∈ failure, ¬ f.IsRefusal)

/-- One conduct, and another where the first ended without a failure. -/
def andThen (p q : Conduct) : Conduct := fun sent failure =>
  (failure.isSome ∧ p sent failure) ∨
    ∃ first second, sent = first ++ second ∧ p first none ∧ q second failure

/-- A conduct that leaves room for quiet steps on either side. -/
structure Roomy (p : Conduct) : Prop where
  before : quiet.andThen p ≤ p
  behind : p.andThen quiet ≤ p

theorem Roomy.fails {p : Conduct} (hp : p.Roomy) {failure : Failure} (h : ¬ failure.IsRefusal) :
    p [] (some failure) :=
  hp.before _ _ (.inl ⟨rfl, rfl, by simpa using h⟩)

/-- A failure that refuses nothing may come behind what was sent. -/
theorem Roomy.fails_behind {p : Conduct} (hp : p.Roomy) {sent : List Request} (hsent : p sent none)
    {failure : Failure} (h : ¬ failure.IsRefusal) : p sent (some failure) :=
  hp.behind _ _ (.inr ⟨sent, [], (List.append_nil sent).symm, hsent, rfl, by simpa using h⟩)

theorem silent_le_reading : silent ≤ reading := by
  rintro _ _ rfl
  simp [reading]

theorem reading_le_orderly : reading ≤ orderly := by
  intro sent failure h
  exact ⟨sent, [], (List.append_nil sent).symm, h, by simp, by simp, by simp⟩

theorem silent_andThen_silent : silent.andThen silent ≤ silent := by
  rintro sent failure (⟨-, h⟩ | ⟨_, _, rfl, rfl, rfl⟩)
  · exact h
  · rfl

theorem reading_andThen_reading : reading.andThen reading ≤ reading := by
  rintro sent failure (⟨-, h⟩ | ⟨first, second, rfl, hfirst, hsecond⟩)
  · exact h
  · exact List.forall_mem_append.mpr ⟨hfirst, hsecond⟩

theorem reading_andThen_orderly : reading.andThen orderly ≤ orderly := by
  rintro sent failure (⟨-, h⟩ | ⟨first, second, rfl, hfirst, hsecond⟩)
  · exact reading_le_orderly sent failure h
  · obtain ⟨reads, changes, rfl, hreads, hchanges⟩ := hsecond
    exact ⟨first ++ reads, changes, (List.append_assoc ..).symm,
      List.forall_mem_append.mpr ⟨hfirst, hreads⟩, hchanges⟩

theorem roomy_quiet : Roomy quiet := by
  have h : quiet.andThen quiet ≤ quiet := by
    rintro sent failure (⟨-, h⟩ | ⟨_, _, rfl, ⟨rfl, -⟩, ⟨rfl, h⟩⟩)
    · exact h
    · exact ⟨rfl, h⟩
  exact ⟨h, h⟩

theorem roomy_silent : Roomy silent where
  before := by
    rintro sent failure (⟨-, h, -⟩ | ⟨_, _, rfl, ⟨rfl, -⟩, h⟩)
    · exact h
    · exact h
  behind := by
    rintro sent failure (⟨-, h⟩ | ⟨_, _, rfl, rfl, ⟨rfl, -⟩⟩)
    · exact h
    · rfl

theorem roomy_unrefused : Roomy unrefused where
  before := by
    rintro sent failure (⟨-, -, h⟩ | ⟨_, _, -, -, h⟩)
    · exact h
    · exact h
  behind := by
    rintro sent failure (⟨-, h⟩ | ⟨_, _, -, -, -, h⟩)
    · exact h
    · exact h

theorem roomy_reading : Roomy reading where
  before := by
    rintro sent failure (⟨-, rfl, -⟩ | ⟨_, _, rfl, ⟨rfl, -⟩, h⟩)
    · simp [reading]
    · exact h
  behind := by
    rintro sent failure (⟨-, h⟩ | ⟨_, _, rfl, h, ⟨rfl, -⟩⟩)
    · exact h
    · rwa [List.append_nil]

/-- What neither sends nor refuses anything may stand even behind a change. -/
theorem roomy_orderly : Roomy orderly where
  before := by
    rintro sent failure (⟨-, rfl, -⟩ | ⟨_, _, rfl, ⟨rfl, -⟩, h⟩)
    · exact ⟨[], [], rfl, by simp, by simp, by simp, by simp⟩
    · exact h
  behind := by
    rintro sent failure (⟨-, h⟩ | ⟨first, second, rfl, hfirst, ⟨rfl, hfailure⟩⟩)
    · exact h
    · obtain ⟨reads, changes, rfl, hreads, hchanges, hlength, -⟩ := hfirst
      exact ⟨reads, changes, List.append_nil _, hreads, hchanges, hlength, fun _ => hfailure⟩

theorem orderly_single (r : Request) : orderly [r] none := by
  by_cases h : r.method = .get
  · exact ⟨[r], [], rfl, by simpa using h, by simp, by simp, by simp⟩
  · exact ⟨[], [r], rfl, by simp, by simpa using h, by simp, by simp⟩

end Conduct

/-- What is sent up to a link, and then from it on, is sent in sequence. -/
theorem Link.requests_append {l next left : Link} {first second : List Request}
    (hfirst : next.requests = l.requests ++ first ∧ next.script = l.script.drop first.length)
    (hsecond : left.requests = next.requests ++ second ∧
      left.script = next.script.drop second.length) :
    left.requests = l.requests ++ (first ++ second) ∧
      left.script = l.script.drop (first ++ second).length := by
  obtain ⟨hrequests, hscript⟩ := hfirst
  obtain ⟨hrequests', hscript'⟩ := hsecond
  constructor
  · rw [hrequests', hrequests, List.append_assoc]
  · rw [hscript', hscript, List.drop_drop, List.length_append]

namespace Exchange

variable {α β : Type} {x : Exchange α} {next : α → Exchange β} {p q r : Conduct}

/-- The failure that a computation ends with when it starts on a link. -/
def failure? (x : Exchange α) (l : Link) : Option Failure :=
  match x.answer l with
  | .ok _ => none
  | .error failure => some failure

/-- The conduct of a computation on every link. Each request that is sent takes one outcome. -/
def Keeps (x : Exchange α) (p : Conduct) : Prop := ∀ l, ∃ sent,
  (x.after l).requests = l.requests ++ sent ∧
    (x.after l).script = l.script.drop sent.length ∧ p sent (x.failure? l)

namespace Keeps

theorem imp (h : x.Keeps p) (hle : p ≤ q) : x.Keeps q := by
  intro l
  obtain ⟨sent, hrequests, hscript, hp⟩ := h l
  exact ⟨sent, hrequests, hscript, hle _ _ hp⟩

theorem pure (a : α) (h : p [] none) : (pure a : Exchange α).Keeps p := by
  intro l
  exact ⟨[], (List.append_nil _).symm, rfl, h⟩

theorem fail (failure : Failure) (h : p [] (some failure)) :
    (Exchange.fail failure : Exchange α).Keeps p := by
  intro l
  exact ⟨[], (List.append_nil _).symm, rfl, h⟩

theorem log (level : Log.Level) (name : String) (fields : List (String × Json))
    (h : p [] none) : (Exchange.log level name fields).Keeps p := by
  intro l
  exact ⟨[], (List.append_nil _).symm, rfl, h⟩

/-- In sequence, conducts follow one another. -/
theorem bind (hx : x.Keeps p) (hnext : ∀ a, (next a).Keeps q) (hle : p.andThen q ≤ r) :
    (x >>= next).Keeps r := by
  intro l
  obtain ⟨first, hrequests, hscript, hp⟩ := hx l
  unfold failure? at hp ⊢
  cases hanswer : x.answer l with
  | error failure =>
      obtain ⟨hbind, hafter⟩ := bind_of_error next hanswer
      rw [hanswer] at hp
      rw [hbind, hafter]
      exact ⟨first, hrequests, hscript, hle _ _ (.inl ⟨rfl, hp⟩)⟩
  | ok a =>
      obtain ⟨hbind, hafter⟩ := bind_of_ok next hanswer
      obtain ⟨second, hrequests', hscript', hq⟩ := hnext a (x.after l)
      obtain ⟨hsent, hleft⟩ := Link.requests_append ⟨hrequests, hscript⟩ ⟨hrequests', hscript'⟩
      rw [hanswer] at hp
      rw [hbind, hafter]
      exact ⟨first ++ second, hsent, hleft, hle _ _ (.inr ⟨first, second, rfl, hp, hq⟩)⟩

theorem after_quiet (hp : p.Roomy) (hx : x.Keeps .quiet) (hnext : ∀ a, (next a).Keeps p) :
    (x >>= next).Keeps p :=
  hx.bind hnext hp.before

theorem before_quiet (hp : p.Roomy) (hx : x.Keeps p) (hnext : ∀ a, (next a).Keeps .quiet) :
    (x >>= next).Keeps p :=
  hx.bind hnext hp.behind

/-- What is computed off the link may settle what is done on it. -/
theorem ofExcept_bind {e : Except Failure α} (hok : ∀ a, e = .ok a → (next a).Keeps p)
    (herror : ∀ failure, e = .error failure → p [] (some failure)) :
    ((MonadExcept.ofExcept e : Exchange α) >>= next).Keeps p := by
  cases e with
  | ok a => exact hok a rfl
  | error failure => exact fail failure (herror failure rfl)

/-- Failures may be told otherwise. -/
theorem adapt (tell : Failure → Failure) (hx : x.Keeps p)
    (hle : ∀ sent failure, p sent failure → q sent (failure.map tell)) :
    Keeps (ExceptT.adapt tell x) q := by
  intro l
  obtain ⟨sent, hrequests, hscript, hp⟩ := hx l
  obtain ⟨hanswer, hafter⟩ := adapt_eq (x := x) (l := l) tell
  have htold : failure? (ExceptT.adapt tell x) l = (x.failure? l).map tell := by
    unfold failure?
    rw [hanswer]
    cases x.answer l <;> rfl
  rw [hafter, htold]
  exact ⟨sent, hrequests, hscript, hle _ _ hp⟩

end Keeps

/-! ## Single steps -/

theorem quiet_pure {a : α} : (pure a : Exchange α).Keeps .quiet := .pure a ⟨rfl, nofun⟩

theorem quiet_log {level : Log.Level} {name : String} {fields : List (String × Json)} :
    (log level name fields).Keeps .quiet :=
  .log level name fields ⟨rfl, nofun⟩

theorem quiet_fail {failure : Failure} (h : ¬ failure.IsRefusal) :
    (fail failure : Exchange α).Keeps .quiet :=
  .fail failure ⟨rfl, by simpa using h⟩

theorem quiet_shaped {e : Except Fault α} : (shaped e).Keeps .quiet := by
  cases e with
  | ok a => exact quiet_pure
  | error fault => exact .fail (.fault fault) ⟨rfl, by simp [Failure.IsRefusal]⟩

theorem quiet_bind (hx : x.Keeps .quiet) (hnext : ∀ a, (next a).Keeps .quiet) :
    (x >>= next).Keeps .quiet :=
  .after_quiet Conduct.roomy_quiet hx hnext

/-- Looking at the link leaves it as it is. -/
theorem quiet_get : (get : Exchange Link).Keeps .quiet := by
  intro l
  exact ⟨[], (List.append_nil _).symm, rfl, rfl, nofun⟩

theorem silent_bind (hx : x.Keeps .silent) (hnext : ∀ a, (next a).Keeps .silent) :
    (x >>= next).Keeps .silent :=
  hx.bind hnext Conduct.silent_andThen_silent

theorem reading_bind (hx : x.Keeps .reading) (hnext : ∀ a, (next a).Keeps .reading) :
    (x >>= next).Keeps .reading :=
  hx.bind hnext Conduct.reading_andThen_reading

/-- Behind a failure of the engine there may be more reading. -/
theorem reading_recover {handler : EngineError → Exchange α} (hx : x.Keeps .reading)
    (hhandler : ∀ error, (handler error).Keeps .reading) : (recover x handler).Keeps .reading := by
  intro l
  obtain ⟨first, hrequests, hscript, hfirst⟩ := hx l
  rcases recover_cases x handler l with ⟨error, -, -, hafter⟩ | ⟨-, -, hafter⟩
  · obtain ⟨second, hrequests', hscript', hsecond⟩ := hhandler error (x.after l)
    obtain ⟨hsent, hleft⟩ := Link.requests_append ⟨hrequests, hscript⟩ ⟨hrequests', hscript'⟩
    rw [hafter]
    exact ⟨first ++ second, hsent, hleft, List.forall_mem_append.mpr ⟨hfirst, hsecond⟩⟩
  · rw [hafter]
    exact ⟨first, hrequests, hscript, hfirst⟩

/-- Whatever is read first, what follows stays in order. -/
theorem orderly_bind (hx : x.Keeps .reading) (hnext : ∀ a, (next a).Keeps .orderly) :
    (x >>= next).Keeps .orderly :=
  hx.bind hnext Conduct.reading_andThen_orderly

theorem silent_ofExcept {e : Except Failure α} :
    (MonadExcept.ofExcept e : Exchange α).Keeps .silent := by
  cases e with
  | ok a => exact .pure a rfl
  | error failure => exact .fail failure rfl

theorem reading_ofExcept {e : Except Failure α} :
    (MonadExcept.ofExcept e : Exchange α).Keeps .reading :=
  silent_ofExcept.imp Conduct.silent_le_reading

end Exchange

end Flowgate
