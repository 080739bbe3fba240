import Flowgate.Proofs.Exchange

/-! # Two runs side by side

Two computations agree when, from links that stand in a relation, they give the same answer
and leave links that stand in it again. The agreement of computations is put together from
that of their steps, whatever becomes of the requests.
-/

namespace Flowgate.Exchange

/-- From links that are related, the same answer and links that are related again. -/
def Agree {α : Type} (related : Link → Link → Prop) (x y : Exchange α) : Prop :=
  ∀ l m, related l m → x.answer l = y.answer m ∧ related (x.after l) (y.after m)

namespace Agree

variable {α β : Type} {related : Link → Link → Prop} {x y : Exchange α}
  {next other : α → Exchange β}

theorem pure (a : α) : Agree related (pure a) (pure a) := fun _ _ h => ⟨rfl, h⟩

theorem fail (failure : Failure) :
    Agree related (Exchange.fail failure : Exchange α) (Exchange.fail failure) :=
  fun _ _ h => ⟨rfl, h⟩

theorem fail_bind {failure : Failure} :
    Agree related (Exchange.fail failure >>= next) (Exchange.fail failure >>= other) :=
  fail failure

theorem shaped (e : Except Fault α) : Agree related (Exchange.shaped e) (Exchange.shaped e) := by
  cases e with
  | ok a => exact pure a
  | error fault => exact fail (.fault fault)

theorem ofExcept (e : Except Failure α) :
    Agree related (MonadExcept.ofExcept e : Exchange α) (MonadExcept.ofExcept e) := by
  cases e with
  | ok a => exact pure a
  | error failure => exact fail failure

/-- Where the first steps agree, the second steps start from one value. -/
theorem bind (hx : Agree related x y) (hnext : ∀ a, Agree related (next a) (other a)) :
    Agree related (x >>= next) (y >>= other) := by
  intro l m hrelated
  obtain ⟨hanswer, hafter⟩ := hx l m hrelated
  cases hfirst : x.answer l with
  | ok a =>
      obtain ⟨hbind, hbindAfter⟩ := bind_of_ok next hfirst
      obtain ⟨hother, hotherAfter⟩ := bind_of_ok other (hanswer.symm.trans hfirst)
      rw [hbind, hbindAfter, hother, hotherAfter]
      exact hnext a _ _ hafter
  | error failure =>
      obtain ⟨hbind, hbindAfter⟩ := bind_of_error next hfirst
      obtain ⟨hother, hotherAfter⟩ := bind_of_error other (hanswer.symm.trans hfirst)
      rw [hbind, hbindAfter, hother, hotherAfter]
      exact ⟨rfl, hafter⟩

/-- What is computed off the link may differ, where the same is done about it. -/
theorem ofExcept_bind {γ : Type} {e : Except Failure α} {f : α → γ} {other : γ → Exchange β}
    (hnext : ∀ a, e = .ok a → Agree related (next a) (other (f a))) :
    Agree related (MonadExcept.ofExcept e >>= next) (MonadExcept.ofExcept (e.map f) >>= other) := by
  cases e with
  | ok a => exact hnext a rfl
  | error failure => exact fail failure

/-- What is done next may look at the link, where related links lead to the same. -/
theorem get_bind {next other : Link → Exchange β}
    (hnext : ∀ l m, related l m → Agree related (next l) (other m)) :
    Agree related ((get : Exchange Link) >>= next) ((get : Exchange Link) >>= other) :=
  fun l m h => hnext l m h l m h

end Agree

end Flowgate.Exchange
