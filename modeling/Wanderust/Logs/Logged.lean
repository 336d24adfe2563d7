import Mathlib.Logic.Basic

/-!
# Computations with a log

A computation that may fail, with what it notes on the way: the notes are kept
also where it fails.  The notes can be read by a step relation, and the module
has a rule for each way to build a computation, and what its readers know.
-/

namespace Logs

structure Logged (E epsilon alpha : Type) where
  log : List E
  result : Except epsilon alpha

variable {E V epsilon alpha beta : Type}

namespace Logged

def pure (a : alpha) : Logged E epsilon alpha := { log := [], result := .ok a }

def bind (x : Logged E epsilon alpha) (f : alpha -> Logged E epsilon beta) :
    Logged E epsilon beta :=
  match x.result with
  | .ok a => { log := x.log ++ (f a).log, result := (f a).result }
  | .error e => { log := x.log, result := .error e }

instance : Monad (Logged E epsilon) where
  pure := Logged.pure
  bind := Logged.bind

def silent (x : Except epsilon alpha) : Logged E epsilon alpha := { log := [], result := x }

def note (e : E) : Logged E epsilon Unit := { log := [e], result := .ok () }

theorem bind_ok {x : Logged E epsilon alpha} {a : alpha} (hx : x.result = .ok a)
    (f : alpha -> Logged E epsilon beta) :
    x >>= f = { log := x.log ++ (f a).log, result := (f a).result } := by
  show x.bind f = _
  rw [Logged.bind, hx]

theorem bind_error {x : Logged E epsilon alpha} {e : epsilon} (hx : x.result = .error e)
    (f : alpha -> Logged E epsilon beta) :
    x >>= f = { log := x.log, result := .error e } := by
  show x.bind f = _
  rw [Logged.bind, hx]

/-- Without its log a sequence is the sequence without logs. -/
theorem result_bind (x : Logged E epsilon alpha) (f : alpha -> Logged E epsilon beta) :
    (x >>= f).result = x.result >>= fun a => (f a).result := by
  cases hx : x.result with
  | ok a =>
      rw [bind_ok hx]
      rfl
  | error e =>
      rw [bind_error hx]
      rfl

theorem silent_bind_ok {x : Except epsilon alpha} {a : alpha} (hx : x = .ok a)
    (f : alpha -> Logged E epsilon beta) : silent x >>= f = f a := by
  rw [bind_ok (x := silent x) hx]
  rfl

theorem log_bind_silent (x : Logged E epsilon alpha) (f : alpha -> Except epsilon beta) :
    (x >>= fun a => silent (f a)).log = x.log := by
  cases hx : x.result with
  | ok a =>
      rw [bind_ok hx]
      exact List.append_nil x.log
  | error e => rw [bind_error hx]

end Logged

/-! # Reading a log -/

/-- The notes lead from `v` to `v'`. -/
inductive Reads (step : V -> E -> V -> Prop) : V -> List E -> V -> Prop where
  | nil (v : V) : Reads step v [] v
  | cons {v v' v'' : V} {e : E} {rest : List E} (hstep : step v e v')
      (hrest : Reads step v' rest v'') : Reads step v (e :: rest) v''

theorem Reads.append {step : V -> E -> V -> Prop} {v v' v'' : V} {log log' : List E}
    (h : Reads step v log v') (h' : Reads step v' log' v'') : Reads step v (log ++ log') v'' := by
  induction h with
  | nil => exact h'
  | cons hstep _ ih => exact Reads.cons hstep (ih h')

namespace Logged

/-- Its notes can be read from `v` on, and lead to where `post` holds of the result. -/
def Readable (step : V -> E -> V -> Prop) (x : Logged E epsilon alpha) (v : V)
    (post : alpha -> V -> Prop) : Prop :=
  exists v', Reads step v x.log v' ∧ forall a, x.result = .ok a -> post a v'

variable {step : V -> E -> V -> Prop} {v : V} {post : alpha -> V -> Prop}

theorem readable_pure {a : alpha} (h : post a v) :
    (Pure.pure a : Logged E epsilon alpha).Readable step v post := by
  refine ⟨v, Reads.nil v, ?_⟩
  intro a' ha
  cases ha
  exact h

theorem readable_silent {x : Except epsilon alpha} (h : forall a, x = .ok a -> post a v) :
    (silent x : Logged E epsilon alpha).Readable step v post :=
  ⟨v, Reads.nil v, h⟩

theorem readable_bind {x : Logged E epsilon alpha} {f : alpha -> Logged E epsilon beta}
    {mid : alpha -> V -> Prop} {post : beta -> V -> Prop} (hx : x.Readable step v mid)
    (hf : forall a v', mid a v' -> (f a).Readable step v' post) :
    (x >>= f).Readable step v post := by
  rcases hx with ⟨v1, hreads, hresult⟩
  cases hcase : x.result with
  | ok a =>
      rcases hf a v1 (hresult a hcase) with ⟨v2, hrest, hpost⟩
      rw [bind_ok hcase]
      exact ⟨v2, hreads.append hrest, hpost⟩
  | error e =>
      rw [bind_error hcase]
      refine ⟨v1, hreads, ?_⟩
      intro b hb
      cases hb

theorem readable_silent_bind {x : Except epsilon alpha} {f : alpha -> Logged E epsilon beta}
    {post : beta -> V -> Prop} (hf : forall a, x = .ok a -> (f a).Readable step v post) :
    (silent x >>= f).Readable step v post := by
  have hx : (silent x : Logged E epsilon alpha).Readable step v fun a v' => x = .ok a ∧ v' = v :=
    readable_silent fun a ha => ⟨ha, rfl⟩
  apply readable_bind hx
  intro a v' h
  rw [h.2]
  exact hf a h.1

theorem readable_note_bind {e : E} {v' : V} {f : Unit -> Logged E epsilon beta}
    {post : beta -> V -> Prop} (hstep : step v e v') (hf : (f ()).Readable step v' post) :
    (note e >>= f).Readable step v post := by
  have hnote : (note e : Logged E epsilon Unit).Readable step v fun _ v1 => v1 = v' :=
    ⟨v', Reads.cons hstep (Reads.nil v'), fun _ _ => rfl⟩
  apply readable_bind hnote
  intro _ v1 h
  rw [h]
  exact hf

end Logged

end Logs
