import Mathlib.Logic.Basic

/-!
# Programs over atomic operations

A program is a tree of atomic operations.  Between two operations control may
pass to another task, so the tree fixes exactly where interference can occur.
The module gives the monad structure and the effect of one step.
-/

namespace Interleaving

/--
A program that returns a value of type `alpha`.  The type `Ret o` is the type of
the answers of the operation `o`.
-/
inductive Prog {Op : Type} (Ret : Op -> Type) (alpha : Type) : Type where
  | pure (a : alpha) : Prog Ret alpha
  | op (o : Op) (next : Ret o -> Prog Ret alpha) : Prog Ret alpha

variable {Op : Type} {Ret : Op -> Type} {alpha beta gamma : Type}

namespace Prog

def bind : Prog Ret alpha -> (alpha -> Prog Ret beta) -> Prog Ret beta
  | .pure a, f => f a
  | .op o next, f => .op o (fun r => (next r).bind f)

instance : Monad (Prog Ret) where
  pure := Prog.pure
  bind := Prog.bind

def perform (o : Op) : Prog Ret (Ret o) :=
  .op o .pure

@[simp] theorem pure_def (a : alpha) :
    (Pure.pure a : Prog Ret alpha) = .pure a := rfl

@[simp] theorem bind_def (p : Prog Ret alpha) (f : alpha -> Prog Ret beta) :
    p >>= f = p.bind f := rfl

@[simp] theorem pure_bind (a : alpha) (f : alpha -> Prog Ret beta) :
    (Prog.pure a : Prog Ret alpha).bind f = f a := rfl

@[simp] theorem op_bind (o : Op) (next : Ret o -> Prog Ret alpha)
    (f : alpha -> Prog Ret beta) :
    (Prog.op o next).bind f = .op o (fun r => (next r).bind f) := rfl

@[simp] theorem perform_bind (o : Op) (f : Ret o -> Prog Ret beta) :
    (perform o).bind f = .op o f := rfl

/-- Sequencing of programs that may fail: the first error ends the program. -/
def bindOk {epsilon : Type} (p : Prog Ret (Except epsilon alpha))
    (f : alpha -> Prog Ret (Except epsilon beta)) : Prog Ret (Except epsilon beta) :=
  p.bind fun r =>
    match r with
    | .error e => .pure (.error e)
    | .ok a => f a

def mapError {epsilon epsilon' : Type} (f : epsilon -> epsilon')
    (p : Prog Ret (Except epsilon alpha)) : Prog Ret (Except epsilon' alpha) :=
  p.bind fun r =>
    match r with
    | .error e => .pure (.error (f e))
    | .ok a => .pure (.ok a)

end Prog

/--
What an operation does to the shared state: it may be unable to proceed, it may
use its turn without finishing (and is tried again), or it may finish with an
answer.
-/
inductive Outcome (rho State : Type) where
  | blocked
  | again (s : State)
  | done (r : rho) (s : State)

/--
The meaning of the operations.  A step is taken by a task `Tid`, and everything
that the operation does not determine is fixed by a choice.
-/
abbrev Exec {Op : Type} (Ret : Op -> Type) (Tid Choice State : Type) :=
  Tid -> Choice -> (o : Op) -> State -> Outcome (Ret o) State

variable {Tid Choice State : Type}

namespace Prog

def step (exec : Exec Ret Tid Choice State) (c : Tid) (ch : Choice) :
    Prog Ret alpha -> State -> Option (Prog Ret alpha × State)
  | .pure _, _ => none
  | .op o next, s =>
      match exec c ch o s with
      | .blocked => none
      | .again s' => some (.op o next, s')
      | .done r s' => some (next r, s')

theorem step_eq_some {exec : Exec Ret Tid Choice State} {c : Tid} {ch : Choice}
    {p p' : Prog Ret alpha} {s s' : State} :
    p.step exec c ch s = some (p', s') <->
      exists o next, p = .op o next ∧
        ((exec c ch o s = .again s' ∧ p' = .op o next) ∨
          exists r, exec c ch o s = .done r s' ∧ p' = next r) := by
  constructor
  · intro h
    cases p with
    | pure a => cases h
    | op o next =>
        refine ⟨o, next, rfl, ?_⟩
        simp only [step] at h
        cases hexec : exec c ch o s with
        | blocked =>
            rw [hexec] at h
            cases h
        | again s1 =>
            rw [hexec] at h
            cases h
            exact Or.inl ⟨rfl, rfl⟩
        | done r s1 =>
            rw [hexec] at h
            cases h
            exact Or.inr ⟨r, rfl, rfl⟩
  · intro h
    rcases h with ⟨o, next, rfl, ⟨hexec, rfl⟩ | ⟨r, hexec, rfl⟩⟩
    · rw [step, hexec]
    · rw [step, hexec]

end Prog

end Interleaving
