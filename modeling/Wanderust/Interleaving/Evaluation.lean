import Wanderust.Interleaving.Program

/-!
# Evaluation of programs

The big-step meaning of a program of one task.  Before each of its operations
the other tasks may change the state as a relation `env` allows; with equality
for `env` the program runs alone.
-/

namespace Interleaving

namespace Prog

variable {Op : Type} {Ret : Op -> Type} {Tid Choice State : Type}
variable {alpha beta : Type}

inductive Eval (exec : Exec Ret Tid Choice State) (env : State -> State -> Prop) (c : Tid) :
    Prog Ret alpha -> State -> alpha -> State -> Prop where
  | pure (a : alpha) (s : State) : Eval exec env c (.pure a) s a s
  | again {o : Op} {next : Ret o -> Prog Ret alpha} {ch : Choice}
      {s s1 s2 s' : State} {a : alpha} :
      env s s1 ->
      exec c ch o s1 = .again s2 ->
      Eval exec env c (.op o next) s2 a s' ->
      Eval exec env c (.op o next) s a s'
  | done {o : Op} {next : Ret o -> Prog Ret alpha} (ch : Choice) {r : Ret o}
      {s s1 s2 s' : State} {a : alpha} :
      env s s1 ->
      exec c ch o s1 = .done r s2 ->
      Eval exec env c (next r) s2 a s' ->
      Eval exec env c (.op o next) s a s'

variable {exec : Exec Ret Tid Choice State} {env : State -> State -> Prop} {c : Tid}

theorem Eval.mono {env' : State -> State -> Prop} {p : Prog Ret alpha} {s s' : State} {a : alpha}
    (h : Eval exec env c p s a s') (henv : forall s1 s2, env s1 s2 -> env' s1 s2) :
    Eval exec env' c p s a s' := by
  induction h with
  | pure a s => exact Eval.pure a s
  | again hinterference hagain _ ih => exact Eval.again (henv _ _ hinterference) hagain ih
  | done ch hinterference hdone _ ih => exact Eval.done ch (henv _ _ hinterference) hdone ih

theorem eval_pure_iff {a b : alpha} {s s' : State} :
    Eval exec env c (.pure a : Prog Ret alpha) s b s' <-> b = a ∧ s' = s := by
  constructor
  · intro h
    cases h with
    | pure => exact ⟨rfl, rfl⟩
  · intro h
    rcases h with ⟨rfl, rfl⟩
    exact Eval.pure b s'

theorem eval_op_iff {o : Op} {next : Ret o -> Prog Ret alpha} {s s' : State} {a : alpha}
    (hnever : forall ch s1 s2, exec c ch o s1 ≠ .again s2) :
    Eval exec env c (.op o next) s a s' <->
      exists ch r s1 s2, env s s1 ∧ exec c ch o s1 = .done r s2 ∧
        Eval exec env c (next r) s2 a s' := by
  constructor
  · intro h
    cases h with
    | again _ hagain _ => exact absurd hagain (hnever _ _ _)
    | done ch henv hdone hrest => exact ⟨ch, _, _, _, henv, hdone, hrest⟩
  · intro h
    rcases h with ⟨ch, r, s1, s2, henv, hdone, hrest⟩
    exact Eval.done ch henv hdone hrest

theorem eval_bind {p : Prog Ret alpha} {f : alpha -> Prog Ret beta} {s s'' : State} {b : beta} :
    Eval exec env c (p.bind f) s b s'' <->
      exists a s', Eval exec env c p s a s' ∧ Eval exec env c (f a) s' b s'' := by
  constructor
  · intro h
    generalize hq : p.bind f = q at h
    induction h generalizing p with
    | pure b s =>
        cases p with
        | pure a =>
            rw [pure_bind] at hq
            exact ⟨a, s, Eval.pure a s, by rw [hq]; exact Eval.pure b s⟩
        | op o next => cases hq
    | again henv hagain hrest ih =>
        cases p with
        | pure a =>
            rw [pure_bind] at hq
            exact ⟨a, _, Eval.pure a _, by rw [hq]; exact Eval.again henv hagain hrest⟩
        | op o' next' =>
            cases hq
            obtain ⟨a, s', hp, hf⟩ := ih (op_bind _ next' f)
            exact ⟨a, s', Eval.again henv hagain hp, hf⟩
    | done ch henv hdone hrest ih =>
        cases p with
        | pure a =>
            rw [pure_bind] at hq
            exact ⟨a, _, Eval.pure a _, by rw [hq]; exact Eval.done ch henv hdone hrest⟩
        | op o' next' =>
            cases hq
            obtain ⟨a, s', hp, hf⟩ := ih rfl
            exact ⟨a, s', Eval.done ch henv hdone hp, hf⟩
  · intro h
    rcases h with ⟨a, s', hp, hf⟩
    induction hp with
    | pure a s => exact hf
    | again henv hagain _ ih => exact Eval.again henv hagain (ih hf)
    | done ch henv hdone _ ih => exact Eval.done ch henv hdone (ih hf)

section

variable {epsilon epsilon' : Type} {s s'' : State}

theorem eval_bindOk_ok {p : Prog Ret (Except epsilon alpha)}
    {f : alpha -> Prog Ret (Except epsilon beta)} {b : beta} :
    Eval exec env c (bindOk p f) s (.ok b) s'' <->
      exists a s', Eval exec env c p s (.ok a) s' ∧ Eval exec env c (f a) s' (.ok b) s'' := by
  rw [bindOk, eval_bind]
  constructor
  · intro h
    rcases h with ⟨r, s', hp, hf⟩
    cases r with
    | error e =>
        rw [eval_pure_iff] at hf
        cases hf.1
    | ok a => exact ⟨a, s', hp, hf⟩
  · intro h
    rcases h with ⟨a, s', hp, hf⟩
    exact ⟨.ok a, s', hp, hf⟩

theorem eval_mapError_ok {g : epsilon -> epsilon'} {p : Prog Ret (Except epsilon alpha)}
    {a : alpha} :
    Eval exec env c (p.mapError g) s (.ok a) s'' <-> Eval exec env c p s (.ok a) s'' := by
  rw [mapError, eval_bind]
  constructor
  · intro h
    rcases h with ⟨r, s', hp, hr⟩
    cases r with
    | error e =>
        rw [eval_pure_iff] at hr
        cases hr.1
    | ok a' =>
        rw [eval_pure_iff] at hr
        rcases hr with ⟨ha, rfl⟩
        cases ha
        exact hp
  · intro hp
    exact ⟨.ok a, s'', hp, Eval.pure _ _⟩

theorem eval_bindOk_error {p : Prog Ret (Except epsilon alpha)}
    {f : alpha -> Prog Ret (Except epsilon beta)} {e : epsilon} :
    Eval exec env c (bindOk p f) s (.error e) s'' <->
      Eval exec env c p s (.error e) s'' ∨
        exists a s', Eval exec env c p s (.ok a) s' ∧ Eval exec env c (f a) s' (.error e) s'' := by
  rw [bindOk, eval_bind]
  constructor
  · intro h
    rcases h with ⟨r, s', hp, hf⟩
    cases r with
    | error e' =>
        rw [eval_pure_iff] at hf
        rcases hf with ⟨he, rfl⟩
        cases he
        exact Or.inl hp
    | ok a => exact Or.inr ⟨a, s', hp, hf⟩
  · intro h
    rcases h with hp | ⟨a, s', hp, hf⟩
    · exact ⟨.error e, s'', hp, Eval.pure _ _⟩
    · exact ⟨.ok a, s', hp, hf⟩

theorem eval_mapError_error {g : epsilon -> epsilon'} {p : Prog Ret (Except epsilon alpha)}
    {e' : epsilon'} :
    Eval exec env c (p.mapError g) s (.error e') s'' <->
      exists e, e' = g e ∧ Eval exec env c p s (.error e) s'' := by
  rw [mapError, eval_bind]
  constructor
  · intro h
    rcases h with ⟨r, s', hp, hr⟩
    cases r with
    | error e =>
        rw [eval_pure_iff] at hr
        rcases hr with ⟨he, rfl⟩
        cases he
        exact ⟨e, rfl, hp⟩
    | ok a =>
        rw [eval_pure_iff] at hr
        cases hr.1
  · intro h
    rcases h with ⟨e, rfl, hp⟩
    exact ⟨.error e, s'', hp, Eval.pure _ _⟩

end

end Prog

end Interleaving
