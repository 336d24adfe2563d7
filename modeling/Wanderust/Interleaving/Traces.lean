import Wanderust.Interleaving.Program

/-!
# Traces of evaluations

An evaluation together with what the program itself has done: its operations in
the order in which it performed them, each with the states around it.  What the
other tasks do between two operations is not part of the trace.
-/

namespace Interleaving

structure Performed (Op Choice State : Type) where
  op : Op
  choice : Choice
  before : State
  after : State

namespace Prog

variable {Op : Type} {Ret : Op -> Type} {Tid Choice State : Type}
variable {alpha beta : Type}

inductive Traced (exec : Exec Ret Tid Choice State) (env : State -> State -> Prop) (c : Tid) :
    Prog Ret alpha -> State -> List (Performed Op Choice State) -> alpha -> State -> Prop where
  | pure (a : alpha) (s : State) : Traced exec env c (.pure a) s [] a s
  | again {o : Op} {next : Ret o -> Prog Ret alpha} {ch : Choice} {s s1 s2 s' : State}
      {trace : List (Performed Op Choice State)} {a : alpha} :
      env s s1 ->
      exec c ch o s1 = .again s2 ->
      Traced exec env c (.op o next) s2 trace a s' ->
      Traced exec env c (.op o next) s
        ({ op := o, choice := ch, before := s1, after := s2 } :: trace) a s'
  | done {o : Op} {next : Ret o -> Prog Ret alpha} (ch : Choice) {r : Ret o}
      {s s1 s2 s' : State} {trace : List (Performed Op Choice State)} {a : alpha} :
      env s s1 ->
      exec c ch o s1 = .done r s2 ->
      Traced exec env c (next r) s2 trace a s' ->
      Traced exec env c (.op o next) s
        ({ op := o, choice := ch, before := s1, after := s2 } :: trace) a s'

variable {exec : Exec Ret Tid Choice State} {env : State -> State -> Prop} {c : Tid}
variable {s s' s'' : State} {trace : List (Performed Op Choice State)}

/-! # Executed operations -/

def Performed.Executed (exec : Exec Ret Tid Choice State) (c : Tid)
    (x : Performed Op Choice State) : Prop :=
  exec c x.choice x.op x.before = .again x.after ∨
    exists r, exec c x.choice x.op x.before = .done r x.after

theorem Traced.executed {p : Prog Ret alpha} {a : alpha} (h : Traced exec env c p s trace a s') :
    forall x, x ∈ trace -> Performed.Executed exec c x := by
  induction h with
  | pure a s =>
      intro x hx
      cases hx
  | again _ hagain _ ih =>
      intro x hx
      rcases List.mem_cons.mp hx with rfl | hx
      · exact Or.inl hagain
      · exact ih x hx
  | done ch _ hdone _ ih =>
      intro x hx
      rcases List.mem_cons.mp hx with rfl | hx
      · exact Or.inr ⟨_, hdone⟩
      · exact ih x hx

/-! # Rules -/

theorem traced_pure_iff {a b : alpha} :
    Traced exec env c (.pure a : Prog Ret alpha) s trace b s' <->
      trace = [] ∧ b = a ∧ s' = s := by
  constructor
  · intro h
    cases h with
    | pure => exact ⟨rfl, rfl, rfl⟩
  · intro heq
    rcases heq with ⟨rfl, rfl, rfl⟩
    exact Traced.pure b s'

theorem traced_op_iff {o : Op} {next : Ret o -> Prog Ret alpha} {a : alpha}
    (hnever : forall ch s1 s2, exec c ch o s1 ≠ .again s2) :
    Traced exec env c (.op o next) s trace a s' <->
      exists ch r s1 s2 rest, env s s1 ∧ exec c ch o s1 = .done r s2 ∧
        trace = { op := o, choice := ch, before := s1, after := s2 } :: rest ∧
        Traced exec env c (next r) s2 rest a s' := by
  constructor
  · intro h
    cases h with
    | again _ hagain _ => exact absurd hagain (hnever _ _ _)
    | done ch henv hdone hrest => exact ⟨ch, _, _, _, _, henv, hdone, rfl, hrest⟩
  · intro hstep
    rcases hstep with ⟨ch, r, s1, s2, rest, henv, hdone, rfl, hrest⟩
    exact Traced.done ch henv hdone hrest

theorem Traced.perform {o : Op} {r : Ret o}
    (h : Traced exec env c (Prog.perform o : Prog Ret (Ret o)) s trace r s') :
    forall x, x ∈ trace -> x.op = o := by
  unfold Prog.perform at h
  generalize hp : (Prog.op o .pure : Prog Ret (Ret o)) = p at h
  induction h with
  | pure a s => cases hp
  | again _ _ _ ih =>
      intro x hx
      rcases List.mem_cons.mp hx with rfl | hx
      · cases hp
        rfl
      · exact ih hp x hx
  | done ch _ _ hrest ih =>
      cases hp
      rcases traced_pure_iff.mp hrest with ⟨rfl, _, _⟩
      intro x hx
      rw [List.mem_singleton.mp hx]

theorem traced_bind {p : Prog Ret alpha} {f : alpha -> Prog Ret beta} {b : beta} :
    Traced exec env c (p.bind f) s trace b s'' <->
      exists a s' first rest, trace = first ++ rest ∧ Traced exec env c p s first a s' ∧
        Traced exec env c (f a) s' rest b s'' := by
  constructor
  · intro h
    generalize hq : p.bind f = q at h
    induction h generalizing p with
    | pure b s =>
        cases p with
        | pure a =>
            rw [pure_bind] at hq
            exact ⟨a, s, [], [], rfl, Traced.pure a s, by rw [hq]; exact Traced.pure b s⟩
        | op o next => cases hq
    | again henv hagain hrest ih =>
        cases p with
        | pure a =>
            rw [pure_bind] at hq
            exact ⟨a, _, [], _, rfl, Traced.pure a _, by
              rw [hq]
              exact Traced.again henv hagain hrest⟩
        | op o' next' =>
            cases hq
            rcases ih (op_bind _ next' f) with ⟨a, s', first, rest, rfl, hp, hf⟩
            exact ⟨a, s', _ :: first, rest, rfl, Traced.again henv hagain hp, hf⟩
    | done ch henv hdone hrest ih =>
        cases p with
        | pure a =>
            rw [pure_bind] at hq
            exact ⟨a, _, [], _, rfl, Traced.pure a _, by
              rw [hq]
              exact Traced.done ch henv hdone hrest⟩
        | op o' next' =>
            cases hq
            rcases ih rfl with ⟨a, s', first, rest, rfl, hp, hf⟩
            exact ⟨a, s', _ :: first, rest, rfl, Traced.done ch henv hdone hp, hf⟩
  · intro hparts
    rcases hparts with ⟨a, s', first, rest, rfl, hp, hf⟩
    induction hp with
    | pure a s => exact hf
    | again henv hagain _ ih => exact Traced.again henv hagain (ih hf)
    | done ch henv hdone _ ih => exact Traced.done ch henv hdone (ih hf)

section

variable {epsilon epsilon' : Type}

theorem traced_bindOk {p : Prog Ret (Except epsilon alpha)}
    {f : alpha -> Prog Ret (Except epsilon beta)} {r : Except epsilon beta} :
    Traced exec env c (bindOk p f) s trace r s'' <->
      (exists e, r = .error e ∧ Traced exec env c p s trace (.error e) s'') ∨
        exists a s' first rest, trace = first ++ rest ∧ Traced exec env c p s first (.ok a) s' ∧
          Traced exec env c (f a) s' rest r s'' := by
  rw [bindOk, traced_bind]
  constructor
  · intro h
    rcases h with ⟨r', s', first, rest, rfl, hp, hf⟩
    cases r' with
    | error e =>
        rcases traced_pure_iff.mp hf with ⟨rfl, rfl, rfl⟩
        rw [List.append_nil]
        exact Or.inl ⟨e, rfl, hp⟩
    | ok a => exact Or.inr ⟨a, s', first, rest, rfl, hp, hf⟩
  · intro h
    rcases h with ⟨e, rfl, hp⟩ | ⟨a, s', first, rest, rfl, hp, hf⟩
    · exact ⟨.error e, s'', trace, [], (List.append_nil _).symm, hp, Traced.pure _ _⟩
    · exact ⟨.ok a, s', first, rest, rfl, hp, hf⟩

theorem traced_mapError {g : epsilon -> epsilon'} {p : Prog Ret (Except epsilon alpha)}
    {r : Except epsilon' alpha} :
    Traced exec env c (p.mapError g) s trace r s'' <->
      exists r', r = r'.mapError g ∧ Traced exec env c p s trace r' s'' := by
  rw [mapError, traced_bind]
  constructor
  · intro h
    rcases h with ⟨r', s', first, rest, rfl, hp, hf⟩
    cases r' with
    | error e =>
        rcases traced_pure_iff.mp hf with ⟨rfl, rfl, rfl⟩
        rw [List.append_nil]
        exact ⟨.error e, rfl, hp⟩
    | ok a =>
        rcases traced_pure_iff.mp hf with ⟨rfl, rfl, rfl⟩
        rw [List.append_nil]
        exact ⟨.ok a, rfl, hp⟩
  · intro h
    rcases h with ⟨r', rfl, hp⟩
    cases r' with
    | error e => exact ⟨.error e, s'', trace, [], (List.append_nil _).symm, hp, Traced.pure _ _⟩
    | ok a => exact ⟨.ok a, s'', trace, [], (List.append_nil _).symm, hp, Traced.pure _ _⟩

end

end Prog

end Interleaving
