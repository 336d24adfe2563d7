import Mathlib.Logic.Function.Basic
import Wanderust.Interleaving.RelyGuarantee
import Wanderust.Interleaving.Runs

/-!
# Pools of tasks

A family of programs, each run by its own task.  A task is started at most once
and keeps its result.  When every program has a triple, the assertions of the
triples hold for all the tasks of every pool that can be reached.
-/

namespace Interleaving

variable {Op : Type} {Ret : Op -> Type} {Tid Choice State alpha : Type}

inductive PoolTask {Op : Type} (Ret : Op -> Type) (alpha : Type) where
  | waiting
  | running (p : Prog Ret alpha)
  | returned (a : alpha)

structure Pool {Op : Type} (Ret : Op -> Type) (Tid State alpha : Type) where
  state : State
  tasks : Tid -> PoolTask Ret alpha

inductive PoolLabel (Tid Choice : Type) where
  | start (i : Tid)
  | step (i : Tid) (ch : Choice)

def PoolTask.ofProg : Prog Ret alpha -> PoolTask Ret alpha
  | .pure a => .returned a
  | .op o next => .running (.op o next)

def Pool.initial (s : State) : Pool Ret Tid State alpha :=
  { state := s, tasks := fun _ => .waiting }

def Pool.setTask [DecidableEq Tid] (pool : Pool Ret Tid State alpha) (i : Tid) (s : State)
    (t : PoolTask Ret alpha) : Pool Ret Tid State alpha :=
  { state := s, tasks := Function.update pool.tasks i t }

def Pool.next [DecidableEq Tid] (exec : Exec Ret Tid Choice State)
    (body : Tid -> Prog Ret alpha) (pool : Pool Ret Tid State alpha) :
    PoolLabel Tid Choice -> Option (Pool Ret Tid State alpha)
  | .start i =>
      match pool.tasks i with
      | .waiting => some (pool.setTask i pool.state (.ofProg (body i)))
      | _ => none
  | .step i ch =>
      match pool.tasks i with
      | .running p =>
          match p.step exec i ch pool.state with
          | some (p', s') => some (pool.setTask i s' (.ofProg p'))
          | none => none
      | _ => none

theorem Pool.start_of_next [DecidableEq Tid] {exec : Exec Ret Tid Choice State}
    {body : Tid -> Prog Ret alpha} {pool pool' : Pool Ret Tid State alpha} {i : Tid}
    (hnext : pool.next exec body (.start i) = some pool') :
    pool.tasks i = .waiting ∧ pool' = pool.setTask i pool.state (.ofProg (body i)) := by
  simp only [Pool.next] at hnext
  split at hnext
  case h_1 htask =>
    cases hnext
    exact ⟨htask, rfl⟩
  case h_2 => cases hnext

theorem Pool.step_of_next [DecidableEq Tid] {exec : Exec Ret Tid Choice State}
    {body : Tid -> Prog Ret alpha} {pool pool' : Pool Ret Tid State alpha} {i : Tid} {ch : Choice}
    (hnext : pool.next exec body (.step i ch) = some pool') :
    exists p p' s, pool.tasks i = .running p ∧ p.step exec i ch pool.state = some (p', s) ∧
      pool' = pool.setTask i s (.ofProg p') := by
  simp only [Pool.next] at hnext
  split at hnext
  case h_1 p htask =>
    split at hnext
    case h_1 p' s hstep =>
      cases hnext
      exact ⟨p, p', s, htask, hstep, rfl⟩
    case h_2 => cases hnext
  case h_2 => cases hnext

def Pool.Allowed (allowed : Tid -> Choice -> Op -> State -> Prop)
    (pool : Pool Ret Tid State alpha) (l : PoolLabel Tid Choice) : Prop :=
  forall i ch, l = .step i ch -> forall o next, pool.tasks i = .running (.op o next) ->
    allowed i ch o pool.state

/-! # Verified pools -/

/-- What is asserted of a task, before it starts, while it runs, and of its result. -/
structure TaskSpec (Tid State alpha : Type) where
  guar : Tid -> State -> State -> Prop
  before : Tid -> State -> Prop
  post : Tid -> alpha -> State -> Prop

namespace Setting

variable (S : Setting Ret Tid Choice State) (spec : TaskSpec Tid State alpha)

/-- Every program meets its specification, and the specification tolerates the others. -/
structure Verified (body : Tid -> Prog Ret alpha) : Prop where
  triple : forall i, S.Triple i (spec.guar i) (spec.before i) (body i) (spec.post i)
  stable_before : forall i, S.Stable i (spec.before i)
  stable_post : forall i a, S.Stable i (spec.post i a)

def TaskHolds (i : Tid) (s : State) : PoolTask Ret alpha -> Prop
  | .waiting => spec.before i s
  | .running p => S.Safe i (spec.guar i) p (spec.post i) s
  | .returned a => spec.post i a s

structure PoolInv (pool : Pool Ret Tid State alpha) : Prop where
  inv : S.inv pool.state
  tasks : forall i, S.TaskHolds spec i pool.state (pool.tasks i)

variable {S spec}

theorem taskHolds_env {body : Tid -> Prog Ret alpha} (hverified : S.Verified spec body)
    {i : Tid} {s s' : State} {t : PoolTask Ret alpha} (h : S.TaskHolds spec i s t)
    (hinv : S.inv s') (hrely : S.rely i s s') : S.TaskHolds spec i s' t := by
  cases t with
  | waiting => exact hverified.stable_before i s s' h hinv hrely
  | running p => exact safe_env h (hverified.stable_post i) hinv hrely
  | returned a => exact hverified.stable_post i a s s' h hinv hrely

theorem taskHolds_ofProg {i : Tid} {s : State} {p : Prog Ret alpha}
    (h : S.Safe i (spec.guar i) p (spec.post i) s) : S.TaskHolds spec i s (.ofProg p) := by
  cases p with
  | pure a => exact h
  | op o next => exact h

variable [DecidableEq Tid]

theorem poolInv_setTask {body : Tid -> Prog Ret alpha} (hverified : S.Verified spec body)
    {pool : Pool Ret Tid State alpha} {i : Tid} {s : State} {t : PoolTask Ret alpha}
    (h : S.PoolInv spec pool) (hinv : S.inv s)
    (hothers : forall i', i' ≠ i -> S.rely i' pool.state s) (ht : S.TaskHolds spec i s t) :
    S.PoolInv spec (pool.setTask i s t) where
  inv := hinv
  tasks := by
    intro i'
    by_cases heq : i' = i
    · subst heq
      simpa [Pool.setTask] using ht
    · simpa [Pool.setTask, heq] using
        taskHolds_env hverified (h.tasks i') hinv (hothers i' heq)

/-- A step of the pool preserves the assertions, and stays within the guarantee of its task. -/
theorem poolInv_next {body : Tid -> Prog Ret alpha} (hverified : S.Verified spec body)
    {pool pool' : Pool Ret Tid State alpha} {l : PoolLabel Tid Choice}
    (h : S.PoolInv spec pool) (hallowed : pool.Allowed S.allowed l)
    (hnext : pool.next S.exec body l = some pool') : S.PoolInv spec pool' := by
  cases l with
  | start i =>
      rcases Pool.start_of_next hnext with ⟨htask, rfl⟩
      have hbefore := h.tasks i
      rw [htask] at hbefore
      exact poolInv_setTask hverified h h.inv (fun i' _ => S.rely_refl i' pool.state)
        (taskHolds_ofProg (hverified.triple i pool.state h.inv hbefore))
  | step i ch =>
      rcases Pool.step_of_next hnext with ⟨p, p', s, htask, hstep, rfl⟩
      have hsafe := h.tasks i
      rw [htask] at hsafe
      rcases safe_step hsafe h.inv
        (fun o next hp => hallowed i ch rfl o next (by rw [htask, hp])) hstep with
        ⟨hkeeps, hsafe'⟩
      exact poolInv_setTask hverified h hkeeps.inv hkeeps.others (taskHolds_ofProg hsafe')

theorem poolInv_reach {body : Tid -> Prog Ret alpha} (hverified : S.Verified spec body)
    {pool : Pool Ret Tid State alpha} {s : State} (hinv : S.inv s)
    (hbefore : forall i, spec.before i s)
    (hreach : Reach (Pool.next S.exec body) (Pool.Allowed S.allowed) (Pool.initial s) pool) :
    S.PoolInv spec pool := by
  refine hreach.invariant ⟨hinv, hbefore⟩ ?_
  intro pool1 pool2 l h hallowed hnext
  exact poolInv_next hverified h hallowed hnext

end Setting

end Interleaving
