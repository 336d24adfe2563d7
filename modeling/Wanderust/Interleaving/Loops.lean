import Mathlib.Logic.Function.Basic
import Wanderust.Interleaving.RelyGuarantee
import Wanderust.Interleaving.Runs

/-!
# Tasks that loop

Each task waits for an input, runs a program on it, and then waits again or
ends.  One of the tasks leads: when it has ended nothing goes on.  When the
program of every turn has a triple, what the triples assert of the time between
two turns holds in every state that can be reached.
-/

namespace Interleaving

inductive Turn where
  | again
  | leave
deriving DecidableEq

inductive LoopTask {Op : Type} (Ret : Op -> Type) where
  | waiting
  | running (p : Prog Ret Turn)
  | ended

structure Loops {Op : Type} (Ret : Op -> Type) (Tid State : Type) where
  state : State
  tasks : Tid -> LoopTask Ret

inductive LoopLabel {Tid : Type} (Input : Tid -> Type) (Choice : Type) where
  | start (i : Tid) (x : Input i)
  | step (i : Tid) (ch : Choice)

/--
What the tasks do.  `note` is the history that is kept of an input; the program
of a turn starts after it.
-/
structure LoopSystem {Op : Type} (Ret : Op -> Type) (Tid State : Type)
    (Input : Tid -> Type) where
  body : (i : Tid) -> Input i -> Prog Ret Turn
  note : (i : Tid) -> Input i -> State -> State
  leader : Tid

variable {Op : Type} {Ret : Op -> Type} {Tid Choice State : Type} {Input : Tid -> Type}

def LoopTask.ofProg : Prog Ret Turn -> LoopTask Ret
  | .pure .again => .waiting
  | .pure .leave => .ended
  | .op o next => .running (.op o next)

namespace Loops

def initial (s : State) : Loops Ret Tid State :=
  { state := s, tasks := fun _ => .waiting }

def setTask [DecidableEq Tid] (loops : Loops Ret Tid State) (i : Tid) (s : State)
    (t : LoopTask Ret) : Loops Ret Tid State :=
  { state := s, tasks := Function.update loops.tasks i t }

@[simp] theorem setTask_state [DecidableEq Tid] (loops : Loops Ret Tid State) (i : Tid)
    (s : State) (t : LoopTask Ret) : (loops.setTask i s t).state = s := rfl

def stopped (loops : Loops Ret Tid State) (leader : Tid) : Bool :=
  match loops.tasks leader with
  | .ended => true
  | _ => false

variable [DecidableEq Tid] (exec : Exec Ret Tid Choice State)
  (system : LoopSystem Ret Tid State Input)

def next (loops : Loops Ret Tid State) :
    LoopLabel Input Choice -> Option (Loops Ret Tid State)
  | .start i x =>
      if loops.stopped system.leader then none
      else
        match loops.tasks i with
        | .waiting =>
            some (loops.setTask i (system.note i x loops.state) (.ofProg (system.body i x)))
        | _ => none
  | .step i ch =>
      if loops.stopped system.leader then none
      else
        match loops.tasks i with
        | .running p =>
            match p.step exec i ch loops.state with
            | some (p', s') => some (loops.setTask i s' (.ofProg p'))
            | none => none
        | _ => none

variable {exec system} {loops loops' : Loops Ret Tid State} {i : Tid}

theorem start_of_next {x : Input i}
    (hnext : loops.next exec system (.start i x) = some loops') :
    loops.tasks i = .waiting ∧
      loops' = loops.setTask i (system.note i x loops.state) (.ofProg (system.body i x)) := by
  simp only [next] at hnext
  split at hnext
  case isTrue => cases hnext
  case isFalse =>
    split at hnext
    case h_1 htask =>
      cases hnext
      exact ⟨htask, rfl⟩
    case h_2 => cases hnext

theorem step_of_next {ch : Choice}
    (hnext : loops.next exec system (.step i ch) = some loops') :
    exists p p' s, loops.tasks i = .running p ∧ p.step exec i ch loops.state = some (p', s) ∧
      loops' = loops.setTask i s (.ofProg p') := by
  simp only [next] at hnext
  split at hnext
  case isTrue => cases hnext
  case isFalse =>
    split at hnext
    case h_1 p htask =>
      split at hnext
      case h_1 p' s hstep =>
        cases hnext
        exact ⟨p, p', s, htask, hstep, rfl⟩
      case h_2 => cases hnext
    case h_2 => cases hnext

def Allowed (allowed : Tid -> Choice -> Op -> State -> Prop) (loops : Loops Ret Tid State)
    (l : LoopLabel Input Choice) : Prop :=
  forall i ch, l = .step i ch -> forall o next, loops.tasks i = .running (.op o next) ->
    allowed i ch o loops.state

end Loops

/-! # Verified loops -/

/-- What each task guarantees, and what holds of it between two of its turns. -/
structure LoopSpec (Tid State : Type) where
  guar : Tid -> State -> State -> Prop
  rest : Tid -> State -> Prop

namespace Setting

variable (S : Setting Ret Tid Choice State) (spec : LoopSpec Tid State)
  (system : LoopSystem Ret Tid State Input)

def Entered (i : Tid) (x : Input i) (s : State) : Prop :=
  exists s0, S.inv s0 ∧ spec.rest i s0 ∧ s = system.note i x s0

structure VerifiedLoops : Prop where
  admits : forall i x s, S.inv s -> spec.rest i s -> S.inv (system.note i x s) ∧
    forall i', i' ≠ i -> S.rely i' s (system.note i x s)
  triple : forall i x, S.Triple i (spec.guar i) (S.Entered spec system i x) (system.body i x)
    (fun _ => spec.rest i)
  stable_rest : forall i, S.Stable i (spec.rest i)

def LoopHolds (i : Tid) (s : State) : LoopTask Ret -> Prop
  | .waiting => spec.rest i s
  | .running p => S.Safe i (spec.guar i) p (fun _ => spec.rest i) s
  | .ended => spec.rest i s

structure LoopsInv (loops : Loops Ret Tid State) : Prop where
  inv : S.inv loops.state
  tasks : forall i, S.LoopHolds spec i loops.state (loops.tasks i)

variable {S spec system}

theorem loopHolds_env (hverified : S.VerifiedLoops spec system) {i : Tid} {s s' : State}
    {t : LoopTask Ret} (h : S.LoopHolds spec i s t) (hinv : S.inv s') (hrely : S.rely i s s') :
    S.LoopHolds spec i s' t := by
  cases t with
  | waiting => exact hverified.stable_rest i s s' h hinv hrely
  | running p => exact safe_env h (fun _ => hverified.stable_rest i) hinv hrely
  | ended => exact hverified.stable_rest i s s' h hinv hrely

theorem loopHolds_ofProg {i : Tid} {s : State} {p : Prog Ret Turn}
    (h : S.Safe i (spec.guar i) p (fun _ => spec.rest i) s) :
    S.LoopHolds spec i s (.ofProg p) := by
  cases p with
  | pure turn =>
      cases turn with
      | again => exact h
      | leave => exact h
  | op o next => exact h

variable [DecidableEq Tid]

theorem loopsInv_setTask (hverified : S.VerifiedLoops spec system)
    {loops : Loops Ret Tid State} {i : Tid} {s : State} {t : LoopTask Ret}
    (h : S.LoopsInv spec loops) (hinv : S.inv s)
    (hothers : forall i', i' ≠ i -> S.rely i' loops.state s) (ht : S.LoopHolds spec i s t) :
    S.LoopsInv spec (loops.setTask i s t) where
  inv := hinv
  tasks := by
    intro i'
    by_cases heq : i' = i
    · subst heq
      simpa [Loops.setTask] using ht
    · simpa [Loops.setTask, heq] using
        loopHolds_env hverified (h.tasks i') hinv (hothers i' heq)

theorem loopsInv_next (hverified : S.VerifiedLoops spec system)
    {loops loops' : Loops Ret Tid State} {l : LoopLabel Input Choice}
    (h : S.LoopsInv spec loops) (hallowed : loops.Allowed S.allowed l)
    (hnext : loops.next S.exec system l = some loops') : S.LoopsInv spec loops' := by
  cases l with
  | start i x =>
      rcases Loops.start_of_next hnext with ⟨htask, rfl⟩
      have hrest := h.tasks i
      rw [htask] at hrest
      rcases hverified.admits i x loops.state h.inv hrest with ⟨hinv, hothers⟩
      exact loopsInv_setTask hverified h hinv hothers
        (loopHolds_ofProg (hverified.triple i x _ hinv ⟨loops.state, h.inv, hrest, rfl⟩))
  | step i ch =>
      rcases Loops.step_of_next hnext with ⟨p, p', s, htask, hstep, rfl⟩
      have hsafe := h.tasks i
      rw [htask] at hsafe
      rcases safe_step hsafe h.inv
        (fun o next hp => hallowed i ch rfl o next (by rw [htask, hp])) hstep with
        ⟨hkeeps, hsafe'⟩
      exact loopsInv_setTask hverified h hkeeps.inv hkeeps.others (loopHolds_ofProg hsafe')

theorem loopsInv_reach (hverified : S.VerifiedLoops spec system)
    {loops : Loops Ret Tid State} {s : State} (hinv : S.inv s)
    (hrest : forall i, spec.rest i s)
    (hreach : Reach (Loops.next S.exec system) (Loops.Allowed S.allowed) (Loops.initial s)
      loops) :
    S.LoopsInv spec loops := by
  refine hreach.invariant ⟨hinv, hrest⟩ ?_
  intro loops1 loops2 l h hallowed hnext
  exact loopsInv_next hverified h hallowed hnext

end Setting

end Interleaving
