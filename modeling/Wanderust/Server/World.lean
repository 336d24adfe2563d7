import Wanderust.Interleaving.Runs
import Wanderust.Server.HandleClient

/-!
# Runs of the server

Any number of connections run `handle_client` at the same time.  A run is a
sequence of labels: a connection is accepted, receives an item, or takes one
step with a given choice, or the server is restarted.
-/

namespace Wanderust

open Interleaving

variable {F : Type}

/--
What the task of a connection is doing.  The state in which a handler or the
cleanup started is kept as history.
-/
inductive Task (F : Type) where
  | unopened
  | idle
  | handling (start : State F) (item : Incoming F) (p : Program F Flow)
  | cleaning (start : State F) (p : Program F Unit)
  | closed

structure World (F : Type) where
  state : State F
  tasks : ConnId -> Task F

inductive Label (F : Type) where
  | accept (c : ConnId)
  | receive (c : ConnId) (item : Incoming F)
  | step (c : ConnId) (ch : Choice)
  | restart

def afterHandling (s start : State F) (item : Incoming F) : Program F Flow -> Task F
  | .pure .next => .idle
  | .pure .leave => .cleaning s cleanup
  | .pure .abort => .closed
  | .op o next => .handling start item (.op o next)

def afterCleaning (start : State F) : Program F Unit -> Task F
  | .pure () => .closed
  | .op o next => .cleaning start (.op o next)

def World.setTask (w : World F) (c : ConnId) (s : State F) (t : Task F) : World F :=
  { state := s, tasks := Function.update w.tasks c t }

theorem setTask_setTask (w : World F) (c : ConnId) (s s' : State F) (t t' : Task F) :
    (w.setTask c s t).setTask c s' t' = w.setTask c s' t' := by
  simp [World.setTask]

@[simp] theorem setTask_state (w : World F) (c : ConnId) (s : State F) (t : Task F) :
    (w.setTask c s t).state = s := rfl

@[simp] theorem setTask_tasks_self (w : World F) (c : ConnId) (s : State F) (t : Task F) :
    (w.setTask c s t).tasks c = t := by
  simp [World.setTask]

@[simp] theorem setTask_tasks_of_ne (w : World F) {c c' : ConnId} (s : State F) (t : Task F)
    (hne : c' ≠ c) : (w.setTask c s t).tasks c' = w.tasks c' := by
  simp [World.setTask, hne]

/-- A restart loses the stores in memory and every connection; the database stays. -/
def State.restarted (s : State F) : State F :=
  { s with
    sessions := ∅
    statuses := ∅
    sinks := ∅
    lastCoordinates := ∅
    userState := fun _ => none
    statusBy := fun _ => none }

def Task.killed : Task F -> Task F
  | .unopened => .unopened
  | _ => .closed

def Task.nextOp : Task F -> Option (Op F)
  | .handling _ _ (.op o _) => some o
  | .cleaning _ (.op o _) => some o
  | _ => none

section

variable [Geo F] [Bcrypt]

def World.next (w : World F) : Label F -> Option (World F)
  | .accept c =>
      match w.tasks c with
      | .unopened => some (w.setTask c w.state .idle)
      | _ => none
  | .receive c item =>
      match w.tasks c with
      | .idle =>
          let s := w.state.log c (.received item)
          some (w.setTask c s (afterHandling s s item (serve item)))
      | _ => none
  | .step c ch =>
      match w.tasks c with
      | .handling start item p =>
          match p.step exec c ch w.state with
          | some (p', s') => some (w.setTask c s' (afterHandling s' start item p'))
          | none => none
      | .cleaning start p =>
          match p.step exec c ch w.state with
          | some (p', s') => some (w.setTask c s' (afterCleaning start p'))
          | none => none
      | _ => none
  | .restart =>
      some { state := w.state.restarted, tasks := fun c => (w.tasks c).killed }

theorem accept_of_next {w w' : World F} {c : ConnId} (hnext : w.next (.accept c) = some w') :
    w.tasks c = .unopened ∧ w' = w.setTask c w.state .idle := by
  simp only [World.next] at hnext
  split at hnext
  case h_1 htask =>
    cases hnext
    exact ⟨htask, rfl⟩
  case h_2 => cases hnext

theorem receive_of_next {w w' : World F} {c : ConnId} {item : Incoming F}
    (hnext : w.next (.receive c item) = some w') :
    w.tasks c = .idle ∧
      w' = w.setTask c (w.state.log c (.received item))
        (afterHandling (w.state.log c (.received item)) (w.state.log c (.received item)) item
          (serve item)) := by
  simp only [World.next] at hnext
  split at hnext
  case h_1 htask =>
    cases hnext
    exact ⟨htask, rfl⟩
  case h_2 => cases hnext

theorem step_of_next {w w' : World F} {c : ConnId} {ch : Choice}
    (hnext : w.next (.step c ch) = some w') :
    (exists start item p p' s, w.tasks c = .handling start item p ∧
      p.step exec c ch w.state = some (p', s) ∧
      w' = w.setTask c s (afterHandling s start item p')) ∨
    exists start p p' s, w.tasks c = .cleaning start p ∧
      p.step exec c ch w.state = some (p', s) ∧ w' = w.setTask c s (afterCleaning start p') := by
  simp only [World.next] at hnext
  split at hnext
  case h_1 start item p htask =>
    split at hnext
    case h_1 p' s hstep =>
      cases hnext
      exact Or.inl ⟨start, item, p, p', s, htask, hstep, rfl⟩
    case h_2 => cases hnext
  case h_2 start p htask =>
    split at hnext
    case h_1 p' s hstep =>
      cases hnext
      exact Or.inr ⟨start, p, p', s, htask, hstep, rfl⟩
    case h_2 => cases hnext
  case h_3 => cases hnext

theorem next_database {w w' : World F} {l : Label F} (hnext : w.next l = some w')
    (hl : forall c ch, l ≠ .step c ch) :
    w'.state.users = w.state.users ∧ w'.state.trips = w.state.trips ∧
      w'.state.positions = w.state.positions := by
  cases l with
  | accept c =>
      rcases accept_of_next hnext with ⟨_, rfl⟩
      exact ⟨rfl, rfl, rfl⟩
  | receive c item =>
      rcases receive_of_next hnext with ⟨_, rfl⟩
      exact ⟨rfl, rfl, rfl⟩
  | step c ch => exact absurd rfl (hl c ch)
  | restart =>
      cases hnext
      exact ⟨rfl, rfl, rfl⟩

def Executes (c : ConnId) (ch : Choice) (o : Op F) (s s' : State F) : Prop :=
  (exists r, exec c ch o s = .done r s') ∨ exec c ch o s = .again s'

theorem executes_of_step {alpha : Type} {p p' : Program F alpha} {c : ConnId} {ch : Choice}
    {s s' : State F} (h : p.step exec c ch s = some (p', s')) :
    exists o next, p = .op o next ∧ Executes c ch o s s' := by
  rcases Prog.step_eq_some.mp h with ⟨o, next, rfl, ⟨hexec, _⟩ | ⟨r, hexec, _⟩⟩
  · exact ⟨o, next, rfl, Or.inr hexec⟩
  · exact ⟨o, next, rfl, Or.inl ⟨r, hexec⟩⟩

theorem next_step_setTask {w w' : World F} {c : ConnId} {ch : Choice}
    (hnext : w.next (.step c ch) = some w') : exists s t, w' = w.setTask c s t := by
  rcases step_of_next hnext with ⟨_, _, _, _, s, _, _, rfl⟩ | ⟨_, _, _, s, _, _, rfl⟩
  · exact ⟨s, _, rfl⟩
  · exact ⟨s, _, rfl⟩

theorem executes_of_next {w w' : World F} {c : ConnId} {ch : Choice}
    (hnext : w.next (.step c ch) = some w') :
    exists o, (w.tasks c).nextOp = some o ∧ Executes c ch o w.state w'.state := by
  rcases step_of_next hnext with ⟨start, item, p, p', s, htask, hstep, rfl⟩ |
    ⟨start, p, p', s, htask, hstep, rfl⟩
  all_goals
    rcases executes_of_step hstep with ⟨o, next, rfl, hexec⟩
    rw [htask]
    exact ⟨o, rfl, hexec⟩

abbrev Reachable (cond : World F -> Label F -> Prop) (w w' : World F) : Prop :=
  Reach World.next cond w w'

abbrev World.after (w : World F) (check : World F -> Label F -> Bool)
    (labels : List (Label F)) : World F :=
  Interleaving.after World.next check w labels

end

/-- A server that has just been started on the given database. -/
def World.boot (users : Users) (trips : Trips) (positions : Positions F) : World F :=
  { state :=
      { users
        trips
        positions
        sessions := ∅
        statuses := ∅
        sinks := ∅
        lastCoordinates := ∅
        userState := fun _ => none
        drawn := []
        statusBy := fun _ => none
        traffic := fun _ => [] }
    tasks := fun _ => .unopened }

/-- Every connection that has been accepted and has not ended waits for its next frame. -/
def World.Quiescent (w : World F) : Prop :=
  forall c, w.tasks c = .unopened ∨ w.tasks c = .idle ∨ w.tasks c = .closed

end Wanderust
