import Wanderust.Graphs.Routes
import Wanderust.Sim.Walk

/-!
# The route of the vehicle

The loop of `advance` and its callers, with a note of every node that the
vehicle heads for when it has passed one.  The notes change nothing in the
result, and along a run they make the route of the vehicle.
-/

namespace Wanderust.Sim

open Rng Logs Graphs

variable {F : Type} [Arith F]

/-! # Calls with notes -/

namespace Simulator

def driveRoute : Nat -> F -> Simulator F -> Logged Nat Panic (Simulator F)
  | 0, _, s => .pure s
  | turns + 1, budgetM, s => do
      let seg ← .silent (s.graph.segLenM s.fromNode s.toNode)
      let remain := seg - s.offsetM
      if budgetM < remain then return { s with offsetM := s.offsetM + budgetM }
      else do
        let s ← .silent s.passNode
        .note s.toNode
        driveRoute turns (budgetM - max remain 0) s

/-- `advanceDriving`; only the loop turns to other nodes. -/
def advanceDrivingRoute (s : Simulator F) (dtSecs : F) : Logged Nat Panic (Simulator F) :=
  let s1 := { s with driveSecsLeft := s.driveSecsLeft - dtSecs }
  if s1.driveSecsLeft ≤ 0 then .silent (s.advanceDriving dtSecs)
  else do
    let s ← driveRoute maxSteps (s1.speedMps * dtSecs)
      { s1 with lastSpeedKmh := s1.speedMps * (36 / 10) }
    .silent s.updatePosition

def advanceRoute (s : Simulator F) (dtSecs : F) : Logged Nat Panic (Simulator F) :=
  if dtSecs ≤ 0 then .pure s
  else if 0 < s.pauseSecsLeft then
    let s := { s with pauseSecsLeft := s.pauseSecsLeft - dtSecs }
    if 0 < s.pauseSecsLeft then .pure { s with lastSpeedKmh := 0 }
    else ({ s with pauseSecsLeft := 0 } : Simulator F).resampleSpeed.advanceDrivingRoute dtSecs
  else s.advanceDrivingRoute dtSecs

def advancesRoute (s : Simulator F) : List F -> Logged Nat Panic (Simulator F)
  | [] => .pure s
  | dt :: rest => do
      let s' ← s.advanceRoute dt
      s'.advancesRoute rest

/-- The nodes that the vehicle comes from and heads for over a run, in order. -/
def route (s : Simulator F) (dts : List F) : List Nat :=
  s.fromNode :: s.toNode :: (s.advancesRoute dts).log

/-! # The results without the notes -/

theorem driveRoute_result (turns : Nat) (budgetM : F) (s : Simulator F) :
    (driveRoute turns budgetM s).result = drive turns budgetM s := by
  induction turns generalizing budgetM s with
  | zero => rfl
  | succ turns ih =>
      unfold driveRoute drive
      rw [Logged.result_bind]
      apply congrArg
      funext seg
      by_cases hlt : budgetM < seg - s.offsetM
      · simp only [hlt, if_true]
        rfl
      · simp only [hlt, if_false]
        rw [Logged.result_bind]
        apply congrArg
        funext s'
        rw [Logged.result_bind]
        exact ih _ s'

theorem advanceDrivingRoute_result (s : Simulator F) (dtSecs : F) :
    (s.advanceDrivingRoute dtSecs).result = s.advanceDriving dtSecs := by
  unfold advanceDrivingRoute
  by_cases hpause : s.driveSecsLeft - dtSecs ≤ 0
  · simp only [hpause, if_true]
    rfl
  · unfold advanceDriving
    simp only [hpause, if_false]
    rw [Logged.result_bind, driveRoute_result]
    rfl

theorem advanceRoute_result (s : Simulator F) (dtSecs : F) :
    (s.advanceRoute dtSecs).result = s.advance dtSecs := by
  unfold advanceRoute advance
  split
  · rfl
  · simp only
    split
    · split
      · rfl
      · exact advanceDrivingRoute_result _ dtSecs
    · exact advanceDrivingRoute_result s dtSecs

theorem advancesRoute_result (s : Simulator F) (dts : List F) :
    (s.advancesRoute dts).result = s.advances dts := by
  induction dts generalizing s with
  | nil => rfl
  | cons dt rest ih =>
      unfold advancesRoute advances
      rw [Logged.result_bind, advanceRoute_result]
      apply congrArg
      funext s'
      exact ih s'

/-! # The turns of the loop -/

section

variable {s : Simulator F} {seg budgetM : F}

theorem driveRoute_stop (turns : Nat) (hseg : s.graph.segLenM s.fromNode s.toNode = .ok seg)
    (hlt : budgetM < seg - s.offsetM) : (driveRoute (turns + 1) budgetM s).log = [] := by
  unfold driveRoute
  rw [Logged.silent_bind_ok hseg]
  simp only [hlt, if_true]
  rfl

theorem driveRoute_pass (turns : Nat) {s1 : Simulator F}
    (hseg : s.graph.segLenM s.fromNode s.toNode = .ok seg)
    (hge : ¬ budgetM < seg - s.offsetM) (hpass : s.passNode = .ok s1) :
    (driveRoute (turns + 1) budgetM s).log =
      s1.toNode :: (driveRoute turns (budgetM - max (seg - s.offsetM) 0) s1).log := by
  conv_lhs => unfold driveRoute
  rw [Logged.silent_bind_ok hseg]
  simp only [hge, if_false]
  rw [Logged.silent_bind_ok hpass]
  rfl

end

end Simulator

/-! # The choices along a route -/

variable {g : Graph F} {s s' : Simulator F} {e : Nat × Nat}

def OnEdgeOf (g : Graph F) (s : Simulator F) (e : Nat × Nat) : Prop :=
  s.graph = g ∧ e = (s.fromNode, s.toNode)

theorem passNode_edge (h : OnEdgeOf g s e) (hpass : s.passNode = .ok s') :
    EdgeStep (GoesOn g) e s'.toNode (s'.fromNode, s'.toNode) ∧
      OnEdgeOf g s' (s'.fromNode, s'.toNode) := by
  rcases h with ⟨rfl, rfl⟩
  rcases passNode_passed hpass with ⟨hpassed, hgoes⟩
  refine ⟨⟨hgoes, ?_⟩, hpassed.same.graph, rfl⟩
  rw [hpassed.fromNode]

theorem driveRoute_readable (turns : Nat) (budgetM : F) (h : OnEdgeOf g s e) :
    (Simulator.driveRoute turns budgetM s).Readable (EdgeStep (GoesOn g)) e (OnEdgeOf g) := by
  induction turns generalizing budgetM s e with
  | zero => exact Logged.readable_pure h
  | succ turns ih =>
      unfold Simulator.driveRoute
      apply Logged.readable_silent_bind
      intro seg _
      by_cases hlt : budgetM < seg - s.offsetM
      · simp only [hlt, if_true]
        exact Logged.readable_pure h
      · simp only [hlt, if_false]
        apply Logged.readable_silent_bind
        intro s' hs'
        rcases passNode_edge h hs' with ⟨hstep, h'⟩
        exact Logged.readable_note_bind hstep (ih _ h')

theorem updatePosition_edge (h : OnEdgeOf g s e) (hupdate : s.updatePosition = .ok s') :
    OnEdgeOf g s' e := by
  rcases updatePosition_ok hupdate with ⟨lat, lon, rfl⟩
  exact h

theorem advanceDrivingRoute_readable (dtSecs : F) (h : OnEdgeOf g s e) :
    (s.advanceDrivingRoute dtSecs).Readable (EdgeStep (GoesOn g)) e (OnEdgeOf g) := by
  unfold Simulator.advanceDrivingRoute
  by_cases hpause : s.driveSecsLeft - dtSecs ≤ 0
  · simp only [hpause, if_true]
    apply Logged.readable_silent
    intro s' hs'
    rw [show s.advanceDriving dtSecs = .ok _ from if_pos hpause] at hs'
    cases hs'
    exact h
  · simp only [hpause, if_false]
    have hstart : OnEdgeOf g
        { s with
          driveSecsLeft := s.driveSecsLeft - dtSecs
          lastSpeedKmh := s.speedMps * (36 / 10) } e := h
    apply Logged.readable_bind (driveRoute_readable maxSteps (s.speedMps * dtSecs) hstart)
    intro s1 e1 h1
    exact Logged.readable_silent fun s' hs' => updatePosition_edge h1 hs'

theorem advanceRoute_readable (dtSecs : F) (h : OnEdgeOf g s e) :
    (s.advanceRoute dtSecs).Readable (EdgeStep (GoesOn g)) e (OnEdgeOf g) := by
  unfold Simulator.advanceRoute
  split
  · exact Logged.readable_pure h
  · simp only
    split
    · split
      · exact Logged.readable_pure h
      · exact advanceDrivingRoute_readable dtSecs h
    · exact advanceDrivingRoute_readable dtSecs h

theorem advancesRoute_readable (dts : List F) (h : OnEdgeOf g s e) :
    (s.advancesRoute dts).Readable (EdgeStep (GoesOn g)) e (OnEdgeOf g) := by
  induction dts generalizing s e with
  | nil => exact Logged.readable_pure h
  | cons dt rest ih =>
      unfold Simulator.advancesRoute
      apply Logged.readable_bind (advanceRoute_readable dt h)
      intro s1 e1 h1
      exact ih h1

end Wanderust.Sim
