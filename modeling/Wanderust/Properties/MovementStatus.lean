import Wanderust.Properties.MovementDecisions
import Wanderust.Properties.OpenTrips
import Wanderust.Session.MovementRuns

/-!
# The status Moving

A user who is shown as moving has a trip that moves, as long as no request to
end a trip closes the last one and no flagged sample of the last one is refused.
The two handlers leave the status as it was.
-/

namespace Wanderust

open Interleaving Prog

variable {F : Type}

section

variable [Geo F] [Bcrypt]

theorem moving_has_trip (users : Users) (trips : Trips) (positions : Positions F)
    (w : AnchoredWorld F)
    (hreach : Reach nextAnchored (fun w l => DistinctTokens w.1 l ∧ SparesStep w l)
      (World.boot users trips positions, fun _ => false) w)
    (hquiet : w.1.Quiescent) (username : String)
    (hmoving : w.1.state.statuses.lookup username = some .moving) :
    exists id, MovingTrip w.1.state w.2 username id := by
  have hinv : WorldInv Regime.any w.1 ∧ exists phase, StatusInv w phase := by
    apply hreach.invariant
    · exact ⟨worldInv_boot False.elim fun _ => False.elim, _,
        statusInv_boot users trips positions⟩
    · intro w1 w2 l h hcond hnext
      have hpermits := permits_any hcond.1
      exact ⟨worldInv_next h.1 hpermits (withHistory_eq_some.mp hnext).1,
        statusInv_next h.1 h.2 hpermits hcond.2 hnext⟩
  rcases hinv.2 with ⟨phase, hstatus⟩
  exact statusMeant_of_quiescent hstatus hquiet username hmoving

end

/-! # A sample that leaves the anchor behind -/

/-- Neither a trip is ended nor a flagged sample stored. -/
def sparesCheck (w : World F) : Label F -> Bool
  | .step c _ =>
      match (w.tasks c).nextOp with
      | some (.updateTripEnded _ _ _) => false
      | some (.insertPosition _ _ _ _ stopped) => !stopped
      | _ => true
  | _ => true

theorem sparesStep_of_check {w : AnchoredWorld F} {l : Label F}
    (h : sparesCheck w.1 l = true) : SparesStep w l := by
  intro c ch hl o ho
  rw [hl] at h
  constructor
  · intro _ id u ts hop
    rw [hop] at ho
    simp [sparesCheck, ho] at h
  · intro id lat lon ts hop
    rw [hop] at ho
    simp [sparesCheck, ho] at h

def trackedArm (token : String) (tripId : Int) (lat lon : F) (ts : Int) : Program F Flow :=
  authorized token fun user => do
    match ← tripOpenFor tripId user with
    | .ok true => positionOpenTrip user tripId lat lon ts
    | .ok false => replyError "BAD_REQUEST" "trip missing, not yours or already closed"
    | .error e => replyError "BAD_REQUEST" e

theorem serve_position [Geo F] [Bcrypt] (token : String) (tripId : Int) {lat lon : F} {ts : Int}
    (hrange : coordsInRange lat lon = true) (hts : 0 < ts) :
    serve (.message (.position token tripId lat lon ts)) =
      trackedArm token tripId lat lon ts := by
  have hpos : ¬ ts ≤ 0 := Int.not_le.mpr hts
  simp only [serve, dispatch, positionArm, checkedSample, hrange, Bool.not_true,
    Bool.false_eq_true, if_false, hpos]
  rfl

theorem next_observeCoord [Geo F] [Bcrypt] {w : World F} {c : ConnId} (ch : Choice)
    {start : State F} {item : Incoming F} {id : Int} {lat lon : F}
    {next : Option (InsertAction × StatusTransition) -> Program F Flow} {coord : CoordState F}
    {observed : CoordState F × InsertAction × StatusTransition}
    (htask : w.tasks c = .handling start item (.op (.observeCoord id lat lon) next))
    (hlookup : w.state.lastCoordinates.lookup id = some coord)
    (hobserved : coord.observe lat lon = observed) :
    w.next (.step c ch) =
      some (w.setTask c
        { w.state with lastCoordinates := w.state.lastCoordinates.insert id observed.1 }
        (afterHandling
          { w.state with lastCoordinates := w.state.lastCoordinates.insert id observed.1 }
          start item (next (some observed.2)))) := by
  simp [World.next, htask, Prog.step, exec, hlookup, hobserved]

section

attribute [local instance] plainBcrypt

def spareCheck (w : World F) (l : Label F) : Bool := steadyCheck w l && sparesCheck w l

def SpareStep (w : World F) (l : Label F) : Prop :=
  (NoFailure w l ∧ l ≠ .restart) ∧ sparesCheck w l = true

theorem spareStep_of_check {w : World F} {l : Label F} (h : spareCheck w l = true) :
    SpareStep w l := by
  rw [spareCheck, Bool.and_eq_true] at h
  exact ⟨steady_of_check h.1, h.2⟩

noncomputable def readyWorld : World ℝ :=
  (World.boot ∅ ∅ ∅).after spareCheck (registerUntilReply 0 "u" "t1" ++ stepsOf 0 1)

noncomputable def openingWorld : World ℝ :=
  readyWorld.setTask 0 (readyWorld.state.log 0 (.received originTrip))
    (afterHandling (readyWorld.state.log 0 (.received originTrip))
      (readyWorld.state.log 0 (.received originTrip)) originTrip (originTripArm "t1" 1))

noncomputable def openedWorld : World ℝ :=
  openingWorld.after spareCheck (stepsOf 0 7)

theorem openedWorld_reachable : Reachable SpareStep (World.boot ∅ ∅ ∅) openedWorld := by
  have hready : Reachable SpareStep (World.boot ∅ ∅ ∅) readyWorld :=
    reach_after (fun _ _ => spareStep_of_check) _ _
  have hidle : readyWorld.tasks 0 = .idle := by rfl
  have hopening : Reachable SpareStep (World.boot ∅ ∅ ∅) openingWorld := by
    apply hready.tail (.receive 0 originTrip) (spareStep_of_check rfl)
    rw [next_receive hidle, originTrip, serve_originTrip "t1" Int.zero_lt_one]
    rfl
  exact hopening.trans (reach_after (fun _ _ => spareStep_of_check) _ _)

noncomputable def farLat : ℝ := secondStep.sample.lat

theorem farLat_inRange : coordsInRange farLat 0 = true := by
  norm_num [coordsInRange, farLat, secondStep, northOf]

noncomputable def farSample : Incoming ℝ := .message (.position "t1" 1 farLat 0 31)

noncomputable def samplingWorld : World ℝ :=
  openedWorld.setTask 0 (openedWorld.state.log 0 (.received farSample))
    (afterHandling (openedWorld.state.log 0 (.received farSample))
      (openedWorld.state.log 0 (.received farSample)) farSample
      (trackedArm "t1" 1 farLat 0 31))

noncomputable def comparingWorld : World ℝ :=
  samplingWorld.after spareCheck (stepsOf 0 4)

noncomputable def originCoord : CoordState ℝ := { lat := 0, lon := 0, n := 1, inserted := false }

noncomputable def farCoord : CoordState ℝ :=
  { lat := farLat, lon := 0, n := 1, inserted := false }

theorem observe_farSample :
    originCoord.observe farLat 0 = (farCoord, .insert false, .toMoving) := by
  have hfar : coordsEqual 0 0 farLat 0 = false := far_steps
  simp [CoordState.observe, originCoord, farCoord, hfar]

/-- What is left to do once the sample has been found to lie elsewhere. -/
noncomputable def storeAndShow : Program ℝ Flow := do
  match ← bindOk (applyInsert 1 farLat 0 31 (.insert false)) fun _ => do
      applyTransition "u" .toMoving
      return .ok () with
  | .ok () => reply .ack
  | .error e => replyError "UPDATE_TRIP_FAILED" e

theorem comparingWorld_task : exists next,
    comparingWorld.tasks 0 = .handling (openedWorld.state.log 0 (.received farSample)) farSample
      (.op (.observeCoord 1 farLat 0) next) ∧
    next (some (.insert false, .toMoving)) = storeAndShow :=
  ⟨_, rfl, rfl⟩

noncomputable def comparedWorld : World ℝ :=
  let s := { comparingWorld.state with
    lastCoordinates := comparingWorld.state.lastCoordinates.insert 1 farCoord }
  comparingWorld.setTask 0 s
    (afterHandling s (openedWorld.state.log 0 (.received farSample)) farSample storeAndShow)

noncomputable def movedWorld : World ℝ :=
  comparedWorld.after spareCheck (stepsOf 0 3)

theorem movedWorld_later : Reachable SpareStep openedWorld movedWorld := by
  have hidle : openedWorld.tasks 0 = .idle := by rfl
  have hsampling : Reachable SpareStep openedWorld samplingWorld := by
    apply Reach.refl.tail (.receive 0 farSample) (spareStep_of_check rfl)
    rw [next_receive hidle, farSample, serve_position "t1" 1 farLat_inRange (by decide)]
    rfl
  have hcomparing : Reachable SpareStep openedWorld comparingWorld :=
    hsampling.trans (reach_after (fun _ _ => spareStep_of_check) _ _)
  have hcompared : Reachable SpareStep openedWorld comparedWorld := by
    rcases comparingWorld_task with ⟨next, htask, hrest⟩
    apply hcomparing.tail (.step 0 (Choice.drawing "")) (spareStep_of_check rfl)
    have hlookup : comparingWorld.state.lastCoordinates.lookup 1 = some originCoord := by rfl
    rw [next_observeCoord (Choice.drawing "") htask hlookup observe_farSample, hrest]
    rfl
  exact hcompared.trans (reach_after (fun _ _ => spareStep_of_check) _ _)

theorem movedWorld_reachable : Reachable SpareStep (World.boot ∅ ∅ ∅) movedWorld :=
  openedWorld_reachable.trans movedWorld_later

theorem movedWorld_quiescent : movedWorld.Quiescent := by
  intro c
  rcases c with _ | c
  · have hidle : movedWorld.tasks 0 = .idle := by rfl
    exact Or.inr (Or.inl hidle)
  · have hunopened : movedWorld.tasks (c + 1) = .unopened := by rfl
    exact Or.inl hunopened

theorem moving_has_trip_moved : exists anchored : Anchors,
    movedWorld.state.statuses.lookup "u" = some .moving ∧
      exists id, MovingTrip movedWorld.state anchored "u" id := by
  rcases movedWorld_reachable.remember recordAnchors fun _ => false with ⟨anchored, hreach⟩
  have hspares : Reach nextAnchored (fun w l => DistinctTokens w.1 l ∧ SparesStep w l)
      (World.boot ∅ ∅ ∅, fun _ => false) (movedWorld, anchored) :=
    hreach.mono fun _ _ h => ⟨h.1.1.tokens, sparesStep_of_check h.2⟩
  have hmoving : movedWorld.state.statuses.lookup "u" = some .moving := by rfl
  exact ⟨anchored, hmoving,
    moving_has_trip ∅ ∅ ∅ (movedWorld, anchored) hspares movedWorld_quiescent "u" hmoving⟩

/-! # EndTrip while moving -/

/-- The user has ended the trip, and is still shown as moving. -/
noncomputable def strandedWorld : World ℝ :=
  movedWorld.after steadyCheck
    ([.receive 0 (.message (.endTrip "t1" 1 60))] ++ stepsOf 0 5)

theorem moving_without_trip : exists anchored : Anchors,
    Reach nextAnchored (fun w l => NoFailure w.1 l ∧ l ≠ .restart)
      (World.boot ∅ ∅ ∅, fun _ => false) (strandedWorld, anchored) ∧
      strandedWorld.Quiescent ∧ strandedWorld.state.statuses.lookup "u" = some .moving ∧
      ¬ exists id, MovingTrip strandedWorld.state anchored "u" id := by
  have hstranded : Reachable (fun w l => NoFailure w l ∧ l ≠ .restart) (World.boot ∅ ∅ ∅)
      strandedWorld := by
    refine (movedWorld_reachable.mono fun _ _ h => h.1).trans (reach_after ?_ _ _)
    intro w l
    exact steady_of_check
  rcases hstranded.remember recordAnchors fun _ => false with ⟨anchored, hreach⟩
  refine ⟨anchored, hreach, ?_, rfl, ?_⟩
  · intro c
    rcases c with _ | c
    · have hidle : strandedWorld.tasks 0 = .idle := by rfl
      exact Or.inr (Or.inl hidle)
    · have hunopened : strandedWorld.tasks (c + 1) = .unopened := by rfl
      exact Or.inl hunopened
  · intro hmoves
    rcases hmoves with ⟨id, hid⟩
    have hmem := mem_selectOpenTripIds.mpr hid.isOpen
    have hnone : selectOpenTripIds strandedWorld.state.trips "u" = [] := by rfl
    rw [hnone] at hmem
    cases hmem

end

end Wanderust
