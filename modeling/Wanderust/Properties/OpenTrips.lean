import Wanderust.Properties.SingleSession

/-!
# Open trips and sessions

A trip that is open, in the database or in memory, belongs to a user with a
session, as long as no account switch leaves a trip behind.
-/

namespace Wanderust

open Interleaving

variable {F : Type} {w : World F}

/-- Every trip that is open in the database or kept in memory has an owner with a session. -/
structure TripsAttended (s : State F) : Prop where
  db : forall id row, s.trips.lookup id = some row -> row.endedAt = none ->
    HasSession s row.username
  memory : forall id, s.lastCoordinates.lookup id ≠ none ->
    exists username, TripOf s id username ∧ HasSession s username

/-- The database does not fail, and no switch leaves a trip behind. -/
def Regime.attended : Regime where
  sqlOk := fun _ => True
  sendOk := fun _ => False
  switchOk := False
  tripsOk := True
  tripsOk_sql := fun _ _ => trivial
  lost := fun _ => False

theorem permits_attended {l : Label F} (htokens : DistinctTokens w l)
    (hsql : forall c, SqlSucceeds c w l)
    (hswitch : OnStep (fun c _ o s => SwitchLeaves s c o) w l) (hrestart : l ≠ .restart) :
    Regime.attended.Permits w l := by
  refine permits_of_step ?_ (fun hl => absurd hl hrestart)
  intro c ch hl o ho
  exact ⟨htokens c ch hl o ho, fun _ => hsql c c ch hl o ho rfl, False.elim, False.elim,
    fun _ => hswitch c ch hl o ho⟩

theorem attended_of_inv {s : State F} (hinv : Inv Regime.attended s) : TripsAttended s := by
  constructor
  · intro id row hrow hopen
    by_contra hfree
    exact (hinv.free_trips trivial hfree id ⟨row, hrow, rfl⟩).1 ⟨row, hrow, rfl, hopen⟩
  · intro id hid
    rcases hinv.tracked_known hid with ⟨u, htrip⟩
    refine ⟨u, htrip, ?_⟩
    by_contra hfree
    exact hid (hinv.free_trips trivial hfree id htrip).2

structure AttendedStep (w : World F) (l : Label F) : Prop where
  failures : NoFailure w l
  running : l ≠ .restart
  switch : OnStep (fun c _ o s => SwitchLeaves s c o) w l

theorem trips_attended [Geo F] [Bcrypt] (users : Users) (trips : Trips)
    (positions : Positions F) (w : World F)
    (hclosed : forall id row, trips.lookup id = some row -> row.endedAt ≠ none)
    (hreach : Reachable AttendedStep (World.boot users trips positions) w) :
    TripsAttended w.state := by
  have hworld : WorldInv Regime.attended w := by
    refine worldInv_reachable (worldInv_boot (fun _ => hclosed) (fun _ => False.elim))
      (hreach.mono ?_)
    intro w l h
    exact permits_attended h.failures.tokens h.failures.sql h.switch h.running
  exact attended_of_inv hworld.inv

/-! # An account switch that leaves a trip behind -/

def noSwitchCheck (w : World F) : Label F -> Bool
  | .step c _ =>
      match (w.tasks c).nextOp with
      | some (.invalidateUserSessions _) => false
      | _ => true
  | .restart => false
  | _ => true

def steadyCheck (w : World F) : Label F -> Bool
  | .restart => false
  | l => calmCheck w l

theorem attendedStep_of_check {l : Label F} (hcalm : calmCheck w l = true)
    (hswitch : noSwitchCheck w l = true) : AttendedStep w l := by
  refine ⟨noFailure_of_check hcalm, ?_, ?_⟩
  · intro hl
    rw [hl] at hswitch
    cases hswitch
  · intro c ch hl o ho username hdrop
    rw [hl] at hswitch
    rw [hdrop] at ho
    simp [noSwitchCheck, ho] at hswitch

theorem steady_of_check {l : Label F} (h : steadyCheck w l = true) :
    NoFailure w l ∧ l ≠ .restart := by
  cases l with
  | restart => cases h
  | accept c => exact ⟨noFailure_of_check h, fun hl => by cases hl⟩
  | receive c item => exact ⟨noFailure_of_check h, fun hl => by cases hl⟩
  | step c ch => exact ⟨noFailure_of_check h, fun hl => by cases hl⟩

theorem next_receive [Geo F] [Bcrypt] {c : ConnId} {item : Incoming F}
    (hidle : w.tasks c = .idle) :
    w.next (.receive c item) =
      some (w.setTask c (w.state.log c (.received item))
        (afterHandling (w.state.log c (.received item)) (w.state.log c (.received item)) item
          (serve item))) := by
  simp [World.next, hidle]

/-- StartTrip at the origin, which is in range. -/
def originTripArm [Geo F] (token : String) (ts : Int) : Program F Flow :=
  authorized token fun user => do
    match ← initializeTrips user 0 0 ts with
    | .ok tripId => reply (.tripStarted tripId 0 0 ts)
    | .error e => replyError "START_TRIP_FAILED" e

theorem serve_originTrip [Geo F] [Bcrypt] (token : String) {ts : Int} (hts : 0 < ts) :
    serve (.message (.startTrip token (0 : F) 0 ts)) = originTripArm token ts := by
  have hpos : ¬ ts ≤ 0 := Int.not_le.mpr hts
  simp only [serve, dispatch, startTripArm, checkedSample, coordsInRange_zero, Bool.not_true,
    Bool.false_eq_true, if_false, hpos]
  rfl

section

attribute [local instance] plainBcrypt

noncomputable def loggedInWorld : World ℝ :=
  (World.boot ∅ ∅ ∅).after (fun w l => calmCheck w l && noSwitchCheck w l)
    (registerUntilReply 0 "u" "t1" ++ stepsOf 0 1)

def originTrip : Incoming ℝ := .message (.startTrip "t1" 0 0 1)

noncomputable def startingWorld : World ℝ :=
  loggedInWorld.setTask 0 (loggedInWorld.state.log 0 (.received originTrip))
    (afterHandling (loggedInWorld.state.log 0 (.received originTrip))
      (loggedInWorld.state.log 0 (.received originTrip)) originTrip (originTripArm "t1" 1))

theorem startingWorld_reachable : Reachable AttendedStep (World.boot ∅ ∅ ∅) startingWorld := by
  have hlogged : Reachable AttendedStep (World.boot ∅ ∅ ∅) loggedInWorld := by
    refine reach_after ?_ _ _
    intro w l h
    rw [Bool.and_eq_true] at h
    exact attendedStep_of_check h.1 h.2
  have hidle : loggedInWorld.tasks 0 = .idle := by rfl
  apply hlogged.tail (.receive 0 originTrip) (attendedStep_of_check rfl rfl)
  rw [next_receive hidle, originTrip, serve_originTrip "t1" Int.zero_lt_one]
  rfl

noncomputable def trippingWorld : World ℝ :=
  startingWorld.after (fun w l => calmCheck w l && noSwitchCheck w l) (stepsOf 0 7)

theorem trippingWorld_reachable : Reachable AttendedStep (World.boot ∅ ∅ ∅) trippingWorld := by
  refine startingWorld_reachable.trans (reach_after ?_ _ _)
  intro w l h
  rw [Bool.and_eq_true] at h
  exact attendedStep_of_check h.1 h.2

theorem trips_attended_tripping :
    TripOpen trippingWorld.state 1 "u" ∧ TripsAttended trippingWorld.state :=
  ⟨⟨⟨"u", 1, none⟩, rfl, rfl, rfl⟩,
    trips_attended ∅ ∅ ∅ trippingWorld (fun id row h => by simp at h) trippingWorld_reachable⟩

noncomputable def abandonedWorld : World ℝ :=
  trippingWorld.after steadyCheck
    ([.receive 0 (.message (.register "v" "pass"))] ++ stepsOf 0 5 ++
      [.step 0 (Choice.drawing "t2")] ++ stepsOf 0 8)

theorem trips_abandoned :
    Reachable (fun w l => NoFailure w l ∧ l ≠ .restart) (World.boot ∅ ∅ ∅) abandonedWorld ∧
      abandonedWorld.Quiescent ∧ ¬ TripsAttended abandonedWorld.state := by
  refine ⟨?_, ?_, ?_⟩
  · refine (trippingWorld_reachable.mono ?_).trans (reach_after ?_ _ _)
    · intro w l h
      exact ⟨h.failures, h.running⟩
    · intro w l
      exact steady_of_check
  · intro c
    rcases c with _ | c
    · have hidle : abandonedWorld.tasks 0 = .idle := by rfl
      exact Or.inr (Or.inl hidle)
    · have hunopened : abandonedWorld.tasks (c + 1) = .unopened := by rfl
      exact Or.inl hunopened
  · intro hattended
    have hrow : abandonedWorld.state.trips.lookup 1 = some ⟨"u", 1, none⟩ := by rfl
    have hsessions : hasSession abandonedWorld.state.sessions "u" = false := by rfl
    have hsession := hasSession_iff.mpr (hattended.db 1 _ hrow rfl)
    rw [hsessions] at hsession
    cases hsession

end

end Wanderust
