import Wanderust.Stats.Attended
import Wanderust.Stats.Seconds

/-!
# The answer of the statistics

What `movement_stats_for_user` computes after a run of a trip: the statistics
of the stored rows.
-/

namespace Wanderust

open Interleaving Prog Windows

variable {F : Type} [Geo F] {tripId : Int} {start : Sample F} {samples : List (Sample F)}

def Increasing (start : Sample F) (samples : List (Sample F)) : Prop :=
  (start :: samples).Pairwise fun p q => p.ts < q.ts

/-- The interval of a query contains all samples. -/
def Covers (fromTs toTs : Int) (start : Sample F) (samples : List (Sample F)) : Prop :=
  forall p, p ∈ start :: samples -> fromTs ≤ p.ts ∧ p.ts ≤ toTs

def SingleTrip (trips : Trips) (user : String) (tripId : Int) : Prop :=
  forall id, OwnedBy trips user id -> id = tripId

theorem completeRows_sorted (hincreasing : Increasing start samples) (tripId : Int) :
    (completeRows tripId start samples).Pairwise PositionRecord.Before := by
  have htimes : ((completeRows tripId start samples).map PositionRecord.ts).Pairwise
      fun t t' => t < t' := by
    rw [times_completeRows]
    exact List.pairwise_map.mpr hincreasing
  apply (List.pairwise_map.mp htimes).imp_of_mem
  intro a b ha hb hlt
  refine Or.inr ⟨?_, hlt⟩
  rw [trip_of_mem_completeRows ha, trip_of_mem_completeRows hb]

theorem mem_completeRows_between {fromTs toTs : Int} (hcovers : Covers fromTs toTs start samples)
    {p : PositionRecord F} (hp : p ∈ completeRows tripId start samples) :
    fromTs ≤ p.ts ∧ p.ts ≤ toTs := by
  have hts : p.ts ∈ (start :: samples).map Sample.ts := by
    rw [← times_completeRows tripId]
    exact List.mem_map_of_mem hp
  rcases List.mem_map.mp hts with ⟨q, hq, hqp⟩
  rw [← hqp]
  exact hcovers q hq

variable [Bcrypt] {c : ConnId} {user : String} {fromTs toTs : Int} {s s' : State F}

theorem tripRun_trajectory (hkeys : ForeignKeys s)
    (hrun : TripRun c user tripId start samples s s') (hsingle : SingleTrip s'.trips user tripId)
    (hincreasing : Increasing start samples) (hcovers : Covers fromTs toTs start samples) :
    selectTrajectory s'.trips s'.positions user fromTs toTs =
      storedRows tripId start samples := by
  have hholds := tripRun_holds hkeys hrun
  refine selectTrajectory_eq
    ((completeRows_sorted hincreasing tripId).sublist (storedRows_sublist _ _ _)) ?_
  intro p
  constructor
  · intro hp
    have hcomplete := (storedRows_sublist tripId start samples).subset hp
    have htrip := trip_of_mem_completeRows hcomplete
    refine ⟨(hholds.rows p htrip).mpr hp, ?_, mem_completeRows_between hcovers hcomplete⟩
    rw [htrip]
    exact hholds.ownedBy
  · intro h
    rcases h with ⟨hrow, howned, _⟩
    exact (hholds.rows p (hsingle _ howned)).mp hrow

theorem eval_movementStats {stats : MovementStats F} :
    Eval exec Eq c (movementStatsForUser user fromTs toTs) s (.ok stats) s' <->
      fromTs ≤ toTs ∧ s' = s ∧
        stats = computeMovementStats user fromTs toTs
          (selectTrajectory s.trips s.positions user fromTs toTs) := by
  rw [movementStatsForUser, eval_bindOk_ok, trajectoryForUser]
  by_cases hinterval : toTs < fromTs
  · rw [if_pos hinterval]
    constructor
    · intro h
      rcases h with ⟨points, s1, hpoints, _⟩
      cases (eval_pure_iff.mp hpoints).1
    · intro h
      rcases h with ⟨hle, _⟩
      exact absurd hinterval (not_lt.mpr hle)
  · rw [if_neg hinterval]
    constructor
    · intro h
      rcases h with ⟨points, s1, hpoints, hpure⟩
      rcases eval_pure_iff.mp hpure with ⟨hstats, rfl⟩
      rw [sql, eval_mapError_ok, eval_act (by simp)] at hpoints
      rcases hpoints with ⟨ch, s1, rfl, hexec⟩
      cases hfails : ch.fails with
      | true => simp [exec, answerQuery, hfails] at hexec
      | false =>
          simp only [exec, answerQuery, hfails, Bool.false_eq_true, if_false, Outcome.done.injEq,
            Except.ok.injEq] at hexec
          rcases hexec with ⟨rfl, rfl⟩
          exact ⟨not_lt.mp hinterval, rfl, Except.ok.inj hstats⟩
    · intro h
      rcases h with ⟨_, rfl, rfl⟩
      refine ⟨_, s', eval_mapError_ok.mpr ((eval_act (by simp)).mpr
        ⟨Choice.succeeding 0, s', rfl, rfl⟩), Eval.pure _ s'⟩

/-! # A database with one user -/

theorem newcomer_attendedTrip (c : ConnId) (user : String) (tripId : Int)
    (hincreasing : Increasing start samples) :
    exists s', AttendedTrip c user tripId start samples (newcomer F user) s' ∧
      SingleTrip s'.trips user tripId := by
  have huser : ((newcomer F user).users.lookup user).isSome = true := by
    rw [newcomer, World.boot, Table.lookup_insert_eq, if_pos rfl]
    rfl
  have hid : (newcomer F user).trips.lookup tripId = none := by
    simp [newcomer, World.boot]
  rcases attendedTrip_exists c (newcomer_foreignKeys user) huser hid hincreasing with
    ⟨s', hrun, htrips⟩
  refine ⟨s', hrun, ?_⟩
  intro id h
  rcases h with ⟨trip, hlookup, _⟩
  rw [htrips, Table.lookup_insert_eq] at hlookup
  by_contra hne
  simp [hne, newcomer, World.boot] at hlookup

theorem newcomer_tripRun (c : ConnId) (user : String) (tripId : Int)
    (hincreasing : Increasing start samples) :
    exists s', TripRun c user tripId start samples (newcomer F user) s' ∧
      SingleTrip s'.trips user tripId := by
  rcases newcomer_attendedTrip c user tripId hincreasing with ⟨s', hrun, hsingle⟩
  exact ⟨s', hrun.tripRun, hsingle⟩

theorem newcomer_answer (c : ConnId) (user : String) (tripId : Int)
    (hincreasing : Increasing start samples) (hinterval : fromTs ≤ toTs) :
    exists s', TripRun c user tripId start samples (newcomer F user) s' ∧
      SingleTrip s'.trips user tripId ∧
      Eval exec Eq c (movementStatsForUser user fromTs toTs) s'
        (.ok (computeMovementStats user fromTs toTs
          (selectTrajectory s'.trips s'.positions user fromTs toTs))) s' := by
  rcases newcomer_tripRun c user tripId hincreasing with ⟨s', hrun, hsingle⟩
  exact ⟨s', hrun, hsingle, eval_movementStats.mpr ⟨hinterval, rfl, rfl⟩⟩

end Wanderust
