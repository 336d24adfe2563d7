import Wanderust.Properties.CountedSeconds
import Wanderust.Properties.Distances
import Wanderust.Stats.Splitting

/-!
# Splitting an interval

The statistics of an interval are those of its two parts and of one window more
for each trip that goes on across the split.  So no statistics shrink when the
interval is widened.
-/

namespace Wanderust

open Interleaving Prog Windows

section

variable {F : Type} [Geo F] [Bcrypt] {c : ConnId} {s : State F} {user : String}
variable {fromTs m toTs : Int}

def windowStats (user : String) (a b : PositionRecord F) : MovementStats F :=
  computeMovementStats user a.ts b.ts [a, b]

/-- The field of the whole is that of the parts and of the windows across the split. -/
def SplitsAt {M : Type} [AddCommMonoid M] (field : MovementStats F -> M)
    (whole early late : MovementStats F) (trips : Finset Int)
    (window : Int -> MovementStats F) : Prop :=
  field whole = field early + field late + ∑ id ∈ trips, field (window id)

omit [Bcrypt] in
theorem splitsAt_of_windowSum {M : Type} [AddCommGroup M] {field : MovementStats F -> M}
    {g : PositionRecord F -> PositionRecord F -> M}
    (hfield : forall lo hi rows, field (computeMovementStats user lo hi rows) = windowSum g rows)
    (hg : VanishesAcross PositionRecord.tripId g) {trips : Trips} {positions : Positions F}
    (hfrom : fromTs ≤ m) (hto : m < toTs) {last first : Int -> PositionRecord F}
    (h : Boundary trips positions user fromTs m toTs last first) :
    SplitsAt field
      (computeMovementStats user fromTs toTs (selectTrajectory trips positions user fromTs toTs))
      (computeMovementStats user fromTs m (selectTrajectory trips positions user fromTs m))
      (computeMovementStats user (m + 1) toTs
        (selectTrajectory trips positions user (m + 1) toTs))
      (crossing trips positions user fromTs m toTs)
      fun id => windowStats user (last id) (first id) := by
  unfold SplitsAt
  rw [hfield, hfield, hfield, windowSum_split hg hfrom hto h]
  congr 1
  apply Finset.sum_congr rfl
  intro id _
  show _ = field (computeMovementStats user _ _ [last id, first id])
  rw [hfield, windowSum_cons_cons, windowSum_singleton, add_zero]

omit [Bcrypt] in
theorem windowStats_zero {a b : PositionRecord F} (h : 90 < b.ts - a.ts) :
    (windowStats user a b).distanceM = 0 ∧ (windowStats user a b).movementSecs = 0 ∧
      (windowStats user a b).pauseSecs = 0 ∧ (windowStats user a b).totalSecs = 0 := by
  have hcounted : ¬ Counted a b := fun hcounted => absurd hcounted.2.2 (not_le_of_gt h)
  have hsecs : countedSecs a b = 0 := if_neg hcounted
  have hmovement : movementSecs a b = 0 := by
    rw [movementSecs, hsecs, ite_self]
  have hpause : pauseSecs a b = 0 := by
    rw [pauseSecs, hsecs, hmovement, sub_zero]
  unfold windowStats
  rw [stats_distanceM, stats_movementSecs, stats_pauseSecs_sum, stats_totalSecs]
  simp only [windowSum_cons_cons, windowSum_singleton, add_zero]
  exact ⟨if_neg fun hand => hcounted hand.1, hmovement, hpause, hsecs⟩

structure AtLeast (narrow wide : MovementStats F) : Prop where
  points : narrow.points ≤ wide.points
  distanceM : narrow.distanceM ≤ wide.distanceM
  movementSecs : narrow.movementSecs ≤ wide.movementSecs
  pauseSecs : narrow.pauseSecs ≤ wide.pauseSecs
  totalSecs : narrow.totalSecs ≤ wide.totalSecs

omit [Bcrypt] in
theorem movementMetres_nonneg
    (hdistances : forall lat1 lon1 lat2 lon2 : F, 0 ≤ Geo.haversineM lat1 lon1 lat2 lon2)
    (a b : PositionRecord F) : 0 ≤ movementMetres a b := by
  unfold movementMetres
  split
  · exact hdistances _ _ _ _
  · exact le_refl 0

theorem stats_split (c : ConnId) (s : State F) (user : String) :
    (forall fromTs m toTs, fromTs ≤ m -> m < toTs -> forall whole early late,
      Eval exec Eq c (movementStatsForUser user fromTs toTs) s (.ok whole) s ->
      Eval exec Eq c (movementStatsForUser user fromTs m) s (.ok early) s ->
      Eval exec Eq c (movementStatsForUser user (m + 1) toTs) s (.ok late) s ->
      exists (trips : Finset Int) (last first : Int -> PositionRecord F),
        (forall id, id ∈ trips <->
          (exists p, TripRow s.trips s.positions user fromTs m id p) ∧
            exists p, TripRow s.trips s.positions user (m + 1) toTs id p) ∧
        (forall id, id ∈ trips ->
          IsLast s.trips s.positions user fromTs m id (last id) ∧
            IsFirst s.trips s.positions user (m + 1) toTs id (first id)) ∧
        whole.points = early.points + late.points ∧
        SplitsAt MovementStats.distanceM whole early late trips
          (fun id => windowStats user (last id) (first id)) ∧
        SplitsAt MovementStats.movementSecs whole early late trips
          (fun id => windowStats user (last id) (first id)) ∧
        SplitsAt MovementStats.pauseSecs whole early late trips
          (fun id => windowStats user (last id) (first id)) ∧
        SplitsAt MovementStats.totalSecs whole early late trips
          (fun id => windowStats user (last id) (first id)) ∧
        forall id, id ∈ trips -> 90 < (first id).ts - (last id).ts ->
          (windowStats user (last id) (first id)).distanceM = 0 ∧
            (windowStats user (last id) (first id)).movementSecs = 0 ∧
            (windowStats user (last id) (first id)).pauseSecs = 0 ∧
            (windowStats user (last id) (first id)).totalSecs = 0) ∧
    ((forall lat1 lon1 lat2 lon2 : F, 0 ≤ Geo.haversineM lat1 lon1 lat2 lon2) ->
      forall fromTs' fromTs toTs toTs', fromTs' ≤ fromTs -> toTs ≤ toTs' ->
        forall narrow wide,
          Eval exec Eq c (movementStatsForUser user fromTs toTs) s (.ok narrow) s ->
          Eval exec Eq c (movementStatsForUser user fromTs' toTs') s (.ok wide) s ->
          AtLeast narrow wide) := by
  constructor
  · intro fromTs m toTs hfrom hto whole early late hwhole hearly hlate
    rcases eval_movementStats.mp hwhole with ⟨_, _, rfl⟩
    rcases eval_movementStats.mp hearly with ⟨_, _, rfl⟩
    rcases eval_movementStats.mp hlate with ⟨_, _, rfl⟩
    rcases exists_boundary s.trips s.positions user fromTs m toTs with ⟨last, first, h⟩
    refine ⟨crossing s.trips s.positions user fromTs m toTs, last, first, fun id => mem_crossing,
      ?_, ?_, ?_, ?_, ?_, ?_, fun id _ => windowStats_zero⟩
    · intro id hid
      exact ⟨isLast_of_getLast (h.last id hid), isFirst_of_head (h.first id hid)⟩
    · show ((selectTrajectory s.trips s.positions user fromTs toTs).length : Int) = _
      rw [length_split hfrom hto, Nat.cast_add]
      rfl
    · exact splitsAt_of_windowSum (fun _ _ _ => stats_distanceM) movementMetres_vanishes hfrom hto h
    · exact splitsAt_of_windowSum (fun _ _ _ => stats_movementSecs) movementSecs_vanishes hfrom
        hto h
    · exact splitsAt_of_windowSum (fun _ _ _ => stats_pauseSecs_sum) pauseSecs_vanishes hfrom hto h
    · exact splitsAt_of_windowSum (fun _ _ _ => stats_totalSecs) countedSecs_vanishes hfrom hto h
  · intro hdistances fromTs' fromTs toTs toTs' hfrom hto narrow wide hnarrow hwide
    rcases eval_movementStats.mp hnarrow with ⟨hinterval, _, rfl⟩
    rcases eval_movementStats.mp hwide with ⟨_, _, rfl⟩
    constructor
    · show ((selectTrajectory _ _ _ _ _).length : Int) ≤ ((selectTrajectory _ _ _ _ _).length : Int)
      rw [selectTrajectory_sublist hfrom hto]
      exact Int.ofNat_le.mpr (List.length_filter_le _ _)
    · rw [stats_distanceM, stats_distanceM]
      exact windowSum_mono movementMetres_vanishes (movementMetres_nonneg hdistances) hfrom hto
        hinterval
    · rw [stats_movementSecs, stats_movementSecs]
      exact windowSum_mono movementSecs_vanishes movementSecs_nonneg hfrom hto hinterval
    · rw [stats_pauseSecs_sum, stats_pauseSecs_sum]
      exact windowSum_mono pauseSecs_vanishes pauseSecs_nonneg hfrom hto hinterval
    · rw [stats_totalSecs, stats_totalSecs]
      exact windowSum_mono countedSecs_vanishes countedSecs_nonneg hfrom hto hinterval

end

section

attribute [local instance] plainBcrypt

theorem haversineM_nonneg (lat1 lon1 lat2 lon2 : ℝ) : 0 ≤ Geo.haversineM lat1 lon1 lat2 lon2 :=
  (haversineM_range lat1 lon1 lat2 lon2).1

/-- A database with two trips at once, each with a row on both sides of the split. -/
noncomputable def twoTripsState : State ℝ :=
  { (World.boot ∅ ∅ ∅ : World ℝ).state with trips := twoTrips, positions := twoTripsRows }

theorem stats_split_twoTrips :
    exists whole early late : MovementStats ℝ,
      Eval exec Eq 0 (movementStatsForUser "u" 1 2) twoTripsState (.ok whole) twoTripsState ∧
      Eval exec Eq 0 (movementStatsForUser "u" 1 1) twoTripsState (.ok early) twoTripsState ∧
      Eval exec Eq 0 (movementStatsForUser "u" 2 2) twoTripsState (.ok late) twoTripsState ∧
      whole.totalSecs = 2 ∧ whole.points = early.points + late.points ∧ AtLeast early whole := by
  have hwhole : Eval exec Eq 0 (movementStatsForUser "u" 1 2) twoTripsState (.ok _) _ :=
    eval_movementStats.mpr ⟨by decide, rfl, rfl⟩
  have hearly : Eval exec Eq 0 (movementStatsForUser "u" 1 1) twoTripsState (.ok _) _ :=
    eval_movementStats.mpr ⟨by decide, rfl, rfl⟩
  have hlate : Eval exec Eq 0 (movementStatsForUser "u" 2 2) twoTripsState (.ok _) _ :=
    eval_movementStats.mpr ⟨by decide, rfl, rfl⟩
  rcases stats_split 0 twoTripsState "u" with ⟨hsplit, hwiden⟩
  rcases hsplit 1 1 2 (by decide) (by decide) _ _ _ hwhole hearly hlate with
    ⟨_, _, _, _, _, hpoints, _⟩
  refine ⟨_, _, _, hwhole, hearly, hlate, ?_, hpoints, ?_⟩
  · rw [stats_totalSecs]
    exact (congrArg (windowSum countedSecs) twoTrips_trajectory).trans total_of_twoTrips
  · exact hwiden haversineM_nonneg 1 1 1 2 (by decide) (by decide) _ _ hearly hwhole

end

end Wanderust
