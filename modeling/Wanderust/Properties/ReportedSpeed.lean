import Mathlib.Analysis.Real.Pi.Bounds
import Wanderust.Geometry.GreatCircle
import Wanderust.Properties.Distances
import Wanderust.Session.Conditions
import Wanderust.Stats.Answers
import Wanderust.Stats.PerTrip
import Wanderust.Windows.Paths

/-!
# The speed that is reported

The distance of the server obeys the triangle inequality.  So what it reports of
the only trip of a user, whose samples were sent in the order of their times, is
no longer than the way of the samples and no faster than they are, whichever of
the samples have been stored.
-/

namespace Wanderust

open Interleaving Prog Windows Geometry Haversine

/-! # The distance -/

theorem haversineM_eq_arc (lat1 lon1 lat2 lon2 : ℝ) : haversineM lat1 lon1 lat2 lon2 =
    6371000 * (earthPoint lat1 lon1).arc (earthPoint lat2 lon2) := by
  unfold earthPoint
  rw [haversineM_eq_sim, sim_haversineM, squareHalfChord_eq, arc_eq]
  ring

theorem haversineM_triangle (lat1 lon1 lat2 lon2 lat3 lon3 : ℝ) :
    haversineM lat1 lon1 lat3 lon3 ≤
      haversineM lat1 lon1 lat2 lon2 + haversineM lat2 lon2 lat3 lon3 := by
  rw [haversineM_eq_arc, haversineM_eq_arc, haversineM_eq_arc, ← mul_add]
  exact mul_le_mul_of_nonneg_left (SpherePoint.arc_triangle _ _ _) (by norm_num)

/-! # Samples -/

noncomputable def Sample.metresTo (p q : Sample ℝ) : ℝ := Geo.haversineM p.lat p.lon q.lat q.lon

/-- The way of the samples, in metres. -/
noncomputable def wayM (samples : List (Sample ℝ)) : ℝ := windowSum Sample.metresTo samples

theorem metresTo_isDistance : IsDistance Sample.metresTo where
  nonneg p q := (haversineM_range p.lat p.lon q.lat q.lon).1
  triangle p q r := haversineM_triangle p.lat p.lon q.lat q.lon r.lat r.lon

def WithinSpeed (speedMps : ℝ) (p q : Sample ℝ) : Prop :=
  p.metresTo q ≤ speedMps * ((q.ts - p.ts : Int) : ℝ)

theorem WithinSpeed.trans {speedMps : ℝ} {p q r : Sample ℝ} (h : WithinSpeed speedMps p q)
    (h' : WithinSpeed speedMps q r) : WithinSpeed speedMps p r := by
  have htime : speedMps * ((r.ts - p.ts : Int) : ℝ) =
      speedMps * ((q.ts - p.ts : Int) : ℝ) + speedMps * ((r.ts - q.ts : Int) : ℝ) := by
    push_cast
    ring
  unfold WithinSpeed
  rw [htime]
  exact (metresTo_isDistance.triangle p q r).trans (add_le_add h h')

/-! # Rows -/

variable {F : Type}

def PositionRecord.sample (r : PositionRecord F) : Sample F :=
  { lat := r.lat, lon := r.lon, ts := r.ts }

section

variable [Geo F]

theorem samples_completeRows (tripId : Int) (start : Sample F) (samples : List (Sample F)) :
    (completeRows tripId start samples).map PositionRecord.sample = start :: samples := by
  have hobserved (coord : CoordState F) (samples : List (Sample F)) :
      (observations coord samples).map (fun o => (o.row tripId).sample) = samples := by
    induction samples generalizing coord with
    | nil => rfl
    | cons p rest ih =>
        rw [observations, List.map_cons, ih]
        rfl
  simp only [completeRows, tripItems, tripObservations, List.map_cons, List.map_map]
  exact congrArg (List.cons start) (hobserved _ samples)

theorem tripRun_trajectory_sublist [Bcrypt] {c : ConnId} {user : String} {tripId : Int}
    {fromTs toTs : Int} {start : Sample F} {samples : List (Sample F)} {s s' : State F}
    (hkeys : ForeignKeys s) (hrun : TripRun c user tripId start samples s s')
    (hsingle : SingleTrip s'.trips user tripId) (hincreasing : Increasing start samples) :
    (selectTrajectory s'.trips s'.positions user fromTs toTs).Sublist
      (completeRows tripId start samples) := by
  have hholds := tripRun_holds hkeys hrun
  have htrajectory : selectTrajectory s'.trips s'.positions user fromTs toTs =
      (storedRows tripId start samples).filter fun p =>
        decide (fromTs ≤ p.ts ∧ p.ts ≤ toTs) := by
    apply selectTrajectory_eq
    · exact ((completeRows_sorted hincreasing tripId).sublist (storedRows_sublist _ _ _)).sublist
        List.filter_sublist
    · intro p
      rw [List.mem_filter, decide_eq_true_eq]
      constructor
      · intro h
        have htrip := trip_of_mem_completeRows ((storedRows_sublist _ _ _).subset h.1)
        refine ⟨(hholds.rows p htrip).mpr h.1, ?_, h.2⟩
        rw [htrip]
        exact hholds.ownedBy
      · intro h
        exact ⟨(hholds.rows p (hsingle _ h.2.1)).mp h.1, h.2.2⟩
  rw [htrajectory]
  exact List.filter_sublist.trans (storedRows_sublist _ _ _)

end

/-! # Statistics -/

theorem movementMetres_le (a b : PositionRecord ℝ) :
    movementMetres a b ≤ a.sample.metresTo b.sample := by
  unfold movementMetres
  split
  · exact le_refl _
  · exact metresTo_isDistance.nonneg _ _

theorem movementMetres_le_speed {speedMps : ℝ} {a b : PositionRecord ℝ}
    (h : WithinSpeed speedMps a.sample b.sample) :
    movementMetres a b ≤ speedMps * ((movementSecs a b : Int) : ℝ) := by
  unfold movementMetres movementSecs
  by_cases hcounted : Counted a b
  · rw [countedSecs_of_counted hcounted]
    cases hpause : isPause a b with
    | true => simp
    | false =>
        rw [if_pos ⟨hcounted, rfl⟩, if_neg Bool.false_ne_true]
        exact h
  · rw [if_neg fun hand => hcounted hand.1, countedSecs, if_neg hcounted, ite_self,
      Int.cast_zero, mul_zero]

section

variable {username : String} {fromTs toTs : Int} {points : List (PositionRecord ℝ)}

theorem windowSum_samples (points : List (PositionRecord ℝ)) :
    windowSum (fun a b => a.sample.metresTo b.sample) points =
      wayM (points.map PositionRecord.sample) := by
  unfold wayM
  induction points with
  | nil => rfl
  | cons a rest ih =>
      cases rest with
      | nil => rfl
      | cons b rest =>
          rw [windowSum_cons_cons, ih]
          rfl

theorem distanceM_le_way : (computeMovementStats username fromTs toTs points).distanceM ≤
    wayM (points.map PositionRecord.sample) := by
  rw [stats_distanceM, ← windowSum_samples]
  exact windowSum_le (List.pairwise_of_forall movementMetres_le).isChain

theorem distanceM_le_speed {speedMps : ℝ}
    (h : (points.map PositionRecord.sample).Pairwise (WithinSpeed speedMps)) :
    (computeMovementStats username fromTs toTs points).distanceM ≤ speedMps *
      ((computeMovementStats username fromTs toTs points).movementSecs : ℝ) := by
  have hsum : windowSum (fun a b => speedMps * ((movementSecs a b : Int) : ℝ)) points =
      speedMps * ((windowSum movementSecs points : Int) : ℝ) :=
    windowSum_map ((AddMonoidHom.mulLeft speedMps).comp (Int.castAddHom ℝ)) movementSecs points
  rw [stats_distanceM, stats_movementSecs, ← hsum]
  exact windowSum_le ((List.pairwise_map.mp h).isChain.imp fun _ _ => movementMetres_le_speed)

theorem avgSpeedMps_le {speedMps : ℝ} (hspeed : 0 ≤ speedMps)
    (h : (points.map PositionRecord.sample).Pairwise (WithinSpeed speedMps)) :
    (computeMovementStats username fromTs toTs points).avgSpeedMps ≤ speedMps := by
  have hdistance : (computeMovementStats username fromTs toTs points).distanceM ≤ _ :=
    distanceM_le_speed h
  unfold computeMovementStats at hdistance ⊢
  dsimp only at hdistance ⊢
  split
  case isTrue hmoved => exact (div_le_iff₀ (by exact_mod_cast hmoved)).mpr hdistance
  case isFalse => exact hspeed

end

section

variable [Bcrypt] {c : ConnId} {user : String} {tripId fromTs toTs : Int}
variable {start : Sample ℝ} {samples : List (Sample ℝ)} {s s' s'' : State ℝ}
variable {stats : MovementStats ℝ}

theorem eval_movementStats_part (hkeys : ForeignKeys s)
    (hrun : TripRun c user tripId start samples s s') (hsingle : SingleTrip s'.trips user tripId)
    (hincreasing : Increasing start samples)
    (hstats : Eval exec Eq c (movementStatsForUser user fromTs toTs) s' (.ok stats) s'') :
    exists points : List (PositionRecord ℝ), stats = computeMovementStats user fromTs toTs points ∧
      (points.map PositionRecord.sample).Sublist (start :: samples) := by
  rcases eval_movementStats.mp hstats with ⟨_, _, hanswer⟩
  have hsub : (selectTrajectory s'.trips s'.positions user fromTs toTs).Sublist
      (completeRows tripId start samples) :=
    tripRun_trajectory_sublist hkeys hrun hsingle hincreasing
  have hpart := hsub.map PositionRecord.sample
  rw [samples_completeRows] at hpart
  exact ⟨_, hanswer, hpart⟩

theorem reported_distance (hkeys : ForeignKeys s)
    (hrun : TripRun c user tripId start samples s s') (hsingle : SingleTrip s'.trips user tripId)
    (hincreasing : Increasing start samples)
    (hstats : Eval exec Eq c (movementStatsForUser user fromTs toTs) s' (.ok stats) s'') :
    stats.distanceM ≤ wayM (start :: samples) := by
  rcases eval_movementStats_part hkeys hrun hsingle hincreasing hstats with ⟨points, rfl, hpart⟩
  exact distanceM_le_way.trans (metresTo_isDistance.path_le hpart)

/-- No interval makes the way longer, or the trip faster than the fastest step of this way. -/
theorem reported_speed (hkeys : ForeignKeys s)
    (hrun : TripRun c user tripId start samples s s') (hsingle : SingleTrip s'.trips user tripId)
    (hincreasing : Increasing start samples)
    (hstats : Eval exec Eq c (movementStatsForUser user fromTs toTs) s' (.ok stats) s'') :
    stats.distanceM ≤ wayM (start :: samples) ∧
      forall speedMps, List.IsChain (WithinSpeed speedMps) (start :: samples) ->
        stats.distanceM ≤ speedMps * (stats.movementSecs : ℝ) ∧
          (0 ≤ speedMps -> stats.avgSpeedMps ≤ speedMps) := by
  refine ⟨reported_distance hkeys hrun hsingle hincreasing hstats, ?_⟩
  intro speedMps hsteps
  rcases eval_movementStats_part hkeys hrun hsingle hincreasing hstats with ⟨points, rfl, hpart⟩
  have htrans : Trans (WithinSpeed speedMps) (WithinSpeed speedMps) (WithinSpeed speedMps) :=
    ⟨WithinSpeed.trans⟩
  have hpairs := (List.isChain_iff_pairwise.mp hsteps).sublist hpart
  exact ⟨distanceM_le_speed hpairs, fun hspeed => avgSpeedMps_le hspeed hpairs⟩

end

section

attribute [local instance] plainBcrypt

noncomputable def northward (lat : ℝ) (ts : Int) : Sample ℝ := { lat, lon := 0, ts }

theorem withinSpeed_northward : WithinSpeed 1 (northward 0 30) (northward (1 / 10000) 60) := by
  have hmetres : (northward 0 30).metresTo (northward (1 / 10000) 60) =
      6371000 * toRadians (1 / 10000 - 0) :=
    haversineM_meridian 0 (by norm_num [northward]) (by norm_num [northward])
  have htime :
      (1 : ℝ) * (((northward (1 / 10000) 60).ts - (northward 0 30).ts : Int) : ℝ) = 30 := by
    norm_num [northward]
  unfold WithinSpeed
  rw [hmetres, htime, toRadians]
  have hpi := Real.pi_lt_d2
  linarith

theorem reported_speed_northward : exists s' stats,
    TripRun 0 "u" 1 (northward 0 30) [northward (1 / 10000) 60] (newcomer ℝ "u") s' ∧
      Eval exec Eq 0 (movementStatsForUser "u" 0 100) s' (.ok stats) s' ∧
      stats.distanceM ≤ (northward 0 30).metresTo (northward (1 / 10000) 60) ∧
      stats.avgSpeedMps ≤ 1 := by
  have hincreasing : Increasing (northward 0 30) [northward (1 / 10000) 60] := by
    simp [Increasing, northward]
  have hinterval : (0 : Int) ≤ 100 := by decide
  rcases newcomer_answer 0 "u" 1 hincreasing hinterval with ⟨s', hrun, hsingle, hstats⟩
  have h := reported_speed (newcomer_foreignKeys "u") hrun hsingle hincreasing hstats
  have hway : wayM [northward 0 30, northward (1 / 10000) 60] =
      (northward 0 30).metresTo (northward (1 / 10000) 60) := by
    rw [wayM, windowSum_cons_cons, windowSum_singleton, add_zero]
  rw [hway] at h
  exact ⟨s', _, hrun, hstats, h.1,
    (h.2 1 (List.isChain_pair.mpr withinSpeed_northward)).2 zero_le_one⟩

end

end Wanderust
