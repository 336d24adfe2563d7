import Mathlib.Analysis.Real.Pi.Bounds
import Wanderust.Session.Conditions
import Wanderust.Stats.Cadence

/-!
# Movement decided online and offline

`update_trip` compares a sample with the anchor of the standstill, and
`compute_movement_stats` compares it with the row before.  The module says when
the two agree on a pair of stored rows.
-/

namespace Wanderust

open Interleaving Prog Windows

variable {F : Type} [Geo F]

/-- The window loop adds the window to the seconds of movement. -/
def CountsAsMovement (a b : PositionRecord F) : Prop :=
  forall acc : Totals F, (acc.addWindow a b).movementSecs ≠ acc.movementSecs

def Observation.nearAnchor (o : Observation F) : Bool :=
  coordsEqual o.coord.lat o.coord.lon o.sample.lat o.sample.lon

def Observation.nearSample (o a : Observation F) : Bool :=
  coordsEqual a.sample.lat a.sample.lon o.sample.lat o.sample.lon

/-- So many samples lie near the anchor already that this one can only be flagged. -/
def Observation.atThreshold (o : Observation F) : Bool :=
  o.nearAnchor && decide (stopThresholdSamples ≤ o.coord.n)

theorem countsAsMovement_iff {a b : PositionRecord F} (hcounted : Counted a b) :
    CountsAsMovement a b <->
      b.stopped = false ∧ coordsEqual a.lat a.lon b.lat b.lon = false := by
  have hpositive : b.ts - a.ts ≠ 0 := ne_of_gt hcounted.2.1
  have hpause : isPause a b = false <->
      b.stopped = false ∧ coordsEqual a.lat a.lon b.lat b.lon = false := by
    rw [isPause, Bool.or_eq_false_iff]
  rw [← hpause]
  cases h : isPause a b with
  | true =>
      have hnot : ¬ CountsAsMovement a b := fun hmoves =>
        hmoves Totals.zero (by rw [addWindow_movementSecs, movementSecs, h, if_pos rfl, add_zero])
      simp [hnot]
  | false =>
      simp [CountsAsMovement, addWindow_movementSecs, movementSecs, h,
        countedSecs_of_counted hcounted, hpositive]

/-! # The observations of a run -/

theorem observation_of_mem {coord : CoordState F} {samples : List (Sample F)}
    {o : Observation F} (ho : o ∈ observations coord samples) :
    o = o.coord.observation o.sample := by
  induction samples generalizing coord with
  | nil => cases ho
  | cons p rest ih =>
      rcases List.mem_cons.mp ho with rfl | hrest
      · rfl
      · exact ih hrest

theorem observation_of_split {start : Sample F} {samples : List (Sample F)}
    {pre post : List (Observation F)} {a b : Observation F}
    (hsplit : tripObservations start samples = pre ++ a :: b :: post) :
    b = b.coord.observation b.sample := by
  have hmem : b ∈ observations (CoordState.started start) samples := by
    cases pre with
    | nil =>
        rw [(List.cons.inj hsplit).2]
        exact List.mem_cons_self
    | cons o pre =>
        rw [(List.cons.inj hsplit).2]
        simp
  exact observation_of_mem hmem

theorem stopped_iff_atThreshold {coord : CoordState F} {p : Sample F} {tripId : Int}
    (hstored : (coord.observation p).isStored = true) :
    ((coord.observation p).row tripId).stopped = true <->
      (coord.observation p).atThreshold = true := by
  cases hequal : coordsEqual coord.lat coord.lon p.lat p.lon with
  | false =>
      simp [CoordState.observation, CoordState.observe, Observation.row,
        Observation.atThreshold, Observation.nearAnchor, hequal]
  | true =>
      by_cases hn : coord.n < stopThresholdSamples
      · simp [CoordState.observation, CoordState.observe, Observation.row,
          Observation.atThreshold, Observation.nearAnchor, hequal, hn]
      · cases hinserted : coord.inserted with
        | true =>
            simp [CoordState.observation, CoordState.observe, Observation.isStored, hequal, hn,
              hinserted] at hstored
        | false =>
            simp [CoordState.observation, CoordState.observe, Observation.row,
              Observation.atThreshold, Observation.nearAnchor, hequal, hn, hinserted,
              not_lt.mp hn]

theorem decision_iff {a b : Observation F} {tripId : Int}
    (hcounted : Counted (a.row tripId) (b.row tripId)) (hstored : b.isStored = true)
    (hb : b = b.coord.observation b.sample) :
    (CountsAsMovement (a.row tripId) (b.row tripId) <-> b.transition = .toMoving) <->
      b.atThreshold = true ∨ b.nearSample a = b.nearAnchor := by
  have hmoving : b.transition = .toMoving <-> b.nearAnchor = false := by
    rw [hb]
    exact transition_toMoving_iff b.coord b.sample
  have hflag : (b.row tripId).stopped = true <-> b.atThreshold = true := by
    rw [hb] at hstored ⊢
    exact stopped_iff_atThreshold hstored
  have hcounts : CountsAsMovement (a.row tripId) (b.row tripId) <->
      b.atThreshold = false ∧ b.nearSample a = false := by
    rw [countsAsMovement_iff hcounted, ← Bool.not_eq_true, hflag, Bool.not_eq_true]
    rfl
  rw [hcounts, hmoving]
  cases hthreshold : b.atThreshold with
  | true =>
      have hnear : b.nearAnchor = true := by
        rw [Observation.atThreshold, Bool.and_eq_true] at hthreshold
        exact hthreshold.1
      simp [hnear]
  | false => cases b.nearSample a <;> cases b.nearAnchor <;> simp

theorem storedRows_of_split {start : Sample F} {samples : List (Sample F)}
    {pre post : List (Observation F)} {a b : Observation F} (tripId : Int)
    (hsplit : tripObservations start samples = pre ++ a :: b :: post)
    (ha : a.isStored = true) (hb : b.isStored = true) :
    storedRows tripId start samples =
      kept (pre.map (Observation.item tripId)) ++ a.row tripId :: b.row tripId ::
        kept (post.map (Observation.item tripId)) := by
  have hitems : (a.item tripId).isKept = true ∧ (b.item tripId).isKept = true := ⟨ha, hb⟩
  rw [storedRows, tripItems, hsplit, List.map_append, kept_append, List.map_cons, List.map_cons,
    kept_cons, kept_cons, if_pos hitems.1, if_pos hitems.2]
  rfl

/-- Between two stored rows of a trip, the trajectory has only rows of that trip. -/
theorem trajectory_adjacent [Bcrypt] {c : ConnId} {user : String} {tripId fromTs toTs : Int}
    {start : Sample F} {samples : List (Sample F)} {s s' : State F} {a b : Observation F}
    {pre post : List (Observation F)} (hkeys : ForeignKeys s)
    (hrun : TripRun c user tripId start samples s s') (hincreasing : Increasing start samples)
    (hsplit : tripObservations start samples = pre ++ a :: b :: post)
    (ha : a.isStored = true) (hb : b.isStored = true)
    (hfrom : fromTs ≤ a.sample.ts) (hto : b.sample.ts ≤ toTs) :
    exists before after, selectTrajectory s'.trips s'.positions user fromTs toTs =
      before ++ a.row tripId :: b.row tripId :: after := by
  have hholds := tripRun_holds hkeys hrun
  have hrows := storedRows_of_split tripId hsplit ha hb
  have hsorted := (completeRows_sorted hincreasing tripId).sublist (storedRows_sublist _ _ _)
  rw [hrows] at hsorted hholds
  have hbefore : (a.row tripId).Before (b.row tripId) := by
    rw [List.pairwise_append, List.pairwise_cons] at hsorted
    exact hsorted.2.1.1 _ List.mem_cons_self
  have hle : a.sample.ts ≤ b.sample.ts := by
    rcases hbefore with hlt | ⟨_, hlt⟩
    · exact absurd hlt (lt_irrefl tripId)
    · exact le_of_lt hlt
  refine adjacent_of_pairwise (selectTrajectory_sorted _ _ _ _ _) hsorted ?_ ?_ ?_
  · exact mem_selectTrajectory.mpr ⟨(hholds.rows (a.row tripId) rfl).mpr (by simp),
      hholds.ownedBy, hfrom, le_trans hle hto⟩
  · exact mem_selectTrajectory.mpr ⟨(hholds.rows (b.row tripId) rfl).mpr (by simp),
      hholds.ownedBy, le_trans hfrom hle, hto⟩
  · intro p hp hap hpb
    have htrip : p.tripId = tripId := by
      simp only [PositionRecord.Before, Observation.row] at hap hpb
      omega
    exact (hholds.rows p htrip).mp (mem_selectTrajectory.mp hp).1

theorem decisions_agree [Bcrypt] {c : ConnId} {user : String} {tripId fromTs toTs : Int}
    {start : Sample F} {samples : List (Sample F)} {s s' : State F} {a b : Observation F}
    {pre post : List (Observation F)} (hkeys : ForeignKeys s)
    (hrun : TripRun c user tripId start samples s s') (hcadence : Cadence start samples)
    (hsplit : tripObservations start samples = pre ++ a :: b :: post)
    (ha : a.isStored = true) (hb : b.isStored = true)
    (hfrom : fromTs ≤ a.sample.ts) (hto : b.sample.ts ≤ toTs) :
    (exists before after, selectTrajectory s'.trips s'.positions user fromTs toTs =
        before ++ a.row tripId :: b.row tripId :: after) ∧
      ((CountsAsMovement (a.row tripId) (b.row tripId) <-> b.transition = .toMoving) <->
        b.atThreshold = true ∨ b.nearSample a = b.nearAnchor) := by
  constructor
  · exact trajectory_adjacent hkeys hrun hcadence.increasing hsplit ha hb hfrom hto
  · have hchain := tripItems_adjacent hcadence tripId
    rw [tripItems, hsplit, List.map_append, List.map_cons, List.map_cons,
      List.isChain_append_cons_cons] at hchain
    exact decision_iff hchain.2.1.1 hb (observation_of_split hsplit)

/-! # A slow drift -/

section

attribute [local instance] plainBcrypt

noncomputable def northOf (lat : ℝ) (ts : Int) : Sample ℝ := { lat, lon := 0, ts }

/-- Two steps of four and a half metres to the north. -/
noncomputable def drift : List (Sample ℝ) := [northOf (4 / 100000) 60, northOf (8 / 100000) 90]

theorem near_step {lat lat' : ℝ} (hstep : lat' - lat = 4 / 100000) :
    coordsEqual lat 0 lat' 0 = true := by
  rw [coordsEqual_meridian 0 (by linarith) (by linarith), hstep]
  have hpi := Real.pi_lt_d2
  linarith

theorem far_steps : coordsEqual (0 : ℝ) 0 (8 / 100000) 0 = false := by
  rw [← Bool.not_eq_true, coordsEqual_meridian 0 (by norm_num) (by norm_num)]
  have hpi := Real.pi_gt_three
  linarith

theorem drift_cadence : Cadence (northOf 0 30) drift := by
  simp [Cadence, drift, northOf, maxSampleGapSecs]

theorem drift_covers : Covers 30 90 (northOf 0 30) drift := by
  simp [Covers, drift, northOf]

noncomputable def firstStep : Observation ℝ where
  sample := northOf (4 / 100000) 60
  coord := { lat := 0, lon := 0, n := 1, inserted := false }
  action := .insert false
  transition := .unchanged

noncomputable def secondStep : Observation ℝ where
  sample := northOf (8 / 100000) 90
  coord := { lat := 0, lon := 0, n := 2, inserted := false }
  action := .insert false
  transition := .toMoving

theorem drift_observations : tripObservations (northOf 0 30) drift =
    [startObservation (northOf 0 30), firstStep, secondStep] := by
  have hfirst : coordsEqual (0 : ℝ) 0 (4 / 100000) 0 = true := near_step (by norm_num)
  simp [tripObservations, drift, northOf, firstStep, secondStep, observations,
    CoordState.observation, CoordState.observe, CoordState.started, stopThresholdSamples, hfirst,
    far_steps]

/-- A database in which the user has an ended trip with one row. -/
noncomputable def earlierTrip : State ℝ :=
  (World.boot ((∅ : Users).insert "u" { passwordHash := "", createdAt := 0 })
    ((∅ : Trips).insert 1 { username := "u", startedAt := 30, endedAt := some 60 })
    ((∅ : Positions ℝ).insert (1, 30) ((startObservation (northOf 0 30)).row 1).row)).state

theorem earlierTrip_foreignKeys : ForeignKeys earlierTrip := by
  intro key htrip
  rw [earlierTrip, World.boot, Table.lookup_insert_eq] at htrip ⊢
  have hne : key ≠ (1, 30) := by
    intro h
    rw [h, if_pos rfl] at htrip
    cases htrip
  rw [if_neg hne]
  rfl

theorem decisions_agree_firstStep : exists s',
    TripRun 0 "u" 2 (northOf 0 30) drift earlierTrip s' ∧
      (CountsAsMovement ((startObservation (northOf 0 30)).row 2) (firstStep.row 2) <->
        firstStep.transition = .toMoving) := by
  have huser : (earlierTrip.users.lookup "u").isSome = true := by
    rw [earlierTrip, World.boot, Table.lookup_insert_eq, if_pos rfl]
    rfl
  have hid : earlierTrip.trips.lookup 2 = none := by
    rw [earlierTrip, World.boot, Table.lookup_insert_eq, if_neg (by decide)]
    rfl
  rcases attendedTrip_exists 0 earlierTrip_foreignKeys huser hid drift_cadence.increasing with
    ⟨s', hrun, _⟩
  have hsplit : tripObservations (northOf 0 30) drift =
      [] ++ startObservation (northOf 0 30) :: firstStep :: [secondStep] := drift_observations
  have hfrom : (30 : Int) ≤ (startObservation (northOf 0 30)).sample.ts := le_refl 30
  have hto : firstStep.sample.ts ≤ 60 := le_refl 60
  have hagree := decisions_agree earlierTrip_foreignKeys hrun.tripRun drift_cadence hsplit rfl rfl
    hfrom hto
  exact ⟨s', hrun.tripRun, hagree.2.mpr (Or.inr rfl)⟩

/-- The second step moves the user, but its window is counted as a pause. -/
theorem decisions_disagree : exists s',
    Cadence (northOf 0 30) drift ∧ Covers 30 90 (northOf 0 30) drift ∧
      TripRun 0 "u" 1 (northOf 0 30) drift (newcomer ℝ "u") s' ∧ SingleTrip s'.trips "u" 1 ∧
      tripObservations (northOf 0 30) drift =
        [startObservation (northOf 0 30), firstStep, secondStep] ∧
      firstStep.isStored = true ∧ secondStep.isStored = true ∧
      selectTrajectory s'.trips s'.positions "u" 30 90 =
        [(startObservation (northOf 0 30)).row 1, firstStep.row 1, secondStep.row 1] ∧
      secondStep.transition = .toMoving ∧
      ¬ CountsAsMovement (firstStep.row 1) (secondStep.row 1) := by
  rcases newcomer_tripRun 0 "u" 1 drift_cadence.increasing with ⟨s', hrun, hsingle⟩
  refine ⟨s', drift_cadence, drift_covers, hrun, hsingle, drift_observations, rfl, rfl, ?_, rfl, ?_⟩
  · rw [tripRun_trajectory (newcomer_foreignKeys "u") hrun hsingle drift_cadence.increasing
      drift_covers, storedRows, tripItems, drift_observations]
    rfl
  · intro hmoves
    have hcounted : Counted (firstStep.row 1) (secondStep.row 1) := ⟨rfl, by decide, by decide⟩
    have hfar := ((countsAsMovement_iff hcounted).mp hmoves).2
    have hnear : coordsEqual (4 / 100000 : ℝ) 0 (8 / 100000) 0 = true := near_step (by norm_num)
    exact Bool.false_ne_true (hfar.symm.trans hnear)

end

end Wanderust
