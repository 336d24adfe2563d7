import Wanderust.Session.Conditions
import Wanderust.Stats.Cadence

/-!
# Skipped samples and the statistics

The statistics of the stored rows are compared with those of the complete list
of samples.  They agree exactly when each stretch of skipped samples is bridged
by a window that still counts, and the seconds of movement lost and gained at
the stretches balance.
-/

namespace Wanderust

open Interleaving Prog Windows

variable {F : Type}

/-- A stored row follows the skipped samples, and the window to it still counts. -/
def Bridged (gap : Gap (PositionRecord F)) : Prop :=
  exists b, gap.after = some b ∧ b.ts - gap.before.ts ≤ maxSampleGapSecs

def Precedes (a b : PositionRecord F) : Prop :=
  a.tripId = b.tripId ∧ a.ts < b.ts

/-- A stretch never adds to the total, and leaves it as it is exactly when it is bridged. -/
theorem total_change {gap : Gap (PositionRecord F)}
    (hplaced : gap.Placed Precedes Adjacent) :
    gap.change countedSecs PositionRecord.ts ≤ 0 ∧
      (gap.change countedSecs PositionRecord.ts = 0 <-> Bridged gap) := by
  have hlast : gap.before.tripId = gap.last.tripId ∧ gap.before.ts < gap.last.ts := hplaced.last
  cases hafter : gap.after with
  | none =>
      have hopen : ¬ Bridged gap := by
        intro h
        rcases h with ⟨b, hb, _⟩
        rw [hafter] at hb
        cases hb
      simp only [Gap.change, hafter, hopen, iff_false]
      omega
  | some b =>
      have hfollows : Counted gap.last b := (hplaced.after b hafter).1
      have hbridged : Bridged gap <-> b.ts - gap.before.ts ≤ maxSampleGapSecs := by
        simp [Bridged, hafter]
      have hlastWindow : countedSecs gap.last b = b.ts - gap.last.ts :=
        countedSecs_of_counted hfollows
      have hpositive := hfollows.2.1
      simp only [Gap.change, hafter, hlastWindow, hbridged]
      by_cases hcounted : Counted gap.before b
      · have hgap := hcounted.2.2
        rw [countedSecs_of_counted hcounted]
        omega
      · have hgap : ¬ b.ts - gap.before.ts ≤ maxSampleGapSecs := by
          intro hle
          exact hcounted ⟨hlast.1.trans hfollows.1, by omega, hle⟩
        rw [countedSecs, if_neg hcounted]
        omega

theorem sum_of_nonpos {terms : List Int} (h : forall x, x ∈ terms -> x ≤ 0) :
    terms.sum ≤ 0 ∧ (terms.sum = 0 <-> forall x, x ∈ terms -> x = 0) := by
  induction terms with
  | nil => simp
  | cons x rest ih =>
      have hx := h x List.mem_cons_self
      have hrest := ih fun y hy => h y (List.mem_cons_of_mem x hy)
      rw [List.sum_cons, List.forall_mem_cons, ← hrest.2]
      omega

variable [Geo F]

/--
The seconds of movement in the window that bridges the skipped samples, less
those in the window from the last skipped sample.
-/
def movementShift (gap : Gap (PositionRecord F)) : Int :=
  match gap.after with
  | none => 0
  | some b =>
      (if coordsEqual gap.before.lat gap.before.lon b.lat b.lon then 0
        else b.ts - gap.before.ts) -
        (if coordsEqual gap.last.lat gap.last.lon b.lat b.lon then 0 else b.ts - gap.last.ts)

structure SameSeconds (a b : MovementStats F) : Prop where
  total : a.totalSecs = b.totalSecs
  pause : a.pauseSecs = b.pauseSecs
  movement : a.movementSecs = b.movementSecs

def skippedStretches (tripId : Int) (start : Sample F) (samples : List (Sample F)) :
    List (Gap (PositionRecord F)) :=
  gaps (tripItems tripId start samples)

/-! # The windows of a trip -/

variable {tripId : Int} {start : Sample F} {samples : List (Sample F)}

theorem total_dropsEvenly (hcadence : Cadence start samples) :
    List.IsChain (DropsEvenly countedSecs PositionRecord.ts)
      (tripItems tripId start samples) := by
  apply (tripItems_adjacent hcadence tripId).imp
  intro a b hadjacent _
  exact countedSecs_of_counted hadjacent.1

theorem movement_dropsEvenly (hcadence : Cadence start samples) :
    List.IsChain (DropsEvenly movementSecs fun _ => 0) (tripItems tripId start samples) := by
  apply (tripItems_adjacent hcadence tripId).imp_of_mem_imp
  intro a b _ hb _ hskipped
  rw [movementSecs, isPause, stopped_of_mem_tripItems hb hskipped]
  rfl

/-! # What a stretch changes -/

theorem stretch_placed (hcadence : Cadence start samples) {gap : Gap (PositionRecord F)}
    (hgap : gap ∈ skippedStretches tripId start samples) :
    gap.Placed Precedes Adjacent := by
  refine placed_of_mem_gaps ?_ ?_ (tripItems_adjacent hcadence tripId) hgap
  · intro a b d h h'
    rcases h with ⟨htrip, hlt⟩
    rcases h' with ⟨⟨htrip', hpos, _⟩, _⟩
    exact ⟨htrip.trans htrip', by omega⟩
  · intro a b h
    rcases h with ⟨⟨htrip, hpos, _⟩, _⟩
    exact ⟨htrip, by omega⟩

theorem movement_change {gap : Gap (PositionRecord F)}
    (hplaced : gap.Placed Precedes Adjacent)
    (hbridged : Bridged gap) : gap.change movementSecs (fun _ => 0) = movementShift gap := by
  rcases hbridged with ⟨b, hafter, hgap⟩
  have hlast : gap.before.tripId = gap.last.tripId ∧ gap.before.ts < gap.last.ts := hplaced.last
  have hfollows : Counted gap.last b := (hplaced.after b hafter).1
  have hpositive := hfollows.2.1
  have hlastWindow : countedSecs gap.last b = b.ts - gap.last.ts :=
    countedSecs_of_counted hfollows
  have hwindow : countedSecs gap.before b = b.ts - gap.before.ts :=
    countedSecs_of_counted ⟨hlast.1.trans hfollows.1, by omega, hgap⟩
  have hflag : b.stopped = false := (hplaced.after b hafter).2 rfl rfl
  simp [Gap.change, movementShift, movementSecs, isPause, hafter, hlastWindow, hwindow, hflag]

theorem sameSeconds_iff (hcadence : Cadence start samples) (user : String) (fromTs toTs : Int) :
    SameSeconds (computeMovementStats user fromTs toTs (storedRows tripId start samples))
        (computeMovementStats user fromTs toTs (completeRows tripId start samples)) <->
      (forall gap, gap ∈ skippedStretches tripId start samples -> Bridged gap) ∧
        ((skippedStretches tripId start samples).map movementShift).sum = 0 := by
  have htotal : windowSum countedSecs (storedRows tripId start samples) =
      windowSum countedSecs (completeRows tripId start samples) +
        ((skippedStretches tripId start samples).map
          (Gap.change countedSecs PositionRecord.ts)).sum :=
    windowSum_kept rfl (total_dropsEvenly hcadence)
  have hmovement : windowSum movementSecs (storedRows tripId start samples) =
      windowSum movementSecs (completeRows tripId start samples) +
        ((skippedStretches tripId start samples).map
          (Gap.change movementSecs fun _ => 0)).sum :=
    windowSum_kept rfl (movement_dropsEvenly hcadence)
  have hbridged : ((skippedStretches tripId start samples).map
      (Gap.change countedSecs PositionRecord.ts)).sum = 0 <->
        forall gap, gap ∈ skippedStretches tripId start samples -> Bridged gap := by
    rw [(sum_of_nonpos _).2, List.forall_mem_map]
    · exact forall₂_congr fun gap hgap => (total_change (stretch_placed hcadence hgap)).2
    · rw [List.forall_mem_map]
      exact fun gap hgap => (total_change (stretch_placed hcadence hgap)).1
  have hshift : (forall gap, gap ∈ skippedStretches tripId start samples -> Bridged gap) ->
      (skippedStretches tripId start samples).map (Gap.change movementSecs fun _ => 0) =
        (skippedStretches tripId start samples).map movementShift := by
    intro hall
    exact List.map_congr_left fun gap hgap =>
      movement_change (stretch_placed hcadence hgap) (hall gap hgap)
  constructor
  · intro hsame
    have htotalSame := hsame.total
    have hmovementSame := hsame.movement
    rw [stats_totalSecs, stats_totalSecs, htotal] at htotalSame
    rw [stats_movementSecs, stats_movementSecs, hmovement] at hmovementSame
    have hall := hbridged.mp (by omega)
    refine ⟨hall, ?_⟩
    rw [← hshift hall]
    omega
  · intro h
    rcases h with ⟨hall, hsum⟩
    have hlost := hbridged.mpr hall
    rw [← hshift hall] at hsum
    constructor
    · rw [stats_totalSecs, stats_totalSecs, htotal, hlost, add_zero]
    · rw [stats_pauseSecs, stats_pauseSecs, htotal, hmovement, hlost, hsum, add_zero, add_zero]
    · rw [stats_movementSecs, stats_movementSecs, hmovement, hsum, add_zero]

/-- The statistics of a single trip are those of all its samples, on this condition only. -/
theorem skipping_exact [Bcrypt] {c : ConnId} {user : String} {fromTs toTs : Int}
    {s s' s'' : State F} {stats : MovementStats F} (hkeys : ForeignKeys s)
    (hrun : TripRun c user tripId start samples s s') (hsingle : SingleTrip s'.trips user tripId)
    (hcadence : Cadence start samples) (hcovers : Covers fromTs toTs start samples)
    (hstats : Eval exec Eq c (movementStatsForUser user fromTs toTs) s' (.ok stats) s'') :
    SameSeconds stats
        (computeMovementStats user fromTs toTs (completeRows tripId start samples)) <->
      (forall gap, gap ∈ skippedStretches tripId start samples -> Bridged gap) ∧
        ((skippedStretches tripId start samples).map movementShift).sum = 0 := by
  rcases eval_movementStats.mp hstats with ⟨_, _, hstats⟩
  rw [hstats, tripRun_trajectory hkeys hrun hsingle hcadence.increasing hcovers]
  exact sameSeconds_iff hcadence user fromTs toTs

/-! # A vehicle that stands still -/

section

attribute [local instance] plainBcrypt

/-- The last of these samples is flagged, and none is skipped. -/
def shortStop : List (Sample ℝ) := [60, 90, 120, 150, 180, 210].map origin

/-- The last of these samples is skipped. -/
def longStop : List (Sample ℝ) := [60, 90, 120, 150, 180, 210, 240].map origin

theorem shortStop_stretches : skippedStretches 1 (origin 30) shortStop = [] := by
  simp [skippedStretches, tripItems, tripObservations, shortStop, origin, observations,
    CoordState.observation, CoordState.observe, CoordState.started, coordsEqual_self,
    stopThresholdSamples, Observation.item, Observation.isStored, startObservation, gaps,
    gapsFrom]

theorem longStop_items : tripItems 1 (origin 30) longStop =
    [30, 60, 90, 120, 150, 180].map
        (fun ts => { value := ⟨1, ts, 0, 0, false⟩, isKept := true }) ++
      [{ value := ⟨1, 210, 0, 0, true⟩, isKept := true },
        { value := ⟨1, 240, 0, 0, true⟩, isKept := false }] := by
  simp [tripItems, tripObservations, longStop, origin, observations, CoordState.observation,
    CoordState.observe, CoordState.started, coordsEqual_self, stopThresholdSamples,
    Observation.item, Observation.row, Observation.isStored, startObservation]

theorem skipping_exact_shortStop : exists s' stats,
    TripRun 0 "u" 1 (origin 30) shortStop (newcomer ℝ "u") s' ∧
      Eval exec Eq 0 (movementStatsForUser "u" 30 210) s' (.ok stats) s' ∧
      SameSeconds stats
        (computeMovementStats "u" 30 210 (completeRows 1 (origin 30) shortStop)) := by
  have hcadence : Cadence (origin 30) shortStop := by
    simp [Cadence, shortStop, origin, maxSampleGapSecs]
  have hcovers : Covers 30 210 (origin 30) shortStop := by
    simp [Covers, shortStop, origin]
  rcases newcomer_answer 0 "u" 1 hcadence.increasing (by decide : (30 : Int) ≤ 210)
    with ⟨s', hrun, hsingle, hstats⟩
  refine ⟨s', _, hrun, hstats,
    (skipping_exact (newcomer_foreignKeys "u") hrun hsingle hcadence hcovers hstats).mpr ?_⟩
  rw [shortStop_stretches]
  simp

/-- Seven samples after the start, all at one place and 30 seconds apart, lose 30 seconds. -/
theorem skipping_loses_seconds : exists s' stats,
    Cadence (origin 30) longStop ∧ Covers 30 240 (origin 30) longStop ∧
      TripRun 0 "u" 1 (origin 30) longStop (newcomer ℝ "u") s' ∧ SingleTrip s'.trips "u" 1 ∧
      Eval exec Eq 0 (movementStatsForUser "u" 30 240) s' (.ok stats) s' ∧
      stats.totalSecs = 180 ∧
      (computeMovementStats "u" 30 240 (completeRows 1 (origin 30) longStop)).totalSecs = 210 := by
  have hcadence : Cadence (origin 30) longStop := by
    simp [Cadence, longStop, origin, maxSampleGapSecs]
  have hcovers : Covers 30 240 (origin 30) longStop := by
    simp [Covers, longStop, origin]
  rcases newcomer_answer 0 "u" 1 hcadence.increasing (by decide : (30 : Int) ≤ 240)
    with ⟨s', hrun, hsingle, hstats⟩
  refine ⟨s', _, hcadence, hcovers, hrun, hsingle, hstats, ?_, ?_⟩
  · rw [tripRun_trajectory (newcomer_foreignKeys "u") hrun hsingle hcadence.increasing hcovers,
      stats_totalSecs, storedRows, longStop_items]
    simp [kept, countedSecs, Counted, maxSampleGapSecs]
  · rw [stats_totalSecs, completeRows, longStop_items]
    simp [countedSecs, Counted, maxSampleGapSecs]

end

end Wanderust
