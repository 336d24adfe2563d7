import Wanderust.Stats.PerTrip

/-!
# The statistics of several trips

The statistics of a trajectory are the sums of the statistics of its trips, in
whatever order the trips come, and no operation of the loop overflows.
-/

namespace Wanderust

open Windows PositionRecord

variable {F : Type} [Geo F] {username : String} {fromTs toTs : Int}
variable {points : List (PositionRecord F)}

/-- The statistics of the whole list are the sum of the statistics of each trip alone. -/
def AddsUp {M : Type} [AddCommMonoid M] (field : MovementStats F -> M) (username : String)
    (fromTs toTs : Int) (points : List (PositionRecord F)) : Prop :=
  field (computeMovementStats username fromTs toTs points) =
    ∑ id ∈ tripsOf points,
      field (computeMovementStats username fromTs toTs (rowsOfTrip id points))

def inOrder (ids : List Int) (points : List (PositionRecord F)) : List (PositionRecord F) :=
  ids.flatMap fun id => rowsOfTrip id points

theorem addsUp_of_windowSum {M : Type} [AddCommGroup M] {field : MovementStats F -> M}
    {g : PositionRecord F -> PositionRecord F -> M}
    (hfield : forall rows, field (computeMovementStats username fromTs toTs rows) =
      windowSum g rows)
    (hg : VanishesAcross PositionRecord.tripId g) (h : IsTrajectory points) :
    AddsUp field username fromTs toTs points := by
  unfold AddsUp tripsOf
  rw [hfield, windowSum_eq_sum_ofKey hg h.tripIds_sorted]
  apply Finset.sum_congr rfl
  intro id _
  rw [hfield]
  rfl

theorem addWindows_inOrder (h : IsTrajectory points) {ids : List Int} (hnodup : ids.Nodup)
    (hids : ids.toFinset = tripsOf points) :
    Totals.zero.addWindows (inOrder ids points) = Totals.zero.addWindows points := by
  have hreorder : forall {M : Type} [AddCommGroup M] {field : Totals F -> M}
      {g : PositionRecord F -> PositionRecord F -> M},
      (forall acc a b, field (Totals.addWindow acc a b) = field acc + g a b) ->
      VanishesAcross PositionRecord.tripId g ->
      field (Totals.zero.addWindows (inOrder ids points)) =
        field (Totals.zero.addWindows points) := by
    intro M _ field g hstep hg
    rw [addWindows_sum hstep, addWindows_sum hstep]
    congr 1
    exact windowSum_reorder hg h.tripIds_sorted hnodup hids
  have hdistance := hreorder addWindow_distanceM movementMetres_vanishes
  have hmovement := hreorder addWindow_movementSecs movementSecs_vanishes
  have hpause := hreorder addWindow_pauseSecs pauseSecs_vanishes
  have htotal := hreorder addWindow_totalSecs countedSecs_vanishes
  cases hleft : Totals.zero.addWindows (inOrder ids points)
  cases hright : Totals.zero.addWindows points
  rw [hleft, hright] at hdistance hmovement hpause htotal
  simp only [Totals.mk.injEq]
  exact ⟨hdistance, hmovement, hpause, htotal⟩

/-- The order in which the trips come makes no difference. -/
theorem stats_inOrder (h : IsTrajectory points) {ids : List Int} (hnodup : ids.Nodup)
    (hids : ids.toFinset = tripsOf points) :
    computeMovementStats username fromTs toTs (inOrder ids points) =
      computeMovementStats username fromTs toTs points := by
  have hlength : (inOrder ids points).length = points.length := by
    apply length_flatMap_ofKey points hnodup
    intro p hp
    rw [hids, tripsOf, List.mem_toFinset]
    exact List.mem_map_of_mem hp
  unfold computeMovementStats
  rw [addWindows_inOrder h hnodup hids, hlength]

theorem stats_per_trip (username : String) (fromTs toTs : Int)
    (points : List (PositionRecord F)) (h : IsTrajectory points) :
    (AddsUp MovementStats.distanceM username fromTs toTs points ∧
      AddsUp MovementStats.movementSecs username fromTs toTs points ∧
      AddsUp MovementStats.pauseSecs username fromTs toTs points ∧
      AddsUp MovementStats.totalSecs username fromTs toTs points) ∧
    (forall ids : List Int, ids.Nodup -> ids.toFinset = tripsOf points ->
      computeMovementStats username fromTs toTs (inOrder ids points) =
        computeMovementStats username fromTs toTs points) ∧
    (computeMovementStats username fromTs toTs points).totalSecs =
      (computeMovementStats username fromTs toTs points).movementSecs +
        (computeMovementStats username fromTs toTs points).pauseSecs ∧
    (forall id first rest, rowsOfTrip id points = first :: rest ->
      (computeMovementStats username fromTs toTs (rowsOfTrip id points)).totalSecs ≤
        ((first :: rest).getLast (List.cons_ne_nil first rest)).ts - first.ts ∧
      ((computeMovementStats username fromTs toTs (rowsOfTrip id points)).totalSecs =
          ((first :: rest).getLast (List.cons_ne_nil first rest)).ts - first.ts <->
        List.IsChain ShortGap (rowsOfTrip id points))) ∧
    List.IsChain (fun a b => a.tripId = b.tripId -> ¬ b.ts - a.ts ≤ 0) points ∧
    Totals.zero.addWindowsChecked points = some (Totals.zero.addWindows points) := by
  refine ⟨⟨?_, ?_, ?_, ?_⟩, ?_, ?_, ?_, ?_, ?_⟩
  · exact addsUp_of_windowSum (fun _ => stats_distanceM) movementMetres_vanishes h
  · exact addsUp_of_windowSum (fun _ => stats_movementSecs) movementSecs_vanishes h
  · exact addsUp_of_windowSum (fun _ => stats_pauseSecs_sum) pauseSecs_vanishes h
  · exact addsUp_of_windowSum (fun _ => stats_totalSecs) countedSecs_vanishes h
  · intro ids hnodup hids
    exact stats_inOrder h hnodup hids
  · rw [stats_totalSecs, stats_movementSecs, stats_pauseSecs, add_sub_cancel]
  · intro id first rest hrows
    have hchain := h.chain_of_trip id
    rw [hrows] at hchain
    rw [stats_totalSecs, hrows]
    exact ⟨tripSecs_le hchain, tripSecs_eq_iff hchain⟩
  · exact h.gap_positive.imp fun a b hgap htrip => not_le_of_gt (hgap htrip)
  · apply addWindowsChecked_eq Totals.zero_within
    · rw [zero_add]
      exact h.few
    · intro p hp
      exact ⟨h.positive p hp, h.inI64 p hp⟩

/-- Two trips that overlap in time, the first with a gap of more than 90 seconds. -/
def twoTripsPoints : List (PositionRecord ℝ) :=
  [{ tripId := 1, ts := 30, lat := 0, lon := 0, stopped := false },
    { tripId := 1, ts := 60, lat := 1, lon := 0, stopped := false },
    { tripId := 1, ts := 200, lat := 2, lon := 0, stopped := false },
    { tripId := 2, ts := 40, lat := 0, lon := 0, stopped := false },
    { tripId := 2, ts := 70, lat := 0, lon := 0, stopped := true }]

theorem stats_per_trip_twoTrips :
    AddsUp MovementStats.totalSecs "u" 0 300 twoTripsPoints ∧
      Totals.zero.addWindowsChecked twoTripsPoints =
        some (Totals.zero.addWindows twoTripsPoints) := by
  have h : IsTrajectory twoTripsPoints := by
    constructor
    · simp [twoTripsPoints, Before]
    · simp [twoTripsPoints]
    · simp [twoTripsPoints, InI64]
    · simp [twoTripsPoints]
  have hstats := stats_per_trip "u" 0 300 twoTripsPoints h
  exact ⟨hstats.1.2.2.2, hstats.2.2.2.2.2⟩

end Wanderust
