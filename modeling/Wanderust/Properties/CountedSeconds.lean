import Mathlib.Algebra.BigOperators.Intervals
import Mathlib.Algebra.Order.Group.Int
import Mathlib.Data.Int.Interval
import Wanderust.Session.Conditions
import Wanderust.Stats.Answers
import Wanderust.Stats.PerTrip
import Wanderust.Stats.Requests

/-!
# How often a second is counted

The total of the statistics is a sum over the seconds of the queried interval.
A second is counted at most once for each trip that is under way then.
-/

namespace Wanderust

open Interleaving Prog Windows

variable {F : Type}

/-- The second that ends at `t` lies in the window. -/
def Spans (t : Int) (a b : PositionRecord F) : Prop :=
  a.ts < t ∧ t ≤ b.ts

instance (t : Int) (a b : PositionRecord F) : Decidable (Spans t a b) :=
  inferInstanceAs (Decidable (_ ∧ _))

/-- How many of the counted windows contain the second that ends at `t`. -/
def timesCounted (t : Int) : List (PositionRecord F) -> Nat
  | a :: b :: rest => (if Counted a b ∧ Spans t a b then 1 else 0) + timesCounted t (b :: rest)
  | _ => 0

/-- The trip has a row before the second and a row that is not before it. -/
def UnderWay (rows : List (PositionRecord F)) (t tripId : Int) : Prop :=
  exists a, a ∈ rows ∧ exists b, b ∈ rows ∧ a.tripId = tripId ∧ b.tripId = tripId ∧ Spans t a b

instance (rows : List (PositionRecord F)) (t tripId : Int) : Decidable (UnderWay rows t tripId) :=
  inferInstanceAs (Decidable (exists a, a ∈ rows ∧ exists b, b ∈ rows ∧ _))

def tripsUnderWay (rows : List (PositionRecord F)) (t : Int) : Finset Int :=
  (tripsOf rows).filter (UnderWay rows t)

/-! # One trip counts a second once -/

theorem mem_tripsUnderWay {rows : List (PositionRecord F)} {t tripId : Int} :
    tripId ∈ tripsUnderWay rows t <-> UnderWay rows t tripId := by
  rw [tripsUnderWay, Finset.mem_filter, and_iff_right_iff_imp]
  intro h
  rcases h with ⟨a, ha, b, _, rfl, _⟩
  rw [tripsOf, List.mem_toFinset]
  exact List.mem_map_of_mem ha

theorem UnderWay.cons {rows : List (PositionRecord F)} {t tripId : Int} (a : PositionRecord F)
    (h : UnderWay rows t tripId) : UnderWay (a :: rows) t tripId := by
  rcases h with ⟨x, hx, y, hy, hrest⟩
  exact ⟨x, List.mem_cons_of_mem a hx, y, List.mem_cons_of_mem a hy, hrest⟩

theorem not_underWay_behind {a b : PositionRecord F} {rest : List (PositionRecord F)} {t : Int}
    (hsorted : (b :: rest).Pairwise PositionRecord.Before) (htrip : a.tripId = b.tripId)
    (hspans : Spans t a b) : ¬ UnderWay (b :: rest) t a.tripId := by
  intro h
  rcases h with ⟨x, hx, y, _, hxtrip, _, hxy⟩
  have hend : b.ts ≤ x.ts := by
    rcases List.mem_cons.mp hx with rfl | hrest
    · exact le_refl _
    · rcases (List.pairwise_cons.mp hsorted).1 x hrest with hlt | ⟨_, hlt⟩
      · rw [hxtrip, htrip] at hlt
        exact absurd hlt (lt_irrefl _)
      · exact hlt.le
  have hbefore := hxy.1
  have hlast := hspans.2
  omega

/-- The induction follows the rows: each window that counts takes one trip out of the way. -/
theorem timesCounted_le {rows : List (PositionRecord F)} (t : Int)
    (hsorted : rows.Pairwise PositionRecord.Before) :
    timesCounted t rows ≤ (tripsUnderWay rows t).card := by
  induction rows with
  | nil => exact Nat.zero_le _
  | cons a rest ih =>
      cases rest with
      | nil => exact Nat.zero_le _
      | cons b rest =>
          have hrest := ih hsorted.tail
          have hsub : tripsUnderWay (b :: rest) t ⊆ tripsUnderWay (a :: b :: rest) t := by
            intro id hid
            rw [mem_tripsUnderWay] at *
            exact hid.cons a
          by_cases hwindow : Counted a b ∧ Spans t a b
          · have hnot : a.tripId ∉ tripsUnderWay (b :: rest) t := by
              rw [mem_tripsUnderWay]
              exact not_underWay_behind hsorted.tail hwindow.1.1 hwindow.2
            have hmem : a.tripId ∈ tripsUnderWay (a :: b :: rest) t := by
              rw [mem_tripsUnderWay]
              exact ⟨a, by simp, b, by simp, rfl, hwindow.1.1.symm, hwindow.2⟩
            have hcard := Finset.card_lt_card ((Finset.ssubset_iff_of_subset hsub).mpr
              ⟨a.tripId, hmem, hnot⟩)
            rw [timesCounted, if_pos hwindow]
            omega
          · have hcard := Finset.card_le_card hsub
            rw [timesCounted, if_neg hwindow]
            omega

/-! # The total, second by second -/

theorem sum_spans {a b : PositionRecord F} {fromTs toTs : Int} (hfrom : fromTs ≤ a.ts)
    (hto : b.ts ≤ toTs) :
    (∑ t ∈ Finset.Ioc fromTs toTs, if Counted a b ∧ Spans t a b then (1 : Int) else 0) =
      countedSecs a b := by
  by_cases hcounted : Counted a b
  · have hseconds : (Finset.Ioc fromTs toTs).filter (fun t => Counted a b ∧ Spans t a b) =
        Finset.Ioc a.ts b.ts := by
      ext t
      simp only [Finset.mem_filter, Finset.mem_Ioc, hcounted, true_and, Spans]
      omega
    have hpositive := hcounted.2.1
    rw [Finset.sum_boole, hseconds, Int.card_Ioc, countedSecs_of_counted hcounted]
    exact Int.toNat_of_nonneg hpositive.le
  · simp [hcounted, countedSecs]

theorem total_eq_sum {rows : List (PositionRecord F)} {fromTs toTs : Int}
    (hbetween : forall p, p ∈ rows -> fromTs ≤ p.ts ∧ p.ts ≤ toTs) :
    windowSum countedSecs rows =
      ∑ t ∈ Finset.Ioc fromTs toTs, (timesCounted t rows : Int) := by
  induction rows with
  | nil => simp [timesCounted]
  | cons a rest ih =>
      cases rest with
      | nil => simp [timesCounted]
      | cons b rest =>
          have hrest := ih fun p hp => hbetween p (List.mem_cons_of_mem a hp)
          have hfrom := (hbetween a List.mem_cons_self).1
          have hto := (hbetween b (by simp)).2
          rw [windowSum_cons_cons, hrest, ← sum_spans hfrom hto, ← Finset.sum_add_distrib]
          apply Finset.sum_congr rfl
          intro t _
          rw [timesCounted]
          push_cast
          rfl

theorem total_le_of_bound {rows : List (PositionRecord F)} {fromTs toTs : Int} {bound : Nat}
    (hinterval : fromTs ≤ toTs)
    (hbetween : forall p, p ∈ rows -> fromTs ≤ p.ts ∧ p.ts ≤ toTs)
    (hbound : forall t, fromTs < t -> t ≤ toTs -> timesCounted t rows ≤ bound) :
    windowSum countedSecs rows ≤ bound * (toTs - fromTs) := by
  have hsum : ∑ t ∈ Finset.Ioc fromTs toTs, (timesCounted t rows : Int) ≤
      ∑ _t ∈ Finset.Ioc fromTs toTs, (bound : Int) :=
    Finset.sum_le_sum fun t ht => by
      rw [Finset.mem_Ioc] at ht
      exact Int.ofNat_le.mpr (hbound t ht.1 ht.2)
  rw [Finset.sum_const, Int.card_Ioc, nsmul_eq_mul,
    Int.toNat_of_nonneg (sub_nonneg.mpr hinterval)] at hsum
  rw [total_eq_sum hbetween, mul_comm]
  exact hsum

/--
The total counts each second once for each trip that is under way, at most.  So
it is bounded by the length of the interval when trips do not overlap, and by
that length times the number of trips in general.
-/
structure CountedPerTrip (rows : List (PositionRecord F)) (fromTs toTs total : Int) : Prop where
  seconds : total = ∑ t ∈ Finset.Ioc fromTs toTs, (timesCounted t rows : Int)
  once : forall t, timesCounted t rows ≤ (tripsUnderWay rows t).card
  bound : total ≤ (tripsOf rows).card * (toTs - fromTs)
  apart : (forall t, fromTs < t -> t ≤ toTs -> (tripsUnderWay rows t).card ≤ 1) ->
    total ≤ toTs - fromTs

theorem countedPerTrip {rows : List (PositionRecord F)} {fromTs toTs : Int}
    (hinterval : fromTs ≤ toTs) (hsorted : rows.Pairwise PositionRecord.Before)
    (hbetween : forall p, p ∈ rows -> fromTs ≤ p.ts ∧ p.ts ≤ toTs) :
    CountedPerTrip rows fromTs toTs (windowSum countedSecs rows) := by
  refine ⟨total_eq_sum hbetween, fun t => timesCounted_le t hsorted, ?_, ?_⟩
  · apply total_le_of_bound hinterval hbetween
    intro t _ _
    exact (timesCounted_le t hsorted).trans (Finset.card_le_card (Finset.filter_subset _ _))
  · intro hapart
    have hbound : windowSum countedSecs rows ≤ ((1 : Nat) : Int) * (toTs - fromTs) :=
      total_le_of_bound hinterval hbetween fun t hfrom hto =>
        (timesCounted_le t hsorted).trans (hapart t hfrom hto)
    rw [Nat.cast_one, one_mul] at hbound
    exact hbound

theorem total_counts_per_trip [Geo F] [Bcrypt] {c : ConnId} {user : String}
    {fromTs toTs : Int} {s s' : State F}
    {stats : MovementStats F}
    (h : Eval exec Eq c (movementStatsForUser user fromTs toTs) s (.ok stats) s') :
    CountedPerTrip (selectTrajectory s.trips s.positions user fromTs toTs) fromTs toTs
      stats.totalSecs := by
  rcases eval_movementStats.mp h with ⟨hinterval, _, rfl⟩
  rw [stats_totalSecs]
  apply countedPerTrip hinterval (selectTrajectory_sorted _ _ _ _ _)
  intro p hp
  exact (mem_selectTrajectory.mp hp).2.2

/-! # Two trips at once -/

section

attribute [local instance] plainBcrypt

noncomputable def newUserWorld : World ℝ :=
  (World.boot ∅ ∅ ∅).after calmCheck (registerUntilReply 0 "u" "t1" ++ stepsOf 0 1)

def still (ts : Int) : Sample ℝ := { lat := 0, lon := 0, ts }

theorem newUserWorld_reachable :
    Reachable (fun _ _ => True) (World.boot ∅ ∅ ∅) newUserWorld :=
  reach_after (fun _ _ _ => trivial) _ _

/-- The tables after two trips have been started at once and given a sample each. -/
def twoTrips : Trips :=
  ((∅ : Trips).insert 1 ⟨"u", 1, none⟩).insert 2 ⟨"u", 1, none⟩

noncomputable def twoTripsRows : Positions ℝ :=
  ((((∅ : Positions ℝ).insert (1, 1) ⟨0, 0, false⟩).insert (2, 1) ⟨0, 0, false⟩).insert (1, 2)
    ⟨0, 0, false⟩).insert (2, 2) ⟨0, 0, false⟩

theorem second_sample_stored {start : Sample ℝ} (lat lon : ℝ) :
    ((CoordState.started start).observe lat lon).2.1 = .insert false := by
  cases hequal : coordsEqual start.lat start.lon lat lon <;>
    simp [CoordState.observe, CoordState.started, hequal, stopThresholdSamples]

theorem twoTrips_reachable : exists (w : World ℝ) (entries : Table Int (CoordState ℝ)),
    Waits 0 "t1" "u" newUserWorld twoTrips twoTripsRows entries w := by
  have hregistered : Waits 0 "t1" "u" newUserWorld ∅ ∅ ∅ newUserWorld :=
    ⟨Reach.refl, rfl, by rfl, ⟨by rfl, by rfl⟩, by rfl, by rfl, by rfl, by rfl⟩
  rcases hregistered.startTrip 1 (still 1) coordsInRange_zero Int.zero_lt_one rfl rfl with
    ⟨w1, h1⟩
  rcases h1.startTrip 2 (still 1) coordsInRange_zero Int.zero_lt_one rfl rfl with ⟨w2, h2⟩
  rcases h2.position 1 (still 2) coordsInRange_zero two_pos rfl rfl
    (second_sample_stored _ _) rfl with ⟨w3, h3⟩
  rcases h3.position 2 (still 2) coordsInRange_zero two_pos rfl rfl
    (second_sample_stored _ _) rfl with ⟨w4, h4⟩
  exact ⟨w4, _, h4⟩

noncomputable def twoTripsTrajectory : List (PositionRecord ℝ) :=
  [⟨1, 1, 0, 0, false⟩, ⟨1, 2, 0, 0, false⟩, ⟨2, 1, 0, 0, false⟩, ⟨2, 2, 0, 0, false⟩]

theorem twoTrips_trajectory :
    selectTrajectory twoTrips twoTripsRows "u" 1 2 = twoTripsTrajectory := by
  refine selectTrajectory_eq ?_ ?_
  · simp [twoTripsTrajectory, PositionRecord.Before]
  · intro p
    constructor
    · intro hp
      have howned : forall id, id = 1 ∨ id = 2 -> OwnedBy twoTrips "u" id := by
        intro id hid
        rcases hid with rfl | rfl
        · exact ⟨_, rfl, rfl⟩
        · exact ⟨_, rfl, rfl⟩
      simp only [twoTripsTrajectory, List.mem_cons, List.not_mem_nil, or_false] at hp
      rcases hp with rfl | rfl | rfl | rfl
      all_goals exact ⟨rfl, howned _ (by decide), by decide, by decide⟩
    · intro h
      rcases h with ⟨hrow, _⟩
      rcases p with ⟨id, ts, lat, lon, stopped⟩
      simp only [twoTripsRows, Table.lookup_insert_eq, AList.lookup_empty, PositionRecord.key,
        PositionRecord.row, Prod.mk.injEq] at hrow
      split_ifs at hrow with hkey hkey hkey hkey <;> rcases hkey with ⟨rfl, rfl⟩ <;> cases hrow <;>
        simp [twoTripsTrajectory]

theorem total_of_twoTrips : windowSum countedSecs twoTripsTrajectory = 2 := by
  simp [twoTripsTrajectory, countedSecs, Counted, maxSampleGapSecs]

/-- Both trips count the one second between the two ends of the interval. -/
theorem total_exceeds_interval : exists (w : World ℝ) (stats : MovementStats ℝ),
    Reachable (fun _ _ => True) (World.boot ∅ ∅ ∅) w ∧
      Eval exec Eq 0 (movementStatsForUser "u" 1 2) w.state (.ok stats) w.state ∧
      ¬ stats.totalSecs ≤ 2 - 1 := by
  rcases twoTrips_reachable with ⟨w, entries, hwaits⟩
  refine ⟨w, _, newUserWorld_reachable.trans hwaits.reach,
    eval_movementStats.mpr ⟨by decide, rfl, rfl⟩, ?_⟩
  rw [hwaits.trips, hwaits.positions, twoTrips_trajectory, stats_totalSecs, total_of_twoTrips]
  decide

theorem total_counts_per_trip_twoTrips : exists (w : World ℝ) (stats : MovementStats ℝ),
    Reachable (fun _ _ => True) (World.boot ∅ ∅ ∅) w ∧
      Eval exec Eq 0 (movementStatsForUser "u" 1 2) w.state (.ok stats) w.state ∧
      CountedPerTrip twoTripsTrajectory 1 2 stats.totalSecs := by
  rcases twoTrips_reachable with ⟨w, entries, hwaits⟩
  have hstats : Eval exec Eq 0 (movementStatsForUser "u" 1 2) w.state (.ok _) w.state :=
    eval_movementStats.mpr ⟨by decide, rfl, rfl⟩
  refine ⟨w, _, newUserWorld_reachable.trans hwaits.reach, hstats, ?_⟩
  have hcounted := total_counts_per_trip hstats
  rw [hwaits.trips, hwaits.positions, twoTrips_trajectory] at hcounted
  rw [hwaits.trips, hwaits.positions, twoTrips_trajectory]
  exact hcounted

end

end Wanderust
