import Mathlib.Tactic.Linarith
import Wanderust.Common.Integers
import Wanderust.Stats.Seconds
import Wanderust.Stats.Trajectory
import Wanderust.Windows.Grouping

/-!
# Statistics trip by trip

The window loop never connects two trips, so each of its accumulators is a sum
over the trips of a trajectory.  The loop is also run with the additions and
subtractions of `i64` checked.
-/

namespace Wanderust

open Windows PositionRecord

variable {F : Type}

/-! # Trajectories -/

/-- What `trajectory_for_user` returns: sorted rows with distinct keys and positive times. -/
structure IsTrajectory (points : List (PositionRecord F)) : Prop where
  sorted : points.Pairwise Before
  positive : forall p, p ∈ points -> 0 < p.ts
  inI64 : forall p, p ∈ points -> InI64 p.ts
  few : points.length < 2 ^ 56

def tripsOf (rows : List (PositionRecord F)) : Finset Int :=
  (rows.map PositionRecord.tripId).toFinset

def rowsOfTrip (tripId : Int) (points : List (PositionRecord F)) : List (PositionRecord F) :=
  ofKey PositionRecord.tripId tripId points

theorem tripIds_sorted {points : List (PositionRecord F)} (h : points.Pairwise Before) :
    points.Pairwise fun a b => a.tripId ≤ b.tripId := by
  apply h.imp
  intro a b hab
  rcases hab with hlt | ⟨heq, _⟩
  · exact le_of_lt hlt
  · exact le_of_eq heq

theorem IsTrajectory.tripIds_sorted {points : List (PositionRecord F)} (h : IsTrajectory points) :
    points.Pairwise fun a b => a.tripId ≤ b.tripId :=
  Wanderust.tripIds_sorted h.sorted

theorem IsTrajectory.gap_positive {points : List (PositionRecord F)} (h : IsTrajectory points) :
    List.IsChain (fun a b => a.tripId = b.tripId -> 0 < b.ts - a.ts) points := by
  apply (h.sorted.imp _).isChain
  intro a b hab htrip
  rcases hab with hlt | ⟨_, hts⟩
  · exact absurd htrip (ne_of_lt hlt)
  · exact sub_pos.mpr hts

theorem IsTrajectory.sublist {points points' : List (PositionRecord F)} (h : IsTrajectory points)
    (hsub : points'.Sublist points) : IsTrajectory points' where
  sorted := h.sorted.sublist hsub
  positive := fun p hp => h.positive p (hsub.subset hp)
  inI64 := fun p hp => h.inI64 p (hsub.subset hp)
  few := lt_of_le_of_lt hsub.length_le h.few

theorem rowsOfTrip_sublist (tripId : Int) (points : List (PositionRecord F)) :
    (rowsOfTrip tripId points).Sublist points :=
  List.filter_sublist

theorem trip_of_mem_rowsOfTrip {tripId : Int} {points : List (PositionRecord F)}
    {p : PositionRecord F} (h : p ∈ rowsOfTrip tripId points) : p.tripId = tripId :=
  (mem_ofKey.mp h).2

theorem selectTrajectory_isTrajectory {trips : Trips} {positions : Positions F}
    {username : String} {fromTs toTs : Int}
    (hpositive : forall key row, positions.lookup key = some row -> 0 < key.2)
    (hinI64 : forall key row, positions.lookup key = some row -> InI64 key.2)
    (hfew : positions.entries.length < 2 ^ 56) :
    IsTrajectory (selectTrajectory trips positions username fromTs toTs) where
  sorted := selectTrajectory_sorted trips positions username fromTs toTs
  positive := fun p hp => hpositive p.key p.row (mem_selectTrajectory.mp hp).1
  inI64 := fun p hp => hinI64 p.key p.row (mem_selectTrajectory.mp hp).1
  few := by
    rw [selectTrajectory, List.length_mergeSort, List.length_map]
    exact lt_of_le_of_lt (List.length_filter_le _ _) hfew

theorem not_counted_across {a b : PositionRecord F} (h : a.tripId ≠ b.tripId) : ¬ Counted a b :=
  fun hcounted => h hcounted.1

theorem countedSecs_vanishes :
    VanishesAcross PositionRecord.tripId (@countedSecs F) := by
  intro a b h
  exact if_neg (not_counted_across h)

/-! # Seconds of one trip -/

/-- The window is short enough to be counted, if it lies within a trip. -/
def ShortGap (a b : PositionRecord F) : Prop := b.ts - a.ts ≤ maxSampleGapSecs

theorem countedSecs_le {a b : PositionRecord F} (hgap : 0 < b.ts - a.ts) :
    countedSecs a b ≤ b.ts - a.ts := by
  unfold countedSecs
  split
  · exact le_refl _
  · exact le_of_lt hgap

theorem countedSecs_nonneg (a b : PositionRecord F) : 0 ≤ countedSecs a b := by
  unfold countedSecs
  split
  case isTrue h => exact le_of_lt h.2.1
  case isFalse => exact le_refl 0

theorem countedSecs_eq_iff {a b : PositionRecord F} (htrip : a.tripId = b.tripId)
    (hgap : 0 < b.ts - a.ts) : countedSecs a b = b.ts - a.ts <-> ShortGap a b := by
  unfold countedSecs
  by_cases hcounted : Counted a b
  · rw [if_pos hcounted]
    exact iff_of_true rfl hcounted.2.2
  · rw [if_neg hcounted]
    apply iff_of_false (ne_of_lt hgap)
    intro hshort
    exact hcounted ⟨htrip, hgap, hshort⟩

theorem IsTrajectory.chain_of_trip {points : List (PositionRecord F)} (h : IsTrajectory points)
    (tripId : Int) :
    List.IsChain (fun a b => a.tripId = b.tripId ∧ 0 < b.ts - a.ts)
      (rowsOfTrip tripId points) := by
  have hgap := (h.sublist (rowsOfTrip_sublist tripId points)).gap_positive
  apply hgap.imp_of_mem_imp
  intro a b ha hb hab
  have htrip : a.tripId = b.tripId := by
    rw [trip_of_mem_rowsOfTrip ha, trip_of_mem_rowsOfTrip hb]
  exact ⟨htrip, hab htrip⟩

variable {first : PositionRecord F} {rest : List (PositionRecord F)}

theorem tripSecs_le
    (hchain : List.IsChain (fun a b => a.tripId = b.tripId ∧ 0 < b.ts - a.ts) (first :: rest)) :
    windowSum countedSecs (first :: rest) ≤
      ((first :: rest).getLast (List.cons_ne_nil first rest)).ts - first.ts := by
  rw [← windowSum_telescope]
  exact windowSum_le (hchain.imp fun a b hab => countedSecs_le hab.2)

theorem tripSecs_eq_iff
    (hchain : List.IsChain (fun a b => a.tripId = b.tripId ∧ 0 < b.ts - a.ts) (first :: rest)) :
    windowSum countedSecs (first :: rest) =
        ((first :: rest).getLast (List.cons_ne_nil first rest)).ts - first.ts <->
      List.IsChain ShortGap (first :: rest) := by
  rw [← windowSum_telescope,
    windowSum_eq_iff (hchain.imp fun a b hab => countedSecs_le hab.2)]
  constructor
  · intro heq
    exact (isChain_and hchain heq).imp fun a b h => (countedSecs_eq_iff h.1.1 h.1.2).mp h.2
  · intro hshort
    exact (isChain_and hchain hshort).imp fun a b h => (countedSecs_eq_iff h.1.1 h.1.2).mpr h.2

section

variable [Geo F]

/-! # The distance of a window -/

def movementMetres (a b : PositionRecord F) : F :=
  if Counted a b ∧ isPause a b = false then Geo.haversineM a.lat a.lon b.lat b.lon else 0

theorem addWindow_distanceM (acc : Totals F) (a b : PositionRecord F) :
    (acc.addWindow a b).distanceM = acc.distanceM + movementMetres a b := by
  by_cases h : Counted a b
  · rw [addWindow_of_counted h]
    cases hpause : isPause a b with
    | true => simp [movementMetres, hpause]
    | false => simp [movementMetres, hpause, h]
  · rw [addWindow_of_not_counted h, movementMetres, if_neg fun hand => h hand.1, add_zero]

theorem stats_distanceM {username : String} {fromTs toTs : Int}
    {points : List (PositionRecord F)} :
    (computeMovementStats username fromTs toTs points).distanceM =
      windowSum movementMetres points := by
  have h := addWindows_sum addWindow_distanceM points Totals.zero
  exact h.trans (zero_add _)

def pauseSecs (a b : PositionRecord F) : Int := countedSecs a b - movementSecs a b

theorem stats_pauseSecs_sum {username : String} {fromTs toTs : Int}
    {points : List (PositionRecord F)} :
    (computeMovementStats username fromTs toTs points).pauseSecs = windowSum pauseSecs points := by
  have h := addWindows_sum addWindow_pauseSecs points Totals.zero
  exact h.trans (zero_add _)

theorem movementSecs_nonneg (a b : PositionRecord F) : 0 ≤ movementSecs a b := by
  unfold movementSecs
  split
  · exact le_refl 0
  · exact countedSecs_nonneg a b

theorem pauseSecs_nonneg (a b : PositionRecord F) : 0 ≤ pauseSecs a b := by
  unfold pauseSecs movementSecs
  split
  · rw [sub_zero]
    exact countedSecs_nonneg a b
  · rw [sub_self]

/-! # Windows across trips -/

theorem movementSecs_vanishes :
    VanishesAcross PositionRecord.tripId (@movementSecs F _) := by
  intro a b h
  rw [movementSecs, countedSecs_vanishes a b h, ite_self]

theorem pauseSecs_vanishes : VanishesAcross PositionRecord.tripId (@pauseSecs F _) := by
  intro a b h
  rw [pauseSecs, countedSecs_vanishes a b h, movementSecs_vanishes a b h, sub_zero]

theorem movementMetres_vanishes :
    VanishesAcross PositionRecord.tripId (@movementMetres F _) := by
  intro a b h
  exact if_neg fun hand => not_counted_across h hand.1

/-! # Checked arithmetic -/

/-- One turn of the loop, with every addition and subtraction checked. -/
def Totals.addWindowChecked (acc : Totals F) (a b : PositionRecord F) : Option (Totals F) :=
  if a.tripId ≠ b.tripId then some acc
  else do
    let dt ← checkedI64 (b.ts - a.ts)
    if dt ≤ 0 ∨ maxSampleGapSecs < dt then return acc
    else
      let totalSecs ← checkedI64 (acc.totalSecs + dt)
      if isPause a b then
        let pauseSecs ← checkedI64 (acc.pauseSecs + dt)
        return { acc with totalSecs, pauseSecs }
      else
        let movementSecs ← checkedI64 (acc.movementSecs + dt)
        return { acc with
          totalSecs
          distanceM := acc.distanceM + Geo.haversineM a.lat a.lon b.lat b.lon
          movementSecs }

def Totals.addWindowsChecked (acc : Totals F) :
    List (PositionRecord F) -> Option (Totals F)
  | a :: b :: rest => do
      let acc' ← acc.addWindowChecked a b
      acc'.addWindowsChecked (b :: rest)
  | _ => some acc

/-- After `windows` turns each accumulator is at most 90 seconds for each of them. -/
structure Totals.Within (windows : Nat) (acc : Totals F) : Prop where
  movement : 0 ≤ acc.movementSecs
  pause : 0 ≤ acc.pauseSecs
  sum : acc.totalSecs = acc.movementSecs + acc.pauseSecs
  total : acc.totalSecs ≤ maxSampleGapSecs * windows

theorem Totals.zero_within : (Totals.zero : Totals F).Within 0 :=
  ⟨le_refl 0, le_refl 0, rfl, le_refl 0⟩

theorem Totals.Within.addWindow {windows : Nat} {acc : Totals F} (h : acc.Within windows)
    (a b : PositionRecord F) : (acc.addWindow a b).Within (windows + 1) := by
  rcases h with ⟨hmovement, hpause, hsum, htotal⟩
  have hcounted : countedSecs a b ≤ maxSampleGapSecs := by
    unfold countedSecs
    split
    case isTrue h => exact h.2.2
    case isFalse => decide
  have hm := movementSecs_nonneg a b
  have hp : 0 ≤ countedSecs a b - Wanderust.movementSecs a b := pauseSecs_nonneg a b
  constructor
  · rw [addWindow_movementSecs]
    omega
  · rw [addWindow_pauseSecs]
    omega
  · rw [addWindow_totalSecs, addWindow_movementSecs, addWindow_pauseSecs]
    omega
  · rw [addWindow_totalSecs, Nat.cast_succ, mul_add, mul_one]
    exact add_le_add htotal hcounted

/-- With positive times and few rows no operation of a turn overflows. -/
theorem addWindowChecked_eq {windows : Nat} {acc : Totals F} (h : acc.Within windows)
    (hfew : windows + 1 < 2 ^ 56) {a b : PositionRecord F} (ha : 0 < a.ts ∧ InI64 a.ts)
    (hb : 0 < b.ts ∧ InI64 b.ts) : acc.addWindowChecked a b = some (acc.addWindow a b) := by
  rcases h with ⟨hmovement, hpause, hsum, htotal⟩
  unfold maxSampleGapSecs at htotal
  have hdt : InI64 (b.ts - a.ts) := by
    unfold InI64 at *
    omega
  by_cases hcounted : Counted a b
  · have hsecs : 0 < b.ts - a.ts ∧ b.ts - a.ts ≤ 90 := hcounted.2
    have hgap : ¬ (b.ts - a.ts ≤ 0 ∨ maxSampleGapSecs < b.ts - a.ts) := by
      unfold maxSampleGapSecs
      omega
    have htotalIn : InI64 (acc.totalSecs + (b.ts - a.ts)) := by
      unfold InI64
      omega
    have hpauseIn : InI64 (acc.pauseSecs + (b.ts - a.ts)) := by
      unfold InI64
      omega
    have hmovementIn : InI64 (acc.movementSecs + (b.ts - a.ts)) := by
      unfold InI64
      omega
    rw [addWindow_of_counted hcounted, Totals.addWindowChecked, if_neg (not_not.mpr hcounted.1),
      checkedI64_eq hdt, Option.bind_eq_bind, Option.bind_some, if_neg hgap,
      checkedI64_eq htotalIn, Option.bind_some]
    cases isPause a b with
    | true =>
        rw [if_pos rfl, if_pos rfl, checkedI64_eq hpauseIn]
        rfl
    | false =>
        rw [if_neg Bool.false_ne_true, if_neg Bool.false_ne_true, checkedI64_eq hmovementIn]
        rfl
  · rw [addWindow_of_not_counted hcounted, Totals.addWindowChecked]
    by_cases htrip : a.tripId = b.tripId
    · have hgap : b.ts - a.ts ≤ 0 ∨ maxSampleGapSecs < b.ts - a.ts := by
        by_contra hcontra
        rw [not_or, not_le, not_lt] at hcontra
        exact hcounted ⟨htrip, hcontra⟩
      rw [if_neg (not_not.mpr htrip), checkedI64_eq hdt, Option.bind_eq_bind, Option.bind_some,
        if_pos hgap]
      rfl
    · rw [if_pos htrip]

/-- The induction follows the list, with the bound of one turn more for each window. -/
theorem addWindowsChecked_eq {points : List (PositionRecord F)} {windows : Nat}
    {acc : Totals F} (h : acc.Within windows) (hfew : windows + points.length < 2 ^ 56)
    (htimes : forall p, p ∈ points -> 0 < p.ts ∧ InI64 p.ts) :
    acc.addWindowsChecked points = some (acc.addWindows points) := by
  induction points generalizing acc windows with
  | nil => rfl
  | cons a rest ih =>
      cases rest with
      | nil => rfl
      | cons b rest =>
          simp only [List.length_cons] at hfew
          have hturn := addWindowChecked_eq h (by omega) (htimes a (by simp)) (htimes b (by simp))
          rw [Totals.addWindowsChecked, hturn, Option.bind_eq_bind, Option.bind_some,
            Totals.addWindows]
          apply ih (h.addWindow a b)
          · rw [List.length_cons]
            omega
          · intro p hp
            exact htimes p (List.mem_cons_of_mem a hp)

end

end Wanderust
