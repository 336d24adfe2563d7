import Wanderust.Db.Statistics
import Wanderust.Windows.Thinning

/-!
# The seconds of the statistics

The accumulators of the window loop as sums over the windows, each window with
its own weight.
-/

namespace Wanderust

open Windows

variable {F : Type}

def Counted (a b : PositionRecord F) : Prop :=
  a.tripId = b.tripId ∧ 0 < b.ts - a.ts ∧ b.ts - a.ts ≤ maxSampleGapSecs

instance (a b : PositionRecord F) : Decidable (Counted a b) :=
  inferInstanceAs (Decidable (_ ∧ _))

def countedSecs (a b : PositionRecord F) : Int :=
  if Counted a b then b.ts - a.ts else 0

theorem countedSecs_of_counted {a b : PositionRecord F} (h : Counted a b) :
    countedSecs a b = b.ts - a.ts := if_pos h

variable [Geo F]

def movementSecs (a b : PositionRecord F) : Int :=
  if isPause a b then 0 else countedSecs a b

theorem addWindow_of_not_counted {a b : PositionRecord F} (h : ¬ Counted a b)
    (acc : Totals F) : acc.addWindow a b = acc := by
  unfold Totals.addWindow
  by_cases htrip : a.tripId = b.tripId
  · have hgap : b.ts - a.ts ≤ 0 ∨ maxSampleGapSecs < b.ts - a.ts := by
      by_contra hcontra
      rw [not_or, not_le, not_lt] at hcontra
      exact h ⟨htrip, hcontra⟩
    rw [if_neg (not_not.mpr htrip)]
    exact if_pos hgap
  · rw [if_pos htrip]

theorem addWindow_of_counted {a b : PositionRecord F} (h : Counted a b) (acc : Totals F) :
    acc.addWindow a b =
      if isPause a b then
        { acc with
          totalSecs := acc.totalSecs + (b.ts - a.ts)
          pauseSecs := acc.pauseSecs + (b.ts - a.ts) }
      else
        { acc with
          totalSecs := acc.totalSecs + (b.ts - a.ts)
          distanceM := acc.distanceM + Geo.haversineM a.lat a.lon b.lat b.lon
          movementSecs := acc.movementSecs + (b.ts - a.ts) } := by
  have hgap : ¬ (b.ts - a.ts ≤ 0 ∨ maxSampleGapSecs < b.ts - a.ts) := by
    rw [not_or, not_le, not_lt]
    exact h.2
  unfold Totals.addWindow
  rw [if_neg (not_not.mpr h.1)]
  exact if_neg hgap

theorem addWindow_totalSecs (acc : Totals F) (a b : PositionRecord F) :
    (acc.addWindow a b).totalSecs = acc.totalSecs + countedSecs a b := by
  by_cases h : Counted a b
  · rw [addWindow_of_counted h, countedSecs_of_counted h]
    cases isPause a b <;> rfl
  · rw [addWindow_of_not_counted h, countedSecs, if_neg h, add_zero]

theorem addWindow_movementSecs (acc : Totals F) (a b : PositionRecord F) :
    (acc.addWindow a b).movementSecs = acc.movementSecs + movementSecs a b := by
  by_cases h : Counted a b
  · rw [addWindow_of_counted h, movementSecs, countedSecs_of_counted h]
    cases isPause a b with
    | true => simp
    | false => rfl
  · simp [addWindow_of_not_counted h, movementSecs, countedSecs, h]

theorem addWindow_pauseSecs (acc : Totals F) (a b : PositionRecord F) :
    (acc.addWindow a b).pauseSecs = acc.pauseSecs + (countedSecs a b - movementSecs a b) := by
  by_cases h : Counted a b
  · rw [addWindow_of_counted h, movementSecs, countedSecs_of_counted h]
    cases isPause a b with
    | true => simp
    | false => simp
  · simp [addWindow_of_not_counted h, movementSecs, countedSecs, h]

/-- An accumulator that grows by `g` in each turn ends up with the sum of `g`. -/
theorem addWindows_sum {M : Type} [AddCommGroup M] {field : Totals F -> M}
    {g : PositionRecord F -> PositionRecord F -> M}
    (hstep : forall acc a b, field (Totals.addWindow acc a b) = field acc + g a b)
    (points : List (PositionRecord F)) (acc : Totals F) :
    field (acc.addWindows points) = field acc + windowSum g points := by
  induction points generalizing acc with
  | nil => simp [Totals.addWindows]
  | cons a rest ih =>
      cases rest with
      | nil => simp [Totals.addWindows]
      | cons b rest =>
          rw [Totals.addWindows, ih, hstep, windowSum_cons_cons, add_assoc]

variable {username : String} {fromTs toTs : Int} {points : List (PositionRecord F)}

theorem stats_totalSecs :
    (computeMovementStats username fromTs toTs points).totalSecs =
      windowSum countedSecs points := by
  have h := addWindows_sum addWindow_totalSecs points Totals.zero
  exact h.trans (zero_add _)

theorem stats_movementSecs :
    (computeMovementStats username fromTs toTs points).movementSecs =
      windowSum movementSecs points := by
  have h := addWindows_sum addWindow_movementSecs points Totals.zero
  exact h.trans (zero_add _)

theorem stats_pauseSecs :
    (computeMovementStats username fromTs toTs points).pauseSecs =
      windowSum countedSecs points - windowSum movementSecs points := by
  have h := addWindows_sum addWindow_pauseSecs points Totals.zero
  rw [windowSum_sub] at h
  exact h.trans (zero_add _)

end Wanderust
