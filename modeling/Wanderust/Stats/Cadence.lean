import Wanderust.Stats.Answers

/-!
# Samples at a regular pace

When no two consecutive samples are more than 90 seconds apart, every window of
the complete list counts.
-/

namespace Wanderust

open Windows

variable {F : Type} {start : Sample F} {samples : List (Sample F)}

/-- Consecutive samples are between 1 and 90 seconds apart. -/
def Cadence (start : Sample F) (samples : List (Sample F)) : Prop :=
  List.IsChain (fun p q => 0 < q.ts - p.ts ∧ q.ts - p.ts ≤ maxSampleGapSecs) (start :: samples)

theorem Cadence.increasing (hcadence : Cadence start samples) : Increasing start samples := by
  have hchain : List.IsChain (fun p q : Sample F => p.ts < q.ts) (start :: samples) :=
    hcadence.imp fun p q h => by omega
  have htrans : IsTrans (Sample F) fun p q => p.ts < q.ts := ⟨fun _ _ _ => lt_trans⟩
  exact List.isChain_iff_pairwise.mp hchain

/--
The window of two adjacent samples counts, and a stored row after a skipped one
is not flagged.
-/
def Adjacent (a b : Item (PositionRecord F)) : Prop :=
  Counted a.value b.value ∧ (a.isKept = false -> b.isKept = true -> b.value.stopped = false)

variable [Geo F]

/-- The induction follows the samples; a skipped sample leaves the trip at rest. -/
theorem observations_adjacent {p : Sample F} {o : Observation F} {coord : CoordState F}
    (ho : o.sample = p) (hrest : o.isStored = false -> coord.AtRest)
    (hcadence : Cadence p samples) (tripId : Int) :
    List.IsChain Adjacent ((o :: observations coord samples).map (Observation.item tripId)) := by
  induction samples generalizing p o coord with
  | nil => exact List.isChain_singleton _
  | cons q rest ih =>
      rw [Cadence, List.isChain_cons_cons] at hcadence
      rw [observations, List.map_cons, List.map_cons, List.isChain_cons_cons]
      refine ⟨⟨⟨rfl, ?_⟩, ?_⟩, ih (p := q) rfl atRest_of_skipped hcadence.2⟩
      · rw [← ho] at hcadence
        exact hcadence.1
      · intro hskipped hstored
        exact not_stopped_of_atRest (hrest hskipped) hstored tripId

theorem tripItems_adjacent (hcadence : Cadence start samples) (tripId : Int) :
    List.IsChain Adjacent (tripItems tripId start samples) :=
  observations_adjacent rfl (fun h => by cases h) hcadence tripId

theorem stopped_of_mem_tripItems {item : Item (PositionRecord F)}
    (hitem : item ∈ tripItems tripId start samples) (hskipped : item.isKept = false) :
    item.value.stopped = true := by
  rcases List.mem_map.mp hitem with ⟨o, _, rfl⟩
  exact Observation.stopped_of_skipped hskipped tripId

end Wanderust
