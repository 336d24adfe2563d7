import Wanderust.Server.Exec
import Wanderust.Windows.Thinning

/-!
# The samples of a trip

What the server decides for each sample of a trip, and the two lists of rows
that come of it: the rows it stores, and the complete list in which the skipped
samples are put back.
-/

namespace Wanderust

open Windows

variable {F : Type}

structure Sample (F : Type) where
  lat : F
  lon : F
  ts : Int

def CoordState.started (p : Sample F) : CoordState F :=
  { lat := p.lat, lon := p.lon, n := 1, inserted := false }

/-- A sample with the entry of the trip before it and the decisions of `update_trip`. -/
structure Observation (F : Type) where
  sample : Sample F
  coord : CoordState F
  action : InsertAction
  transition : StatusTransition

namespace Observation

def isStored (o : Observation F) : Bool :=
  match o.action with
  | .insert _ => true
  | .skip => false

/-- The row of the sample; a skipped sample counts as stopped. -/
def row (tripId : Int) (o : Observation F) : PositionRecord F :=
  { tripId
    ts := o.sample.ts
    lat := o.sample.lat
    lon := o.sample.lon
    stopped :=
      match o.action with
      | .insert stopped => stopped
      | .skip => true }

def item (tripId : Int) (o : Observation F) : Item (PositionRecord F) :=
  { value := o.row tripId, isKept := o.isStored }

theorem stopped_of_skipped {o : Observation F} (h : o.isStored = false) (tripId : Int) :
    (o.row tripId).stopped = true := by
  cases haction : o.action with
  | insert stopped =>
      rw [isStored, haction] at h
      cases h
  | skip => rw [row, haction]

end Observation

def startObservation (start : Sample F) : Observation F :=
  { sample := start
    coord := CoordState.started start
    action := .insert false
    transition := .toStationary }

section

variable [Geo F]

def CoordState.observation (coord : CoordState F) (p : Sample F) : Observation F :=
  { sample := p
    coord
    action := (coord.observe p.lat p.lon).2.1
    transition := (coord.observe p.lat p.lon).2.2 }

def observations (coord : CoordState F) : List (Sample F) -> List (Observation F)
  | [] => []
  | p :: rest => coord.observation p :: observations (coord.observe p.lat p.lon).1 rest

def CoordState.after (coord : CoordState F) (samples : List (Sample F)) : CoordState F :=
  samples.foldl (fun coord p => (coord.observe p.lat p.lon).1) coord

def tripObservations (start : Sample F) (samples : List (Sample F)) : List (Observation F) :=
  startObservation start :: observations (CoordState.started start) samples

def tripItems (tripId : Int) (start : Sample F) (samples : List (Sample F)) :
    List (Item (PositionRecord F)) :=
  (tripObservations start samples).map (Observation.item tripId)

def storedRows (tripId : Int) (start : Sample F) (samples : List (Sample F)) :
    List (PositionRecord F) :=
  kept (tripItems tripId start samples)

def completeRows (tripId : Int) (start : Sample F) (samples : List (Sample F)) :
    List (PositionRecord F) :=
  (tripItems tripId start samples).map Item.value

/-! # Decisions -/

theorem transition_toMoving_iff (coord : CoordState F) (p : Sample F) :
    (coord.observation p).transition = .toMoving <->
      coordsEqual coord.lat coord.lon p.lat p.lon = false := by
  cases hequal : coordsEqual coord.lat coord.lon p.lat p.lon with
  | false => simp [CoordState.observation, CoordState.observe, hequal]
  | true =>
      simp only [CoordState.observation, CoordState.observe, hequal, if_true, reduceCtorEq,
        iff_false]
      by_cases hn : coord.n < stopThresholdSamples
      · simp [hn]
      · cases hinserted : coord.inserted with
        | true => simp [hn]
        | false => simp [hn]

/-- The trip has been flagged as stopped, so that further samples near the anchor are skipped. -/
def CoordState.AtRest (coord : CoordState F) : Prop :=
  ¬ coord.n < stopThresholdSamples ∧ coord.inserted = true

theorem atRest_of_skipped {coord : CoordState F} {p : Sample F}
    (h : (coord.observation p).isStored = false) : (coord.observe p.lat p.lon).1.AtRest := by
  cases hequal : coordsEqual coord.lat coord.lon p.lat p.lon with
  | false =>
      simp [CoordState.observation, CoordState.observe, Observation.isStored, hequal] at h
  | true =>
      by_cases hn : coord.n < stopThresholdSamples
      · simp [CoordState.observation, CoordState.observe, Observation.isStored, hequal, hn] at h
      · cases hinserted : coord.inserted with
        | false =>
            simp [CoordState.observation, CoordState.observe, Observation.isStored, hequal, hn,
              hinserted] at h
        | true =>
            have hsame : (coord.observe p.lat p.lon).1 = coord := by
              simp [CoordState.observe, hequal, hn, hinserted]
            rw [hsame]
            exact ⟨hn, hinserted⟩

/-- Only a change of place ends a rest. -/
theorem not_stopped_of_atRest {coord : CoordState F} (hrest : coord.AtRest) {p : Sample F}
    (hstored : (coord.observation p).isStored = true) (tripId : Int) :
    ((coord.observation p).row tripId).stopped = false := by
  cases hequal : coordsEqual coord.lat coord.lon p.lat p.lon with
  | false => simp [CoordState.observation, CoordState.observe, Observation.row, hequal]
  | true =>
      simp [CoordState.observation, CoordState.observe, Observation.isStored, hequal, hrest.1,
        hrest.2] at hstored

/-! # Order -/

theorem times_observations (tripId : Int) (coord : CoordState F) (samples : List (Sample F)) :
    ((observations coord samples).map fun o => (o.row tripId).ts) = samples.map Sample.ts := by
  induction samples generalizing coord with
  | nil => rfl
  | cons p rest ih =>
      rw [observations, List.map_cons, List.map_cons, ih]
      rfl

theorem times_completeRows (tripId : Int) (start : Sample F) (samples : List (Sample F)) :
    (completeRows tripId start samples).map PositionRecord.ts =
      (start :: samples).map Sample.ts := by
  have h := times_observations tripId (CoordState.started start) samples
  simp only [completeRows, tripItems, tripObservations, List.map_cons, List.map_map]
  exact congrArg _ h

theorem trip_of_mem_completeRows {tripId : Int} {start : Sample F} {samples : List (Sample F)}
    {p : PositionRecord F} (h : p ∈ completeRows tripId start samples) : p.tripId = tripId := by
  simp only [completeRows, tripItems, List.mem_map] at h
  rcases h with ⟨item, ⟨o, _, rfl⟩, rfl⟩
  rfl

theorem storedRows_sublist (tripId : Int) (start : Sample F) (samples : List (Sample F)) :
    (storedRows tripId start samples).Sublist (completeRows tripId start samples) :=
  kept_sublist _

end

end Wanderust
