import Wanderust.Stats.TripRuns
import Wanderust.Windows.Standstills

/-!
# Standstills of a trip

The samples of a trip fall into standstills, each with its anchor.  The module
gives in closed form what the counter, the flag and the status of the user have
become after so many samples of a standstill, and which rows it has left.
-/

namespace Wanderust

open Interleaving Prog Windows

variable {F : Type} {tripId : Int} {c : ConnId} {user : String}

/-! # Closed forms -/

def Sample.row (tripId : Int) (stopped : Bool) (p : Sample F) : PositionRecord F :=
  { tripId, ts := p.ts, lat := p.lat, lon := p.lon, stopped }

/-- Six samples are stored as they are, the seventh with the flag, and no other. -/
def standstillRows (tripId : Int) (r : Standstill (Sample F)) : List (PositionRecord F) :=
  (r.items.take 6).map (Sample.row tripId false) ++
    ((r.items.drop 6).take 1).map (Sample.row tripId true)

def standstillCoord (r : Standstill (Sample F)) : CoordState F :=
  { lat := r.anchor.lat
    lon := r.anchor.lon
    n := min r.items.length 6
    inserted := decide (7 ≤ r.items.length) }

theorem coord_started (start : Sample F) :
    CoordState.started start = standstillCoord { anchor := start, followers := [] } := rfl

def standstillStatus (isFirst : Bool) (r : Standstill (Sample F)) : UserStatus :=
  if !isFirst && decide (r.items.length ≤ 6) then .moving else .stationary

def grow (r : Standstill (Sample F)) (p : Sample F) : Standstill (Sample F) :=
  { r with followers := r.followers ++ [p] }

theorem items_grow (r : Standstill (Sample F)) (p : Sample F) :
    (grow r p).items = r.items ++ [p] := by
  simp [grow, Standstill.items]

def StatusTransition.applyTo : StatusTransition -> UserStatus -> UserStatus
  | .toMoving, _ => .moving
  | .toStationary, _ => .stationary
  | .unchanged, status => status

variable [Geo F]

def Sample.near (anchor p : Sample F) : Bool :=
  coordsEqual anchor.lat anchor.lon p.lat p.lon

def tripStandstills (start : Sample F) (samples : List (Sample F)) :
    List (Standstill (Sample F)) :=
  standstills Sample.near start samples

theorem tripStandstills_ne_nil (start : Sample F) (samples : List (Sample F)) :
    tripStandstills start samples ≠ [] :=
  standstillsFrom_ne_nil start [] samples

def lastStandstill (start : Sample F) (samples : List (Sample F)) : Standstill (Sample F) :=
  (tripStandstills start samples).getLast (tripStandstills_ne_nil start samples)

/-- The status after the samples, when it was `status` before them. -/
def statusAfter (coord : CoordState F) (status : UserStatus) : List (Sample F) -> UserStatus
  | [] => status
  | p :: rest =>
      statusAfter (coord.observe p.lat p.lon).1
        ((coord.observe p.lat p.lon).2.2.applyTo status) rest

/-! # One sample -/

variable {r : Standstill (Sample F)} {p : Sample F}

/-- A sample near the anchor is counted, then flagged once, then skipped. -/
theorem observe_near (hnear : Sample.near r.anchor p = true) :
    (standstillCoord r).observe p.lat p.lon =
      (standstillCoord (grow r p),
        if r.items.length < 6 then .insert false
        else if r.items.length = 6 then .insert true
        else .skip,
        if r.items.length = 6 then .toStationary else .unchanged) := by
  have hlength : (grow r p).items.length = r.items.length + 1 := by
    rw [items_grow, List.length_append, List.length_singleton]
  have hequal : coordsEqual r.anchor.lat r.anchor.lon p.lat p.lon = true := hnear
  unfold CoordState.observe standstillCoord
  rw [hlength]
  simp only [hequal, if_true, grow]
  rcases Nat.lt_trichotomy r.items.length 6 with hlt | heq | hgt
  · have hn : min r.items.length 6 < stopThresholdSamples := by
      unfold stopThresholdSamples
      omega
    have hgrown : min (r.items.length + 1) 6 = min r.items.length 6 + 1 := by omega
    have hinserted : decide (7 ≤ r.items.length + 1) = decide (7 ≤ r.items.length) := by
      rw [decide_eq_decide]
      omega
    rw [if_pos hn, if_pos hlt, if_neg (Nat.ne_of_lt hlt), hgrown, hinserted]
  · rw [heq]
    simp [stopThresholdSamples]
  · have hn : ¬ min r.items.length 6 < stopThresholdSamples := by
      unfold stopThresholdSamples
      omega
    have hinserted : decide (7 ≤ r.items.length) = true := decide_eq_true (by omega)
    have hinserted' : decide (7 ≤ r.items.length + 1) = true := decide_eq_true (by omega)
    have hsame : min (r.items.length + 1) 6 = min r.items.length 6 := by omega
    rw [if_neg hn, if_neg (by omega : ¬ r.items.length < 6), if_neg (Nat.ne_of_gt hgt), hinserted,
      hinserted', hsame]
    simp [Nat.ne_of_gt hgt]

theorem observe_away (haway : Sample.near r.anchor p = false) :
    (standstillCoord r).observe p.lat p.lon =
      (standstillCoord { anchor := p, followers := [] }, .insert false, .toMoving) := by
  have hequal : coordsEqual r.anchor.lat r.anchor.lon p.lat p.lon = false := haway
  simp [CoordState.observe, standstillCoord, hequal, Standstill.items]

theorem standstillRows_grow (hnear : Sample.near r.anchor p = true) (tripId : Int) :
    standstillRows tripId (grow r p) =
      standstillRows tripId r ++
        kept [((standstillCoord r).observation p).item tripId] := by
  unfold standstillRows
  rw [items_grow]
  rcases Nat.lt_trichotomy r.items.length 6 with hlt | heq | hgt
  · have hkept : kept [((standstillCoord r).observation p).item tripId] =
        [p.row tripId false] := by
      simp [kept, Observation.item, Observation.isStored, Observation.row, Sample.row,
        CoordState.observation, observe_near hnear, hlt]
    have hfull : r.items.take 6 = r.items := List.take_of_length_le (by omega)
    have hgrown : (r.items ++ [p]).take 6 = r.items ++ [p] :=
      List.take_of_length_le (by rw [List.length_append, List.length_singleton]; omega)
    have hdrop : r.items.drop 6 = [] := List.drop_of_length_le (by omega)
    have hdrop' : (r.items ++ [p]).drop 6 = [] :=
      List.drop_of_length_le (by rw [List.length_append, List.length_singleton]; omega)
    rw [hkept, hfull, hgrown, hdrop, hdrop', List.map_append]
    simp
  · have hkept : kept [((standstillCoord r).observation p).item tripId] = [p.row tripId true] := by
      simp [kept, Observation.item, Observation.isStored, Observation.row, Sample.row,
        CoordState.observation, observe_near hnear, heq]
    have hdrop : r.items.drop 6 = [] := List.drop_of_length_le (by omega)
    rw [hkept, List.take_append_of_le_length (by omega), List.drop_append_of_le_length (by omega),
      hdrop]
    simp
  · have hkept : kept [((standstillCoord r).observation p).item tripId] = [] := by
      have hlt : ¬ r.items.length < 6 := by omega
      simp [kept, Observation.item, Observation.isStored, CoordState.observation,
        observe_near hnear, hlt, Nat.ne_of_gt hgt]
    have htake : 1 ≤ (r.items.drop 6).length := by
      rw [List.length_drop]
      omega
    rw [hkept, List.take_append_of_le_length (by omega), List.drop_append_of_le_length (by omega),
      List.take_append_of_le_length htake, List.append_nil]

theorem standstillStatus_grow (hnear : Sample.near r.anchor p = true) (isFirst : Bool) :
    standstillStatus isFirst (grow r p) =
      ((standstillCoord r).observe p.lat p.lon).2.2.applyTo (standstillStatus isFirst r) := by
  have hlength : (grow r p).items.length = r.items.length + 1 := by
    rw [items_grow, List.length_append, List.length_singleton]
  rw [observe_near hnear]
  unfold standstillStatus
  rw [hlength]
  by_cases heq : r.items.length = 6
  · rw [heq]
    cases isFirst <;> rfl
  · have hsame : decide (r.items.length + 1 ≤ 6) = decide (r.items.length ≤ 6) := by
      rw [decide_eq_decide]
      omega
    rw [hsame]
    simp only [heq, if_false]
    rfl

/-! # All samples -/

theorem rows_standstillsFrom (tripId : Int) (r : Standstill (Sample F))
    (samples : List (Sample F)) :
    standstillRows tripId r ++
        kept ((observations (standstillCoord r) samples).map (Observation.item tripId)) =
      (standstillsFrom Sample.near r.anchor r.followers samples).flatMap
        (standstillRows tripId) := by
  induction samples generalizing r with
  | nil => simp [observations, kept, standstillsFrom]
  | cons p rest ih =>
      have hsplit : kept ((observations (standstillCoord r) (p :: rest)).map
          (Observation.item tripId)) =
          kept [((standstillCoord r).observation p).item tripId] ++
            kept ((observations ((standstillCoord r).observe p.lat p.lon).1 rest).map
              (Observation.item tripId)) := by
        rw [← kept_append]
        rfl
      rw [hsplit, standstillsFrom, ← List.append_assoc]
      cases hnear : Sample.near r.anchor p with
      | true =>
          rw [if_pos rfl, ← standstillRows_grow hnear, observe_near hnear]
          exact ih (grow r p)
      | false =>
          have hkept : kept [((standstillCoord r).observation p).item tripId] =
              standstillRows tripId { anchor := p, followers := [] } := by
            simp [kept, Observation.item, Observation.isStored, Observation.row, Sample.row,
              CoordState.observation, observe_away hnear, standstillRows, Standstill.items]
          rw [if_neg Bool.false_ne_true, List.flatMap_cons, hkept, observe_away hnear,
            List.append_assoc, ih]

theorem coord_standstillsFrom (r : Standstill (Sample F)) (samples : List (Sample F)) :
    (standstillCoord r).after samples =
      standstillCoord ((standstillsFrom Sample.near r.anchor r.followers samples).getLast
        (standstillsFrom_ne_nil _ _ _)) := by
  induction samples generalizing r with
  | nil => rfl
  | cons p rest ih =>
      rw [CoordState.after, List.foldl_cons]
      cases hnear : Sample.near r.anchor p with
      | true =>
          simp only [standstillsFrom, hnear, if_true, observe_near hnear]
          exact ih (grow r p)
      | false =>
          simp only [standstillsFrom, hnear, Bool.false_eq_true, if_false, observe_away hnear]
          rw [List.getLast_cons (standstillsFrom_ne_nil _ _ _)]
          exact ih { anchor := p, followers := [] }

theorem status_standstillsFrom (isFirst : Bool) (r : Standstill (Sample F))
    (samples : List (Sample F)) :
    statusAfter (standstillCoord r) (standstillStatus isFirst r) samples =
      standstillStatus
        (isFirst &&
          decide ((standstillsFrom Sample.near r.anchor r.followers samples).length = 1))
        ((standstillsFrom Sample.near r.anchor r.followers samples).getLast
          (standstillsFrom_ne_nil _ _ _)) := by
  induction samples generalizing r isFirst with
  | nil => simp [statusAfter, standstillsFrom]
  | cons p rest ih =>
      rw [statusAfter]
      cases hnear : Sample.near r.anchor p with
      | true =>
          rw [← standstillStatus_grow hnear]
          simp only [standstillsFrom, hnear, if_true, observe_near hnear]
          exact ih isFirst (grow r p)
      | false =>
          have hmoving : standstillStatus false { anchor := p, followers := [] } =
              (StatusTransition.toMoving).applyTo (standstillStatus isFirst r) := rfl
          have hlonger : (standstillsFrom Sample.near p [] rest).length + 1 ≠ 1 := by
            have hpos := List.length_pos_of_ne_nil (@standstillsFrom_ne_nil _ Sample.near p [] rest)
            omega
          simp only [standstillsFrom, hnear, Bool.false_eq_true, if_false, observe_away hnear]
          rw [← hmoving, List.getLast_cons (standstillsFrom_ne_nil _ _ _), List.length_cons,
            decide_eq_false hlonger, Bool.and_false]
          exact ih false { anchor := p, followers := [] }

theorem storedRows_eq (tripId : Int) (start : Sample F) (samples : List (Sample F)) :
    storedRows tripId start samples =
      (tripStandstills start samples).flatMap (standstillRows tripId) := by
  have hrows := rows_standstillsFrom tripId { anchor := start, followers := [] } samples
  exact hrows

end Wanderust
