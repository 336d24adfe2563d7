import Wanderust.Db.Distance
import Wanderust.Db.Schema

/-!
# Movement statistics

`compute_movement_stats` walks the adjacent pairs of a trajectory and adds up
the distance and the seconds of movement and pause.
-/

namespace Wanderust

variable {F : Type} [Geo F]

/-- A longer gap between two samples of one trip is left out of the counts. -/
def maxSampleGapSecs : Int := 90

structure MovementStats (F : Type) where
  username : String
  fromTs : Int
  toTs : Int
  distanceM : F
  movementSecs : Int
  pauseSecs : Int
  totalSecs : Int
  avgSpeedMps : F
  avgSpeedKmh : F
  points : Int

/-- The four accumulators of the window loop. -/
structure Totals (F : Type) where
  distanceM : F
  movementSecs : Int
  pauseSecs : Int
  totalSecs : Int

def Totals.zero : Totals F :=
  { distanceM := 0, movementSecs := 0, pauseSecs := 0, totalSecs := 0 }

/-- The stretch that ends in `b` counts as a pause. -/
def isPause (a b : PositionRecord F) : Bool :=
  b.stopped || coordsEqual a.lat a.lon b.lat b.lon

/-- One turn of the loop over `points.windows(2)`. -/
def Totals.addWindow (acc : Totals F) (a b : PositionRecord F) : Totals F :=
  if a.tripId ≠ b.tripId then acc
  else
    let dt := b.ts - a.ts
    if dt ≤ 0 ∨ maxSampleGapSecs < dt then acc
    else if isPause a b then
      { acc with totalSecs := acc.totalSecs + dt, pauseSecs := acc.pauseSecs + dt }
    else
      { acc with
        totalSecs := acc.totalSecs + dt
        distanceM := acc.distanceM + Geo.haversineM a.lat a.lon b.lat b.lon
        movementSecs := acc.movementSecs + dt }

/-- The window loop, from given accumulators. -/
def Totals.addWindows (acc : Totals F) : List (PositionRecord F) -> Totals F
  | a :: b :: rest => (acc.addWindow a b).addWindows (b :: rest)
  | _ => acc

def computeMovementStats (username : String) (fromTs toTs : Int)
    (points : List (PositionRecord F)) : MovementStats F :=
  let acc := Totals.zero.addWindows points
  let avgSpeedMps :=
    if 0 < acc.movementSecs then acc.distanceM / (acc.movementSecs : F) else 0
  { username
    fromTs
    toTs
    distanceM := acc.distanceM
    movementSecs := acc.movementSecs
    pauseSecs := acc.pauseSecs
    totalSecs := acc.totalSecs
    avgSpeedMps
    avgSpeedKmh := avgSpeedMps * (36 / 10)
    points := points.length }

end Wanderust
