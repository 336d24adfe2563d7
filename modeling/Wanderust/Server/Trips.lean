import Wanderust.Server.Auth

/-!
# Trips

The programs of `server/src/trips/mod.rs`, the trip functions of the db crate,
and `close_open_trips` of the main module.
-/

namespace Wanderust

open Interleaving Prog

variable {F : Type}

/-! # The db crate -/

def insertPosition (tripId : Int) (lat lon : F) (ts : Int) (stopped : Bool) :
    Program F (Except String Unit) :=
  sql (act (.insertPosition tripId lat lon ts stopped))

/-- Opens a trip: the row of the trip, then its first position. -/
def startTrip (username : String) (lat lon : F) (ts : Int) : Program F (Except String Int) :=
  bindOk (sql (act (.insertTrip username ts))) fun id =>
  bindOk (insertPosition id lat lon ts false) fun _ =>
  .pure (.ok id)

def endTrip (tripId : Int) (username : String) (ts : Int) : Program F (Except String Unit) :=
  bindOk (sql (act (.updateTripEnded tripId username ts))) fun rowsAffected =>
  if rowsAffected = 0 then .pure (.error "trip missing, not yours or already closed")
  else .pure (.ok ())

def tripOpenFor (tripId : Int) (username : String) : Program F (Except String Bool) :=
  sql (act (.selectOpenTrip tripId username))

def openTripIdsFor (username : String) : Program F (Except String (List Int)) :=
  sql (act (.selectOpenTripIds username))

def trajectoryForUser (username : String) (fromTs toTs : Int) :
    Program F (Except String (List (PositionRecord F))) :=
  if toTs < fromTs then .pure (.error "invalid time interval")
  else sql (act (.selectTrajectory username fromTs toTs))

/-! # The trips module -/

def initializeTrips (user : String) (lat lon : F) (ts : Int) :
    Program F (Except String Int) :=
  bindOk ((startTrip user lat lon ts).mapError fun e => "Failed to start trip: " ++ e)
    fun tripId => do
      act (.trackTrip tripId lat lon)
      act (.statusSet user .stationary)
      return .ok tripId

def terminateTrip (tripId : Int) (user : String) (ts : Int) : Program F (Except String Unit) :=
  bindOk ((endTrip tripId user ts).mapError fun e => "Failed to end trip: " ++ e) fun _ => do
    act (.dropTrip tripId)
    return .ok ()

/-- The status change that follows a stored or skipped sample. -/
def applyTransition (user : String) : StatusTransition -> Program F Unit
  | .toMoving => act (.statusSet user .moving)
  | .toStationary => act (.statusSet user .stationary)
  | .unchanged => .pure ()

def applyInsert (tripId : Int) (lat lon : F) (ts : Int) :
    InsertAction -> Program F (Except String Unit)
  | .insert stopped =>
      (insertPosition tripId lat lon ts stopped).mapError
        fun e => "Failed to insert position: " ++ e
  | .skip => .pure (.ok ())

def updateTrip (tripId : Int) (user : String) (lat lon : F) (ts : Int) :
    Program F (Except String Unit) := do
  match ← act (.observeCoord tripId lat lon) with
  | none => return .error ("Trip ID " ++ toString tripId ++ " not found in store")
  | some (action, transition) =>
      bindOk (applyInsert tripId lat lon ts action) fun _ => do
        applyTransition user transition
        return .ok ()

/-! # Closing what a user left open -/

/-- The loop over the open trips: an error of the database is only logged. -/
def closeTrips (user : String) (ts : Int) : List Int -> Program F Unit
  | [] => .pure ()
  | id :: rest => do
      let _ ← endTrip id user ts
      act (.dropTrip id)
      closeTrips user ts rest

def closeOpenTrips (user : String) : Program F Unit := do
  let ts ← act .nowSecs
  match ← openTripIdsFor user with
  | .error _ => return ()
  | .ok ids => closeTrips user ts ids

end Wanderust
