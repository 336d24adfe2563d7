import Mathlib.Data.List.Sort
import Mathlib.Order.Lex
import Mathlib.Data.Prod.Lex
import Mathlib.Algebra.Order.Ring.Int
import Wanderust.Table

/-!
# The database

The three SQL tables and the statements of `db/src/lib.rs`, one definition for
each statement.  The primary keys are the keys of the tables; the foreign keys
are checked where a row is inserted, since the server turns `foreign_keys` on.
-/

namespace Wanderust

structure User where
  passwordHash : String
  createdAt : Int

structure Trip where
  username : String
  startedAt : Int
  endedAt : Option Int
deriving DecidableEq

structure PositionRow (F : Type) where
  lat : F
  lon : F
  stopped : Bool

structure PositionRecord (F : Type) where
  tripId : Int
  ts : Int
  lat : F
  lon : F
  stopped : Bool

abbrev Users := Table String User
abbrev Trips := Table Int Trip
abbrev Positions (F : Type) := Table (Int × Int) (PositionRow F)

/-- `sqlx::Error`, as far as the server looks at it. -/
structure SqlError where
  uniqueViolation : Bool
  text : String

def Trip.isOpenFor (t : Trip) (username : String) : Bool :=
  t.username == username && t.endedAt.isNone

/-!
# Statements
-/

/-- `INSERT INTO users`: refused when the primary key is taken. -/
def insertUserRow (users : Users) (username passwordHash : String) (createdAt : Int) :
    Option Users :=
  if (users.lookup username).isSome then none
  else some (users.insert username { passwordHash, createdAt })

/-- `INSERT INTO trips .. RETURNING id`: refused when the user does not exist. -/
def insertTripRow (users : Users) (trips : Trips) (id : Int) (username : String) (ts : Int) :
    Option Trips :=
  if (users.lookup username).isNone then none
  else some (trips.insert id { username, startedAt := ts, endedAt := none })

/-- `INSERT INTO positions`: refused without a trip, or when the primary key is taken. -/
def insertPositionRow {F : Type} (trips : Trips) (positions : Positions F)
    (tripId : Int) (lat lon : F) (ts : Int) (stopped : Bool) : Option (Positions F) :=
  if (trips.lookup tripId).isNone || (positions.lookup (tripId, ts)).isSome then none
  else some (positions.insert (tripId, ts) { lat, lon, stopped })

/-- `UPDATE trips SET ended_at = ?`, with the number of rows affected. -/
def updateTripEnded (trips : Trips) (tripId : Int) (username : String) (ts : Int) :
    Nat × Trips :=
  match trips.lookup tripId with
  | some row =>
      if row.isOpenFor username then
        (1, trips.insert tripId { row with endedAt := some ts })
      else
        (0, trips)
  | none => (0, trips)

/-- `SELECT 1 FROM trips WHERE id = ? AND username = ? AND ended_at IS NULL`. -/
def selectOpenTrip (trips : Trips) (tripId : Int) (username : String) : Bool :=
  match trips.lookup tripId with
  | some row => row.isOpenFor username
  | none => false

/-- `SELECT id FROM trips WHERE username = ? AND ended_at IS NULL`. -/
def selectOpenTripIds (trips : Trips) (username : String) : List Int :=
  trips.keysWhere (fun _ row => row.isOpenFor username)

def PositionRecord.ofRow {F : Type} (key : Int × Int) (row : PositionRow F) :
    PositionRecord F :=
  { tripId := key.1, ts := key.2, lat := row.lat, lon := row.lon, stopped := row.stopped }

def PositionRecord.key {F : Type} (p : PositionRecord F) : Int × Int := (p.tripId, p.ts)

def PositionRecord.le {F : Type} (a b : PositionRecord F) : Bool :=
  decide (a.tripId < b.tripId ∨ (a.tripId = b.tripId ∧ a.ts ≤ b.ts))

def inInterval (trips : Trips) (username : String) (fromTs toTs : Int)
    (key : Int × Int) : Bool :=
  (match trips.lookup key.1 with
    | some row => row.username == username
    | none => false) && decide (fromTs ≤ key.2) && decide (key.2 ≤ toTs)

/-- The query of `trajectory_for_user`. -/
def selectTrajectory {F : Type} (trips : Trips) (positions : Positions F)
    (username : String) (fromTs toTs : Int) : List (PositionRecord F) :=
  ((positions.entries.filter fun e => inInterval trips username fromTs toTs e.1).map
    fun e => PositionRecord.ofRow e.1 e.2).mergeSort PositionRecord.le

/-!
# What the statements do
-/

@[simp] theorem isOpenFor_iff {t : Trip} {username : String} :
    t.isOpenFor username = true <-> t.username = username ∧ t.endedAt = none := by
  simp [Trip.isOpenFor]

theorem mem_selectOpenTripIds {trips : Trips} {username : String} {id : Int} :
    id ∈ selectOpenTripIds trips username <->
      exists row, trips.lookup id = some row ∧ row.username = username ∧ row.endedAt = none := by
  simp [selectOpenTripIds, Table.mem_keysWhere]

theorem selectOpenTrip_iff {trips : Trips} {id : Int} {username : String} :
    selectOpenTrip trips id username = true <->
      exists row, trips.lookup id = some row ∧ row.username = username ∧ row.endedAt = none := by
  cases h : trips.lookup id with
  | none => simp [selectOpenTrip, h]
  | some row => simp [selectOpenTrip, h]

end Wanderust
