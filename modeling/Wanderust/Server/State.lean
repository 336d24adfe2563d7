import Wanderust.Common.Message
import Wanderust.Db.Distance
import Wanderust.Db.Schema
import Wanderust.Interleaving.Program

/-!
# Shared state and atomic operations of the server

The state holds the database and the four in-memory stores, each behind its own
lock.  An operation is what the server does in one go: one SQL statement, or one
critical section.
-/

namespace Wanderust

open Interleaving

/-- A connection, and with it the sink of that connection. -/
abbrev ConnId := Nat

inductive UserStatus where
  | stationary
  | moving
deriving DecidableEq

structure CoordState (F : Type) where
  lat : F
  lon : F
  n : Nat
  inserted : Bool

/-- What `stream.next()` yields, with a text or binary frame already decoded. -/
inductive Incoming (F : Type) where
  | message (msg : Message F)
  | notUtf8
  | malformed
  | empty
  | pingPong
  | closeFrame
  | readError
  | endOfStream

/-- The traffic of one connection as the dispatcher sees it. -/
inductive Event (F : Type) where
  | received (item : Incoming F)
  | sent (msg : Message F)
  | sendFailed (msg : Message F)
  | closeSent

/--
The last three fields are history: no operation reads them.  They record the
tokens drawn with the connection that drew them, the connection that last wrote
the status of a user, and the traffic of each connection.
-/
structure State (F : Type) where
  users : Users
  trips : Trips
  positions : Positions F
  sessions : Table String String
  statuses : Table String UserStatus
  sinks : Table String ConnId
  lastCoordinates : Table Int (CoordState F)
  userState : ConnId -> Option String
  drawn : List (String × ConnId)
  statusBy : String -> Option ConnId
  traffic : ConnId -> List (Event F)

/-- What the code does not determine: failures, random draws, the clock, row ids. -/
structure Choice where
  fails : Bool
  errorText : String
  uuid : String
  salt : String
  now : Int
  tripId : Int

/-- The functions of the `bcrypt` crate that the server calls. -/
class Bcrypt where
  hash : (salt password : String) -> String
  verify : (password passwordHash : String) -> Bool

/-!
# Operations
-/

inductive InsertAction where
  | insert (stopped : Bool)
  | skip
deriving DecidableEq

inductive StatusTransition where
  | toMoving
  | toStationary
  | unchanged
deriving DecidableEq

inductive Op (F : Type) where
  | getUserState
  | setUserState (user : Option String)
  | drawFreshToken
  | tryInsertToken (username token : String)
  | getUserByToken (token : String)
  | invalidateToken (token : String)
  | invalidateUserSessions (username : String)
  | statusSet (user : String) (newStatus : UserStatus)
  | statusRemove (user : String)
  | sinksInsert (user : String)
  | sinksRemove (user : String)
  | trackTrip (tripId : Int) (lat lon : F)
  | dropTrip (tripId : Int)
  | isTracked (tripId : Int)
  | observeCoord (tripId : Int) (lat lon : F)
  | selectUser (username : String)
  | selectPasswordHash (username : String)
  | insertUser (username passwordHash : String) (createdAt : Int)
  | insertTrip (username : String) (ts : Int)
  | insertPosition (tripId : Int) (lat lon : F) (ts : Int) (stopped : Bool)
  | updateTripEnded (tripId : Int) (username : String) (ts : Int)
  | selectOpenTrip (tripId : Int) (username : String)
  | selectOpenTripIds (username : String)
  | selectTrajectory (username : String) (fromTs toTs : Int)
  | bcryptHash (password : String)
  | nowSecs
  | send (msg : Message F)
  | sendClose

@[reducible] def Op.Ret {F : Type} : Op F -> Type
  | .getUserState => Option String
  | .setUserState _ => Unit
  | .drawFreshToken => String
  | .tryInsertToken _ _ => Bool
  | .getUserByToken _ => Option String
  | .invalidateToken _ => Unit
  | .invalidateUserSessions _ => Nat
  | .statusSet _ _ => Unit
  | .statusRemove _ => Unit
  | .sinksInsert _ => Unit
  | .sinksRemove _ => Unit
  | .trackTrip _ _ _ => Unit
  | .dropTrip _ => Unit
  | .isTracked _ => Bool
  | .observeCoord _ _ _ => Option (InsertAction × StatusTransition)
  | .selectUser _ => Except SqlError Bool
  | .selectPasswordHash _ => Except SqlError (Option String)
  | .insertUser _ _ _ => Except SqlError Unit
  | .insertTrip _ _ => Except SqlError Int
  | .insertPosition _ _ _ _ _ => Except SqlError Unit
  | .updateTripEnded _ _ _ => Except SqlError Nat
  | .selectOpenTrip _ _ => Except SqlError Bool
  | .selectOpenTripIds _ => Except SqlError (List Int)
  | .selectTrajectory _ _ _ => Except SqlError (List (PositionRecord F))
  | .bcryptHash _ => String
  | .nowSecs => Int
  | .send _ => Bool
  | .sendClose => Unit

abbrev Program (F alpha : Type) := Prog (@Op.Ret F) alpha

def act {F : Type} (o : Op F) : Program F o.Ret :=
  Prog.perform o

def Op.isSql {F : Type} : Op F -> Bool
  | .selectUser _ | .selectPasswordHash _ | .insertUser .. | .insertTrip ..
  | .insertPosition .. | .updateTripEnded .. | .selectOpenTrip ..
  | .selectOpenTripIds _ | .selectTrajectory .. => true
  | _ => false

end Wanderust
