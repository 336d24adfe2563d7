import Wanderust.Common.Message
import Wanderust.Db.Distance
import Wanderust.Interleaving.Loops

/-!
# Shared state and atomic operations of the client

The three tasks of the client share the sink, the token, the trip, the switch of
the automatic positions and the current position, each behind its own lock.  An
operation is one critical section, or one frame that is sent.
-/

namespace Wanderust.Cli

open Interleaving

variable {F : Type}

inductive TaskId where
  | main
  | autopos
  | receiver
deriving DecidableEq

/-- What `stream.next()` yields, with a text frame already decoded. -/
inductive Arrival (F : Type) where
  | message (msg : Message F)
  | unreadable
  | ignored
  | closed

/-- What `next_line()` yields. -/
inductive Stdin where
  | line (s : String)
  | endOfInput
  | readError

/-- What is kept of a run: the traffic, with the task that sends, and the writes of the trip. -/
inductive Event (F : Type) where
  | received (msg : Message F)
  | tripSet (trip : Option Int)
  | sent (i : TaskId) (msg : Message F)
  | sendFailed (i : TaskId) (msg : Message F)
  | closeSent

/-- No operation reads the history. -/
structure State (F : Type) where
  token : Option String
  trip : Option Int
  autoposEnabled : Bool
  currentPos : F × F
  history : List (Event F)

def State.log (s : State F) (e : Event F) : State F :=
  { s with history := s.history ++ [e] }

/-- What the code does not determine: whether a send fails, and the clock. -/
structure Choice where
  fails : Bool
  now : Int

inductive Op (F : Type) where
  | getToken
  | setToken (token : String)
  | getTrip
  | setTrip (trip : Option Int)
  | getAutopos
  | setAutopos (enabled : Bool)
  | setPos (lat lon : F)
  | stepPos
  | nowSecs
  | send (msg : Message F)
  | sendClose

@[reducible] def Op.Ret : Op F -> Type
  | .getToken => Option String
  | .setToken _ => Unit
  | .getTrip => Option Int
  | .setTrip _ => Unit
  | .getAutopos => Bool
  | .setAutopos _ => Unit
  | .setPos _ _ => Unit
  | .stepPos => F × F
  | .nowSecs => Int
  | .send _ => Bool
  | .sendClose => Unit

abbrev Program (F alpha : Type) := Prog (@Op.Ret F) alpha

def act (o : Op F) : Program F o.Ret :=
  Prog.perform o

section

variable [Geo F]

def autoposStepLat : F := 45 / 100000
def autoposStepLon : F := 45 / 100000

def exec (i : TaskId) (ch : Choice) : (o : Op F) -> State F -> Outcome o.Ret (State F)
  | .getToken, s => .done s.token s
  | .setToken token, s => .done () { s with token := some token }
  | .getTrip, s => .done s.trip s
  | .setTrip trip, s => .done () ({ s with trip }.log (.tripSet trip))
  | .getAutopos, s => .done s.autoposEnabled s
  | .setAutopos enabled, s => .done () { s with autoposEnabled := enabled }
  | .setPos lat lon, s => .done () { s with currentPos := (lat, lon) }
  | .stepPos, s =>
      let pos := (s.currentPos.1 + autoposStepLat, s.currentPos.2 + autoposStepLon)
      .done pos { s with currentPos := pos }
  | .nowSecs, s => .done ch.now s
  | .send msg, s =>
      if ch.fails then .done false (s.log (.sendFailed i msg))
      else .done true (s.log (.sent i msg))
  -- the code ignores the failure of a Close frame
  | .sendClose, s => if ch.fails then .done () s else .done () (s.log .closeSent)

def State.initial : State F :=
  { token := none
    trip := none
    autoposEnabled := false
    currentPos := (45, 9)
    history := [] }

end

end Wanderust.Cli
