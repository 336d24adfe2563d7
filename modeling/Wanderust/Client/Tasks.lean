import Wanderust.Client.Commands
import Wanderust.Server.HandleClient

/-!
# The tasks of the client

What `main`, the task of the automatic positions and the task that receives do
in one turn of their loops, and the loops together.
-/

namespace Wanderust.Cli

open Interleaving Prog

variable {F : Type}

/-! # What a task waits for -/

/-- The client decodes text frames; it leaves out the other ones, and ends at a Close frame. -/
def arrival (decode : String -> Option (Message F)) :
    Option (Except Unit WsMessage) -> Arrival F
  | some (.ok (.text line)) =>
      match decode line with
      | some msg => .message msg
      | none => .unreadable
  | some (.ok .close) => .closed
  | some (.ok _) => .ignored
  | some (.error ()) => .closed
  | none => .closed

/-- A line for `main`, the tick of the interval, or what comes from the server. -/
@[reducible] def Input (F : Type) : TaskId -> Type
  | .main => Stdin
  | .autopos => Unit
  | .receiver => Arrival F

/-! # Turns -/

/-- What `main` does with a message before it is sent. -/
def beforeSend (msg : Message F) : Program F Unit :=
  match msg with
  | .endTrip .. => do
      act (.setTrip none)
      act (.setAutopos false)
  | _ => return ()

/-- The end of `main`, after its loop. -/
def finish : Program F Turn := do
  act .sendClose
  return .leave

def transmit (msg : Message F) : Program F Turn := do
  beforeSend msg
  if ← act (.send msg) then
    match msg with
    | .disconnect _ => finish
    | _ => return .again
  else return .leave

def receiverTurn (item : Arrival F) : Program F Turn :=
  match item with
  | .message (.authOk token) => do
      act (.setToken token)
      return .again
  | .message (.tripStarted tripId _ _ _) => do
      act (.setTrip (some tripId))
      return .again
  | .message _ | .unreadable | .ignored => return .again
  | .closed => return .leave

def sendPosition (token : String) (tripId : Int) : Program F Turn := do
  let pos ← act .stepPos
  let ts ← act .nowSecs
  if ← act (.send (.position token tripId pos.1 pos.2 ts)) then return .again else return .leave

def autoposTurn : Program F Turn := do
  if ← act .getAutopos then
    match ← act .getToken with
    | some token =>
        match ← act .getTrip with
        | some tripId => sendPosition token tripId
        | none => return .again
    | none => return .again
  else return .again

section

variable [Geo F] [ParseF64 F]

def lineTurn (line : List Char) : Program F Turn :=
  if line.isEmpty then return .again
  else do
    match ← parseCmd line with
    | .message msg => transmit msg
    | .nothing => return .again
    | .panicked => return .leave

def mainTurn (item : Stdin) : Program F Turn :=
  match item with
  | .line s => lineTurn (trimChars s.toList)
  | .endOfInput => finish
  | .readError => return .leave

def turn : (i : TaskId) -> Input F i -> Program F Turn
  | .main, item => mainTurn item
  | .autopos, _ => autoposTurn
  | .receiver, item => receiverTurn item

/-- A message is part of the history from the moment in which it arrives. -/
def note : (i : TaskId) -> Input F i -> State F -> State F
  | .receiver, .message msg, s => s.log (.received msg)
  | _, _, s => s

def system : LoopSystem (@Op.Ret F) TaskId (State F) (Input F) where
  body := turn
  note := note
  leader := .main

/-! # Runs -/

abbrev Label (F : Type) := LoopLabel (Input F) Choice

abbrev Client (F : Type) := Loops (@Op.Ret F) TaskId (State F)

def Client.initial : Client F := Loops.initial State.initial

def Client.next : Client F -> Label F -> Option (Client F) := Loops.next exec system

abbrev Reachable (client : Client F) : Prop :=
  Reach Client.next (fun _ _ => True) Client.initial client

end

end Wanderust.Cli
