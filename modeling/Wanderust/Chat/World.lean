import Wanderust.Chat.Admin
import Wanderust.Interleaving.Broadcast
import Wanderust.Server.World

/-!
# The server with its chat tasks

Next to its read loop every connection runs a task that forwards the messages of
the broadcast channel, and the admin task sends to this channel or to the sink of
one user.
-/

namespace Wanderust

open Interleaving

variable {F : Type}

def broadcastCap : Nat := 256

structure ChatBroadcast where
  sender : String
  text : String

/-- The sender of what the admin writes. -/
def serverName : String := "SERVER"

def ChatBroadcast.toMessage (bc : ChatBroadcast) : Message F :=
  .chatFromServer (some bc.sender) bc.text

/-! # The chat task of a connection -/

inductive ChatTask (F Rx : Type) where
  | unspawned
  | receiving (rx : Rx)
  | received (rx : Rx) (bc : ChatBroadcast)
  | sending (rx : Rx) (msg : Message F)
  | ended

def ChatTask.killed {Rx : Type} : ChatTask F Rx -> ChatTask F Rx
  | .unspawned => .unspawned
  | _ => .ended

/-- One step of the loop, with what it sends.  The user of the connection is `user`. -/
def ChatTask.step {B : Broadcast ChatBroadcast} (chan : B.Chan) (user : Option String)
    (fails : Bool) : ChatTask F B.Rx -> Option (ChatTask F B.Rx × Option (Message F))
  | .unspawned | .ended => none
  | .receiving rx =>
      match B.recv chan rx with
      | .waiting => none
      | .message bc rx' => some (.received rx' bc, none)
      | .lagged _ rx' => some (.receiving rx', none)
      | .closed => some (.ended, none)
  | .received rx bc =>
      match user with
      | none => some (.receiving rx, none)
      | some me =>
          if bc.sender = me then some (.receiving rx, none)
          else some (.sending rx bc.toMessage, none)
  | .sending rx msg =>
      if fails then some (.ended, none) else some (.receiving rx, some msg)

/-! # The admin task -/

inductive AdminTask (F : Type) where
  | reading
  | listing
  | lookingUp (user text : String)
  | sendingDirect (sink : ConnId) (msg : Message F)
  | counting (text : String)
  | announcing (text : String)
  | ended

/-- What the task does next with a line; `none` is the end of the input, or an error. -/
def AdminTask.afterLine : Option String -> AdminTask F
  | none => .ended
  | some line =>
      match adminCommand line with
      | .skip => .reading
      | .list => .listing
      | .direct user text => .lookingUp user text
      | .broadcast text => .counting text

/-- One step of the task: its new state, the channel, and a message for the sink of a user. -/
def AdminTask.step {B : Broadcast ChatBroadcast} (chan : B.Chan) (sinks : Table String ConnId)
    (fails : Bool) : AdminTask F -> Option (AdminTask F × B.Chan × Option (ConnId × Message F))
  | .reading | .ended => none
  | .listing => some (.reading, chan, none)
  | .lookingUp user text =>
      match sinks.lookup user with
      | none => some (.reading, chan, none)
      | some sink => some (.sendingDirect sink (.chatFromServer (some serverName) text), chan, none)
  | .sendingDirect sink msg =>
      some (.reading, chan, if fails then none else some (sink, msg))
  | .counting text => some (.announcing text, chan, none)
  | .announcing text => some (.reading, B.send { sender := serverName, text } chan, none)

/-! # Runs -/

/--
The last two fields are history: the lines that the admin has entered, and the
chat messages that the sink of each connection has been sent.
-/
structure ChatWorld (F : Type) (B : Broadcast ChatBroadcast) where
  world : World F
  chan : B.Chan
  chats : ConnId -> ChatTask F B.Rx
  aborted : ConnId -> Bool
  admin : AdminTask F
  lines : List String
  delivered : ConnId -> List (Message F)

inductive ChatLabel (F : Type) where
  | server (l : Label F)
  | line (item : Option String)
  | admin (fails : Bool)
  | chat (c : ConnId) (fails : Bool)
  | abort (c : ConnId)

def deliver (delivered : ConnId -> List (Message F)) :
    Option (ConnId × Message F) -> ConnId -> List (Message F)
  | none => delivered
  | some (c, msg) => Function.update delivered c (delivered c ++ [msg])

namespace ChatWorld

variable {B : Broadcast ChatBroadcast}

/-- `handle_client` has returned from its cleanup, and with that has aborted the chat task. -/
def abortedAfter (w : ChatWorld F B) (w' : World F) : Label F -> ConnId -> Bool
  | .step c _ =>
      match w.world.tasks c, w'.tasks c with
      | .cleaning _ _, .closed => Function.update w.aborted c true
      | _, _ => w.aborted
  | _ => w.aborted

/-- The rest of the world after a step of the server; a restart makes a new channel. -/
def afterServer (w : ChatWorld F B) (w' : World F) (l : Label F) : ChatWorld F B :=
  match l with
  | .accept c =>
      { w with
        world := w'
        chats := Function.update w.chats c (.receiving (B.subscribe w.chan)) }
  | .restart =>
      { w with
        world := w'
        chan := B.channel
        chats := fun c => (w.chats c).killed
        admin := .reading }
  | l => { w with world := w', aborted := w.abortedAfter w' l }

def next [Geo F] [Bcrypt] (w : ChatWorld F B) : ChatLabel F -> Option (ChatWorld F B)
  | .server l =>
      match w.world.next l with
      | none => none
      | some w' => some (w.afterServer w' l)
  | .line item =>
      match w.admin with
      | .reading =>
          some { w with admin := .afterLine item, lines := w.lines ++ item.toList }
      | _ => none
  | .admin fails =>
      match w.admin.step w.chan w.world.state.sinks fails with
      | none => none
      | some (admin, chan, out) =>
          some { w with admin, chan, delivered := deliver w.delivered out }
  | .chat c fails =>
      match (w.chats c).step w.chan (w.world.state.userState c) fails with
      | none => none
      | some (task, out) =>
          some
            { w with
              chats := Function.update w.chats c task
              delivered := deliver w.delivered (out.map (Prod.mk c)) }
  -- an aborted task may take further steps before it ends
  | .abort c =>
      if w.aborted c then some { w with chats := Function.update w.chats c .ended } else none

section

variable [Geo F] [Bcrypt] {w w' : ChatWorld F B}

theorem server_of_next {l : Label F} (hnext : w.next (.server l) = some w') :
    exists w1, w.world.next l = some w1 ∧ w' = w.afterServer w1 l := by
  simp only [next] at hnext
  split at hnext
  case h_1 => cases hnext
  case h_2 w1 hworld =>
    cases hnext
    exact ⟨w1, hworld, rfl⟩

theorem line_of_next {item : Option String} (hnext : w.next (.line item) = some w') :
    w.admin = .reading ∧
      w' = { w with admin := .afterLine item, lines := w.lines ++ item.toList } := by
  simp only [next] at hnext
  split at hnext
  case h_1 hadmin =>
    cases hnext
    exact ⟨hadmin, rfl⟩
  case h_2 => cases hnext

theorem admin_of_next {fails : Bool} (hnext : w.next (.admin fails) = some w') :
    exists admin chan out,
      w.admin.step w.chan w.world.state.sinks fails = some (admin, chan, out) ∧
        w' = { w with admin, chan, delivered := deliver w.delivered out } := by
  simp only [next] at hnext
  split at hnext
  case h_1 => cases hnext
  case h_2 admin chan out hstep =>
    cases hnext
    exact ⟨admin, chan, out, hstep, rfl⟩

theorem chat_of_next {c : ConnId} {fails : Bool} (hnext : w.next (.chat c fails) = some w') :
    exists task out,
      (w.chats c).step w.chan (w.world.state.userState c) fails = some (task, out) ∧
        w' =
          { w with
            chats := Function.update w.chats c task
            delivered := deliver w.delivered (out.map (Prod.mk c)) } := by
  simp only [next] at hnext
  split at hnext
  case h_1 => cases hnext
  case h_2 task out hstep =>
    cases hnext
    exact ⟨task, out, hstep, rfl⟩

theorem abort_of_next {c : ConnId} (hnext : w.next (.abort c) = some w') :
    w.aborted c = true ∧ w' = { w with chats := Function.update w.chats c .ended } := by
  simp only [next] at hnext
  split at hnext
  case isTrue haborted =>
    cases hnext
    exact ⟨haborted, rfl⟩
  case isFalse => cases hnext

end

def boot (users : Users) (trips : Trips) (positions : Positions F) : ChatWorld F B where
  world := World.boot users trips positions
  chan := B.channel
  chats := fun _ => .unspawned
  aborted := fun _ => false
  admin := .reading
  lines := []
  delivered := fun _ => []

end ChatWorld

abbrev ChatReachable [Geo F] [Bcrypt] {B : Broadcast ChatBroadcast}
    (cond : ChatWorld F B -> ChatLabel F -> Prop) (w w' : ChatWorld F B) : Prop :=
  Reach ChatWorld.next cond w w'

end Wanderust
