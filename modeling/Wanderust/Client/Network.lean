import Wanderust.Client.Turns
import Wanderust.Common.Wire
import Wanderust.Session.Issued
import Wanderust.Session.TripNews

/-!
# The server and its clients

A client at the other end of every connection of the server.  Requests and
replies travel as texts, in order; a connection may break at any time, and
frames of the chat may come in between.
-/

namespace Wanderust

open Interleaving Json

variable {F : Type}

/-! # What has been put on the wire -/

def Event.sent? : Event F -> Option (Message F)
  | .sent msg => some msg
  | _ => none

def Event.request? : Event F -> Option (Message F)
  | .received (.message msg) => some msg
  | _ => none

def State.replies (s : State F) (c : ConnId) : List (Message F) :=
  (s.traffic c).filterMap Event.sent?

def State.requests (s : State F) (c : ConnId) : List (Message F) :=
  (s.traffic c).filterMap Event.request?

namespace Cli

def Event.request? : Event F -> Option (Message F)
  | .sent _ msg => some msg
  | _ => none

/-- The answer that an event has brought; a frame of the chat is none. -/
def Event.answer? : Event F -> Option (Message F)
  | .received (.chatFromServer _ _) => none
  | .received msg => some msg
  | _ => none

def State.requests (s : State F) : List (Message F) := s.history.filterMap Event.request?

def State.answers (s : State F) : List (Message F) := s.history.filterMap Event.answer?

def bringsMessage : Label F -> Bool
  | .start .receiver (.message _) => true
  | _ => false

end Cli

def Label.bringsRequest : Label F -> Bool
  | .receive _ (.message _) => true
  | _ => false

/-! # The network -/

/-- The frames of each direction that have been read are counted. -/
structure Network (F : Type) where
  server : World F
  clients : ConnId -> Cli.Client F
  requestsRead : ConnId -> Nat
  repliesRead : ConnId -> Nat

/--
Besides the steps of the two sides: the next request reaches the server, the next
reply reaches the client, or a frame of the chat does.
-/
inductive NetworkLabel (F : Type) where
  | server (l : Label F)
  | client (c : ConnId) (l : Cli.Label F)
  | request (c : ConnId)
  | reply (c : ConnId)
  | chat (c : ConnId) (sender : Option String) (text : String)

namespace Network

def boot [Geo F] (users : Users) (trips : Trips) (positions : Positions F) : Network F :=
  { server := World.boot users trips positions
    clients := fun _ => Cli.Client.initial
    requestsRead := fun _ => 0
    repliesRead := fun _ => 0 }

variable [JsonFloat F] (text : TextFormat F)

instance (m : Message F) : Decidable m.InRange :=
  inferInstanceAs (Decidable (forall i, i ∈ m.integers -> _))

/-- What the server makes of a message of a client; every `i64` is in its range. -/
def carried (msg : Message F) : Option (Incoming F) :=
  if msg.InRange then some (receive (decode text) (some (.ok (.text (encode text msg))))) else none

/-- What the client makes of a message of the server. -/
def carriedBack (msg : Message F) : Option (Cli.Arrival F) :=
  if msg.InRange then some (Cli.arrival (decode text) (some (.ok (.text (encode text msg)))))
  else none

variable [Geo F] [Bcrypt] [Cli.ParseF64 F]

def ofServer (n : Network F) (w : World F) : Network F := { n with server := w }

def ofClient (n : Network F) (c : ConnId) (client : Cli.Client F) : Network F :=
  { n with clients := Function.update n.clients c client }

def next (n : Network F) : NetworkLabel F -> Option (Network F)
  | .server l => if l.bringsRequest then none else (n.server.next l).map n.ofServer
  | .client c l =>
      if Cli.bringsMessage l then none
      else (Cli.Client.next (n.clients c) l).map (n.ofClient c)
  | .request c => do
      let msg ← (n.clients c).state.requests[n.requestsRead c]?
      let item ← carried text msg
      let w ← n.server.next (.receive c item)
      return { n.ofServer w with
        requestsRead := Function.update n.requestsRead c (n.requestsRead c + 1) }
  | .reply c => do
      let msg ← (n.server.state.replies c)[n.repliesRead c]?
      let item ← carriedBack text msg
      let client ← Cli.Client.next (n.clients c) (.start .receiver item)
      return { n.ofClient c client with
        repliesRead := Function.update n.repliesRead c (n.repliesRead c + 1) }
  | .chat c sender line => do
      let item ← carriedBack text (.chatFromServer sender line)
      let client ← Cli.Client.next (n.clients c) (.start .receiver item)
      return n.ofClient c client

abbrev ReachableFrom (users : Users) (trips : Trips) (positions : Positions F)
    (n : Network F) : Prop :=
  Reach (next text) (fun _ _ => True) (boot users trips positions) n

end Network

end Wanderust
