import Wanderust.Common.Message
import Wanderust.Interleaving.Runs
import Wanderust.Sim.Simulator
import Wanderust.Web.Texts

/-!
# The page

The client in the browser, `web/index.html`: its socket, its session, its trip
and the vehicle that it drives.  A handler runs to its end before the next one
starts, so a step of the page is one call of a handler.  What is only displayed
is left out, but for the chat log, which is made of HTML.
-/

namespace Wanderust.Page

open Sim

variable {F : Type}

/-! # State -/

/-- What `ws.send` is given. -/
inductive Frame (F : Type) where
  | request (msg : Message F)
  | resume (token : String)
deriving DecidableEq

inductive ReadyState where
  | connecting
  | opened
  | closing
  | closed
deriving DecidableEq

/-- `sessionStorage`, which can be disabled. -/
structure Storage where
  enabled : Bool
  token : Option String
  user : Option String

/-- `window.sim`.  A simulator that has panicked throws at every call. -/
inductive Vehicle (F : Type) where
  | absent
  | present (sim : Simulator F)
  | broken

inductive ChatEntry where
  | incoming (html : String)
  | own (text : String)
  | sys (text : String)

inductive Event (F : Type) where
  | received (msg : Message F)
  | queued (msg : Message F)
  | transmitted (frame : Frame F)
  | closed
  | quit
  | ticked (driving : Bool)
deriving DecidableEq

/-- The socket in use, the earlier ones that are still closing, and the state of the scripts. -/
structure State (F : Type) where
  ws : Option ReadyState
  closingSockets : Nat
  reconnects : Nat
  dashboard : Bool
  username : Option String
  token : Option String
  tripId : Option Int
  tripActive : Bool
  tripTs : Int
  pending : List (Message F)
  intentionalQuit : Bool
  resuming : Bool
  storage : Storage
  graphJson : Option String
  sim : Vehicle F
  sinceSend : F
  wasActive : Bool
  chatLog : List ChatEntry
  history : List (Event F)

namespace State

def log (s : State F) (e : Event F) : State F :=
  { s with history := s.history ++ [e] }

def transmit (s : State F) (frame : Frame F) : State F := s.log (.transmitted frame)

/-! # Storage -/

def loadStoredSession (s : State F) : Option (String × String) :=
  if s.storage.enabled then
    match truthy s.storage.token, truthy s.storage.user with
    | some token, some user => some (token, user)
    | _, _ => none
  else none

/-- A user name that is null is stored as a string. -/
def persistSession (s : State F) (token : String) (user : Option String) : State F :=
  if s.storage.enabled then
    { s with storage := { s.storage with token := some token, user := some (user.getD "null") } }
  else s

def clearStoredSession (s : State F) : State F :=
  if s.storage.enabled then
    { s with storage := { s.storage with token := none, user := none } }
  else s

/-! # Socket -/

def connect (s : State F) : State F :=
  match s.ws with
  | some .connecting => s
  | some .opened => s
  | some .closing =>
      { s with ws := some .connecting, closingSockets := s.closingSockets + 1 }
  | some .closed => { s with ws := some .connecting }
  | none => { s with ws := some .connecting }

def send (s : State F) (msg : Message F) : State F :=
  let s := s.log (.queued msg)
  match s.ws with
  | some .opened => s.transmit (.request msg)
  | some .connecting => { s with pending := s.pending ++ [msg] }
  | _ => connect { s with pending := s.pending ++ [msg] }

/-- The loop of `onopen`: no handler runs meanwhile, so that the socket stays open. -/
def flush (s : State F) : State F :=
  s.pending.foldl (fun s msg => s.transmit (.request msg)) { s with pending := [] }

def resume (s : State F) : State F :=
  if !s.dashboard && (truthy s.token).isNone then
    match s.loadStoredSession with
    | some (token, user) =>
        { s with resuming := true, username := some user }.transmit (.resume token)
    | none => s
  else s

def onOpen (s : State F) : State F :=
  { s with ws := some .opened }.resume.flush

/-- The scripts of the module, which have this function, may not be there yet. -/
def despawn (s : State F) : State F :=
  if s.graphJson.isSome then { s with sim := .absent } else s

def onClose (s : State F) : State F :=
  let s := { s.log .closed with tripActive := false }.despawn
  if s.intentionalQuit then
    { s with intentionalQuit := false, reconnects := s.reconnects + 1 }
  else s

/-! # Chat log -/

def appendSysMessage (s : State F) (text : String) : State F :=
  { s with chatLog := s.chatLog ++ [.sys text] }

def appendOwnMessage (s : State F) (text : String) : State F :=
  { s with chatLog := s.chatLog ++ [.own text] }

def chatHtml (sender text : String) : String :=
  "<div class=\"from\">" ++ escapeHtml sender ++ "</div>" ++ escapeHtml text

def appendChatMessage (s : State F) (sender : Option String) (text : String) : State F :=
  match truthy sender with
  | none => s.appendSysMessage text
  | some sender =>
      if some sender = s.username then s
      else { s with chatLog := s.chatLog ++ [.incoming (chatHtml sender text)] }

end State

/-! # Handlers -/

variable [Arith F] (fromStr : String -> Except String (Graph F))

namespace State

/-- A constructor that throws leaves `window.sim` as it is. -/
def respawn (s : State F) (seed : F) : State F :=
  match s.graphJson with
  | none => s
  | some graphJson =>
      match Simulator.build fromStr graphJson seed with
      | .ok (.ok sim) => { s with sim := .present sim }
      | _ => s

/-- `user` is what stands in the input field of the name. -/
def authOk (s : State F) (token user : String) (seed : F) : State F :=
  let s :=
    if s.resuming then s
    else
      match truthy (some (trim user)) with
      | some formUser => { s with username := some formUser }
      | none => s
  let s := { s with token := some token, resuming := false }
  let s := s.persistSession token s.username
  { s with dashboard := true }.respawn fromStr seed

def error (s : State F) (code message : String) : State F :=
  if s.resuming then
    { s with resuming := false, username := none }.clearStoredSession
  else if s.dashboard then
    s.appendSysMessage ("Error: " ++ (truthy (some message)).getD code)
  else s

def handleMessage (s : State F) (m : Message F) (user : String) (seed : F) : State F :=
  match m with
  | .authOk token => s.authOk fromStr token user seed
  | .tripStarted tripId _ _ _ => { s with tripId := some tripId, tripActive := true }
  | .chatFromServer sender text => s.appendChatMessage sender text
  | .error code message => s.error code message
  | _ => s

def doRegister (s : State F) (user pass : String) : State F :=
  match validateCreds user pass with
  | .ok (u, p) => s.send (.register u p)
  | .error _ => s

def doLogin (s : State F) (user pass : String) : State F :=
  match validateCreds user pass with
  | .ok (u, p) => s.send (.login u p)
  | .error _ => s

def doStart (s : State F) (now : Int) : State F :=
  match truthy s.token with
  | none => s
  | some token =>
      match s.sim with
      | .absent => s
      -- `startTrail` throws
      | .broken => { s with tripTs := now }
      | .present sim =>
          { s with tripTs := now }.send (.startTrip token sim.lat sim.lon now)

def doEnd (s : State F) (now : Int) : State F :=
  match truthy s.token, s.tripId.filter fun tripId => tripId != 0 with
  | some token, some tripId =>
      { s.send (.endTrip token tripId now) with tripActive := false }
  | _, _ => s

def toggleTrip (s : State F) (now : Int) : State F :=
  if !s.tripActive then s.doStart now else s.doEnd now

def doChat (s : State F) (chat : String) : State F :=
  match truthy s.token with
  | none => s
  | some token =>
      match truthy (some (trim chat)) with
      | none => s
      | some text => (s.appendOwnMessage text).send (.chatToServer token text)

/-- `interval` has the two times of the form, where both are filled in. -/
def doStats (s : State F) (interval : Option (Int × Int)) : State F :=
  match truthy s.token, interval with
  | some token, some (fromTs, toTs) => s.send (.stats token fromTs toTs)
  | _, _ => s

def doQuit (s : State F) : State F :=
  let s :=
    match truthy s.token with
    | some token => { s with intentionalQuit := true }.send (.disconnect token)
    | none => s
  let s := { s.log .quit with tripActive := false, token := none, tripId := none, username := none }
  { s.clearStoredSession.despawn with dashboard := false }

/-! # The clock -/

def animMs : F := 100
def sendSecs : Nat := 30
def timeScale : F := 1

def tickSecs : F := animMs / 1000 * timeScale

/-- The token is not null here: there is no vehicle without a session. -/
def sendPosition (s : State F) (tripId : Int) (sim : Simulator F) : State F :=
  let s := { s with
    sinceSend := s.sinceSend - (sendSecs : F)
    tripTs := s.tripTs + sendSecs }
  match s.token with
  | some token => s.send (.position token tripId sim.lat sim.lon s.tripTs)
  | none => s

/-- The time since the last position, in seconds. -/
def counted (s : State F) : State F :=
  let s := s.log (.ticked true)
  let s := if s.wasActive then s else { s with sinceSend := 0, wasActive := true }
  { s with sinceSend := s.sinceSend + tickSecs }

/-- The vehicle has moved; the trip, if there is one, is told of it now and then. -/
def driven (s : State F) (sim : Simulator F) : State F :=
  match if s.tripActive then s.tripId else none with
  | some tripId =>
      let s := s.counted
      if (sendSecs : F) ≤ s.sinceSend then s.sendPosition tripId sim else s
  | none => { s.log (.ticked false) with wasActive := false }

def tick (s : State F) : State F :=
  match s.graphJson, s.sim with
  | some _, .present sim =>
      match sim.advance tickSecs with
      | .ok sim => { s with sim := .present sim }.driven sim
      | .error _ => { s with sim := .broken }
  | _, _ => s

end State

/-! # Runs -/

inductive Label (F : Type) where
  | loaded (graphJson : String)
  | opened
  | closing
  | closed
  | earlierClosed
  | message (data : Option (Message F)) (user : String) (seed : F)
  | reconnect
  | register (user pass : String)
  | login (user pass : String)
  | toggleTrip (now : Int)
  | chat (text : String)
  | stats (interval : Option (Int × Int))
  | quit
  | tick

/-- A frame that is not a message of the protocol is ignored. -/
def onMessage (s : State F) (data : Option (Message F)) (user : String) (seed : F) : State F :=
  match data with
  | some m => (s.log (.received m)).handleMessage fromStr m user seed
  | none => s

def next (s : State F) : Label F -> Option (State F)
  | .loaded graphJson =>
      match s.graphJson with
      | none => some { s with graphJson := some graphJson, sim := .absent }
      | some _ => none
  | .opened =>
      match s.ws with
      | some .connecting => some s.onOpen
      | _ => none
  | .closing =>
      match s.ws with
      | some .connecting => some { s with ws := some .closing }
      | some .opened => some { s with ws := some .closing }
      | _ => none
  | .closed =>
      match s.ws with
      | some .closed => none
      | none => none
      | _ => some { s with ws := some .closed }.onClose
  | .earlierClosed =>
      match s.closingSockets with
      | 0 => none
      | n + 1 => some { s with closingSockets := n }.onClose
  | .message data user seed =>
      match s.ws with
      | some .opened => some (onMessage fromStr s data user seed)
      | _ => none
  | .reconnect =>
      match s.reconnects with
      | 0 => none
      | n + 1 => some { s with reconnects := n }.connect
  | .register user pass => some (s.doRegister user pass)
  | .login user pass => some (s.doLogin user pass)
  | .toggleTrip now => some (s.toggleTrip now)
  | .chat text => some (s.doChat text)
  | .stats interval => some (s.doStats interval)
  | .quit => some s.doQuit
  | .tick => some s.tick

/-- The page when it has been loaded, with what an earlier visit has stored. -/
def State.load (storage : Storage) : State F :=
  State.connect
    { ws := none
      closingSockets := 0
      reconnects := 0
      dashboard := false
      username := none
      token := none
      tripId := none
      tripActive := false
      tripTs := 0
      pending := []
      intentionalQuit := false
      resuming := false
      storage
      graphJson := none
      sim := .absent
      sinceSend := 0
      wasActive := false
      chatLog := []
      history := [] }

/-- The pages that can be reached, on roads that the condition allows. -/
def ReachableOn (graphs : String -> Prop) (page : State F) : Prop :=
  exists storage, Interleaving.Reach (next fromStr)
    (fun _ l => forall graphJson, l = .loaded graphJson -> graphs graphJson)
    (State.load storage) page

end Wanderust.Page
