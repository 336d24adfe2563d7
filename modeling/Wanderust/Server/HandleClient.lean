import Wanderust.Db.Statistics
import Wanderust.Server.Trips

/-!
# The dispatcher

The body of the read loop of `handle_client`, one definition for each arm, and
the cleanup that follows the loop.
-/

namespace Wanderust

open Interleaving Prog

variable {F : Type}

/-- How one turn of the read loop ends: `continue`, `break`, or an early `return Err`. -/
inductive Flow where
  | next
  | leave
  | abort
deriving DecidableEq

/-- `send(..).await?` as the last thing of an arm. -/
def reply (msg : Message F) : Program F Flow := do
  if ← act (.send msg) then return .next else return .abort

def replyError (code message : String) : Program F Flow :=
  reply (.error code message)

/-! # Login, registration and the account switch -/

/-- The previous user of the connection is dropped: session first, then status and sink. -/
def dropPrevious (currentUser : Option String) : Program F Unit := do
  match currentUser with
  | some u =>
      let _ ← act (.invalidateUserSessions u)
      act (.statusRemove u)
      act (.sinksRemove u)
  | none => return ()

/-- The block that Login and Register share, after a successful authentication. -/
def installUser (currentUser : Option String) (username token : String) :
    Program F Flow := do
  dropPrevious currentUser
  act (.setUserState (some username))
  act (.statusSet username .stationary)
  act (.sinksInsert username)
  reply (.authOk token)

def loginArm [Bcrypt] (username password : String) : Program F Flow := do
  let currentUser ← act .getUserState
  if currentUser = some username then
    replyError "ALREADY_AUTHENTICATED" ("already authenticated as " ++ username)
  else
    match ← login (.login username password) with
    | .ok (username, token) => installUser currentUser username token
    | .error e => replyError "AUTH_FAILED" e

def registerArm (username password : String) : Program F Flow := do
  let currentUser ← act .getUserState
  match ← register (.register username password) with
  | .ok (username, token) => installUser currentUser username token
  | .error e => replyError "REGISTER_FAILED" e

/-! # Requests that carry a token -/

/-- Runs `body` for the user of the token, or answers `UNAUTHORIZED`. -/
def authorized (token : String) (body : String -> Program F Flow) : Program F Flow := do
  match ← validateToken token with
  | some user => body user
  | none => replyError "UNAUTHORIZED" "invalid token"

/-- The checks that StartTrip and Position make on a sample before anything else. -/
def checkedSample [Geo F] (lat lon : F) (ts : Int) (body : Program F Flow) : Program F Flow :=
  if !coordsInRange lat lon then replyError "BAD_REQUEST" "coordinates out of range"
  else if ts ≤ 0 then replyError "BAD_REQUEST" "invalid timestamp"
  else body

def startTripArm [Geo F] (token : String) (lat lon : F) (ts : Int) : Program F Flow :=
  authorized token fun user =>
  checkedSample lat lon ts do
    match ← initializeTrips user lat lon ts with
    | .ok tripId => reply (.tripStarted tripId lat lon ts)
    | .error e => replyError "START_TRIP_FAILED" e

def positionOpenTrip (user : String) (tripId : Int) (lat lon : F) (ts : Int) :
    Program F Flow := do
  if ← act (.isTracked tripId) then
    match ← updateTrip tripId user lat lon ts with
    | .ok () => reply .ack
    | .error e => replyError "UPDATE_TRIP_FAILED" e
  else
    -- the in-memory state is lost: close the orphan, whether or not the statement succeeds
    let _ ← endTrip tripId user ts
    replyError "TRIP_TERMINATED" "trip closed by the server (state lost): open a new trip"

def positionArm [Geo F] (token : String) (tripId : Int) (lat lon : F) (ts : Int) :
    Program F Flow :=
  authorized token fun user =>
  checkedSample lat lon ts do
    match ← tripOpenFor tripId user with
    | .ok true => positionOpenTrip user tripId lat lon ts
    | .ok false => replyError "BAD_REQUEST" "trip missing, not yours or already closed"
    | .error e => replyError "BAD_REQUEST" e

def endTripArm (token : String) (tripId : Int) (ts : Int) : Program F Flow :=
  authorized token fun user => do
    match ← terminateTrip tripId user ts with
    | .ok () => reply .ack
    | .error e => replyError "BAD_REQUEST" e

def MovementStats.toMessage (stats : MovementStats F) : Message F :=
  .statsResult stats.username stats.fromTs stats.toTs stats.distanceM stats.movementSecs
    stats.pauseSecs stats.totalSecs stats.avgSpeedMps stats.avgSpeedKmh stats.points

def movementStatsForUser [Geo F] (username : String) (fromTs toTs : Int) :
    Program F (Except String (MovementStats F)) :=
  bindOk (trajectoryForUser username fromTs toTs) fun points =>
  .pure (.ok (computeMovementStats username fromTs toTs points))

def statsArm [Geo F] (token : String) (fromTs toTs : Int) : Program F Flow :=
  authorized token fun user => do
    match ← movementStatsForUser user fromTs toTs with
    | .ok stats => reply stats.toMessage
    | .error e => replyError "BAD_REQUEST" e

def chatArm (token text : String) : Program F Flow :=
  authorized token fun _ =>
    match validateChat text with
    | .error e => replyError "BAD_REQUEST" e
    | .ok () => reply .ack

/-- The part of the Disconnect arm that logs the user out, when the token is his. -/
def logout (user token : String) : Program F Unit := do
  closeOpenTrips user
  act (.statusRemove user)
  act (.sinksRemove user)
  act (.invalidateToken token)
  act (.setUserState none)

/-- The end of the Disconnect arm; only the reply can abort, not the Close frame. -/
def farewell : Program F Flow := do
  if ← act (.send .ack) then
    act .sendClose
    return .leave
  else
    return .abort

def disconnectArm (token : String) : Program F Flow := do
  let stateUser ← act .getUserState
  match ← act (.getUserByToken token) with
  | some user =>
      if stateUser = some user then
        logout user token
      farewell
  | none => farewell

/-! # Dispatch and cleanup -/

def dispatch [Geo F] [Bcrypt] (msg : Message F) : Program F Flow :=
  match msg with
  | .login username password => loginArm username password
  | .register username password => registerArm username password
  | .startTrip token lat lon ts => startTripArm token lat lon ts
  | .position token tripId lat lon ts => positionArm token tripId lat lon ts
  | .endTrip token tripId ts => endTripArm token tripId ts
  | .stats token fromTs toTs => statsArm token fromTs toTs
  | .chatToServer token text => chatArm token text
  | .disconnect token => disconnectArm token
  | .tripStarted .. | .authOk .. | .ack | .error .. | .statsResult .. | .chatFromServer .. =>
      replyError "BAD_REQUEST" "invalid message type from client"

/-- One turn of the read loop, on what the stream yielded. -/
def serve [Geo F] [Bcrypt] (item : Incoming F) : Program F Flow :=
  match item with
  | .message msg => dispatch msg
  | .notUtf8 => replyError "BAD_REQUEST" "binary payload is not UTF-8"
  | .malformed => replyError "BAD_REQUEST" "invalid message"
  | .empty | .pingPong => .pure .next
  | .closeFrame | .readError | .endOfStream => .pure .leave

/-- What follows the read loop. -/
def cleanup : Program F Unit := do
  match ← act .getUserState with
  | some user =>
      closeOpenTrips user
      act (.statusRemove user)
      act (.sinksRemove user)
      let _ ← act (.invalidateUserSessions user)
  | none => return ()

/-! # Frames -/

/-- A frame of the WebSocket stream. -/
inductive WsMessage where
  | text (t : String)
  | binary (b : ByteArray)
  | ping
  | pong
  | close

/-- The checks before the dispatch, for a text given as a string. -/
def receiveLine (decode : String -> Option (Message F)) (line : String) : Incoming F :=
  if line.isEmpty then .empty
  else
    match decode line with
    | some msg => .message msg
    | none => .malformed

def receiveFrame (decode : String -> Option (Message F)) : WsMessage -> Incoming F
  | .text t => receiveLine decode t
  | .binary b =>
      match String.fromUTF8? b with
      | some t => receiveLine decode t
      | none => .notUtf8
  | .ping | .pong => .pingPong
  | .close => .closeFrame

/-- `stream.next()`: a frame, a read error, or the end of the stream. -/
def receive (decode : String -> Option (Message F)) :
    Option (Except Unit WsMessage) -> Incoming F
  | some (.ok m) => receiveFrame decode m
  | some (.error ()) => .readError
  | none => .endOfStream

end Wanderust
