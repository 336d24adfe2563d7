import Wanderust.Server.State

/-!
# The meaning of the operations

Each operation is executed by a connection on the shared state.  The stores
follow `AuthStore` of the db crate and the modules `status` and `trips` of the
server.
-/

namespace Wanderust

open Interleaving

variable {F : Type}

/-! # The session store -/

def hasSession (sessions : Table String String) (username : String) : Bool :=
  sessions.anyRow (fun _ u => u == username)

/-- Check and insert under one lock. -/
def tryInsertToken (sessions : Table String String) (username token : String) :
    Bool × Table String String :=
  if hasSession sessions username then (false, sessions)
  else (true, sessions.insert token username)

/-- All tokens of the user are removed; the answer is their number. -/
def invalidateUserSessions (sessions : Table String String) (username : String) :
    Nat × Table String String :=
  let tokens := sessions.keysWhere (fun _ u => u == username)
  (tokens.length, Table.eraseAll sessions tokens)

/-! # The trip store -/

/-- `STOP_THRESHOLD_SAMPLES`: this many equal samples, and one more, make a stop. -/
def stopThresholdSamples : Nat := 6

/-- The critical section of `update_trip`: the new state of the trip and what to do. -/
def CoordState.observe [Geo F] (coord : CoordState F) (lat lon : F) :
    CoordState F × InsertAction × StatusTransition :=
  if coordsEqual coord.lat coord.lon lat lon then
    if coord.n < stopThresholdSamples then
      ({ coord with n := coord.n + 1 }, .insert false, .unchanged)
    else if !coord.inserted then
      ({ coord with inserted := true }, .insert true, .toStationary)
    else
      (coord, .skip, .unchanged)
  else
    ({ lat, lon, n := 1, inserted := false }, .insert false, .toMoving)

/-! # Execution -/

def Choice.sqlError (ch : Choice) : SqlError :=
  { uniqueViolation := false, text := ch.errorText }

def State.log (s : State F) (c : ConnId) (e : Event F) : State F :=
  { s with traffic := Function.update s.traffic c (s.traffic c ++ [e]) }

def answerQuery {alpha : Type} (ch : Choice) (s : State F) (a : alpha) :
    Outcome (Except SqlError alpha) (State F) :=
  if ch.fails then .done (.error ch.sqlError) s else .done (.ok a) s

def exec [Geo F] [Bcrypt] (c : ConnId) (ch : Choice) :
    (o : Op F) -> State F -> Outcome o.Ret (State F)
  | .getUserState, s => .done (s.userState c) s
  | .setUserState user, s =>
      .done () { s with userState := Function.update s.userState c user }
  | .drawFreshToken, s =>
      let s' := { s with drawn := (ch.uuid, c) :: s.drawn }
      if (s.sessions.lookup ch.uuid).isNone then .done ch.uuid s' else .again s'
  | .tryInsertToken username token, s =>
      let r := tryInsertToken s.sessions username token
      .done r.1 { s with sessions := r.2 }
  | .getUserByToken token, s => .done (s.sessions.lookup token) s
  | .invalidateToken token, s =>
      .done () { s with sessions := s.sessions.erase token }
  | .invalidateUserSessions username, s =>
      let r := invalidateUserSessions s.sessions username
      .done r.1 { s with sessions := r.2 }
  | .statusSet user newStatus, s =>
      .done ()
        { s with
          statuses := s.statuses.insert user newStatus
          statusBy := Function.update s.statusBy user (some c) }
  | .statusRemove user, s =>
      .done ()
        { s with
          statuses := s.statuses.erase user
          statusBy := Function.update s.statusBy user none }
  | .sinksInsert user, s => .done () { s with sinks := s.sinks.insert user c }
  | .sinksRemove user, s => .done () { s with sinks := s.sinks.erase user }
  | .trackTrip tripId lat lon, s =>
      .done ()
        { s with
          lastCoordinates :=
            s.lastCoordinates.insert tripId { lat, lon, n := 1, inserted := false } }
  | .dropTrip tripId, s =>
      .done () { s with lastCoordinates := s.lastCoordinates.erase tripId }
  | .isTracked tripId, s => .done (s.lastCoordinates.lookup tripId).isSome s
  | .observeCoord tripId lat lon, s =>
      match s.lastCoordinates.lookup tripId with
      | none => .done none s
      | some coord =>
          let r := coord.observe lat lon
          .done (some r.2)
            { s with lastCoordinates := s.lastCoordinates.insert tripId r.1 }
  | .selectUser username, s => answerQuery ch s (s.users.lookup username).isSome
  | .selectPasswordHash username, s =>
      answerQuery ch s ((s.users.lookup username).map User.passwordHash)
  | .insertUser username passwordHash createdAt, s =>
      if ch.fails then .done (.error ch.sqlError) s
      else
        match insertUserRow s.users username passwordHash createdAt with
        | none => .done (.error { uniqueViolation := true, text := ch.errorText }) s
        | some users => .done (.ok ()) { s with users }
  | .insertTrip username ts, s =>
      if ch.fails then .done (.error ch.sqlError) s
      -- the database never gives out the id of an existing row
      else if (s.trips.lookup ch.tripId).isSome then .blocked
      else
        match insertTripRow s.users s.trips ch.tripId username ts with
        | none => .done (.error ch.sqlError) s
        | some trips => .done (.ok ch.tripId) { s with trips }
  | .insertPosition tripId lat lon ts stopped, s =>
      if ch.fails then .done (.error ch.sqlError) s
      else
        match insertPositionRow s.trips s.positions tripId lat lon ts stopped with
        | none =>
            .done (.error
              { uniqueViolation := (s.positions.lookup (tripId, ts)).isSome
                text := ch.errorText }) s
        | some positions => .done (.ok ()) { s with positions }
  | .updateTripEnded tripId username ts, s =>
      if ch.fails then .done (.error ch.sqlError) s
      else
        let r := updateTripEnded s.trips tripId username ts
        .done (.ok r.1) { s with trips := r.2 }
  | .selectOpenTrip tripId username, s => answerQuery ch s (selectOpenTrip s.trips tripId username)
  | .selectOpenTripIds username, s => answerQuery ch s (selectOpenTripIds s.trips username)
  | .selectTrajectory username fromTs toTs, s =>
      answerQuery ch s (selectTrajectory s.trips s.positions username fromTs toTs)
  | .bcryptHash password, s => .done (Bcrypt.hash ch.salt password) s
  | .nowSecs, s => .done ch.now s
  | .send msg, s =>
      if ch.fails then .done false (s.log c (.sendFailed msg))
      else .done true (s.log c (.sent msg))
  -- the code ignores the failure of a Close frame
  | .sendClose, s => if ch.fails then .done () s else .done () (s.log c .closeSent)

/-- Only the draw of a token may ask for another turn. -/
theorem exec_not_again [Geo F] [Bcrypt] {c : ConnId} {ch : Choice} {o : Op F} {s s' : State F}
    (h : o ≠ .drawFreshToken) : exec c ch o s ≠ .again s' := by
  intro hexec
  cases o with
  | drawFreshToken => exact h rfl
  | _ =>
      simp only [exec, answerQuery] at hexec
      repeat' split at hexec
      all_goals cases hexec

/-! # The session store, in terms of look-ups -/

theorem hasSession_iff {sessions : Table String String} {username : String} :
    hasSession sessions username = true <->
      exists token, sessions.lookup token = some username := by
  simp [hasSession, Table.anyRow_iff]

theorem lookup_invalidateUserSessions (sessions : Table String String)
    (username token : String) :
    (invalidateUserSessions sessions username).2.lookup token =
      if sessions.lookup token = some username then none else sessions.lookup token := by
  simp [invalidateUserSessions, Table.lookup_eraseAll, Table.mem_keysWhere]

end Wanderust
