import Wanderust.Interleaving.Monitor
import Wanderust.Server.HandleClient

/-!
# Programs that a monitor does not notice

Reading and adding accounts leaves the phase of a monitor alone that ignores the
operations on the accounts, and so do the statistics.  Of a login there remains
the opening of the session.  A monitor that only watches tokens and frames does
not notice the programs on the trips either.
-/

namespace Wanderust

open Interleaving Prog Monitor

variable {F Phase : Type} {M : Monitor (@Op.Ret F) Phase} {username : String}

def Op.isAccount : Op F -> Bool
  | .selectUser _ | .selectPasswordHash _ | .insertUser .. | .bcryptHash _ | .nowSecs => true
  | _ => false

def IgnoresAccounts (M : Monitor (@Op.Ret F) Phase) : Prop :=
  forall o : Op F, o.isAccount = true -> M.Ignores o

theorem silent_sql {alpha : Type} {p : Program F (Except SqlError alpha)}
    (hp : M.Silent p) : M.Silent (sql p) :=
  silent_mapError hp

theorem silent_keyExists (hignores : IgnoresAccounts M) (username : String) :
    M.Silent (keyExists username : Program F (Except String Bool)) :=
  silent_sql (silent_perform (hignores _ rfl))

theorem silent_checkCredentials [Bcrypt] (hignores : IgnoresAccounts M) (msg : Message F) :
    M.Silent (checkCredentials msg) := by
  cases msg with
  | login username password | register username password =>
      apply silent_bindOk (silent_sql (silent_perform (hignores _ rfl)))
      intro row
      cases row with
      | none => exact silent_pure _
      | some stored =>
          simp only
          split
          · exact silent_pure _
          · exact silent_pure _
  | _ => exact silent_pure _

theorem silent_saveRegister (hignores : IgnoresAccounts M) (msg : Message F) :
    M.Silent (saveRegister msg) := by
  cases msg with
  | register username password =>
      apply silent_bind (silent_perform (hignores _ rfl))
      intro passwordHash
      apply silent_bind (silent_perform (hignores _ rfl))
      intro now
      apply silent_bind (silent_perform (hignores _ rfl))
      intro r
      cases r with
      | ok => exact silent_pure _
      | error e =>
          simp only
          split
          · exact silent_pure _
          · exact silent_pure _
  | _ => exact silent_pure _

/-- The end that login and registration share: a token, and its session. -/
def openSession (username : String) : Program F (Except String (String × String)) :=
  createToken.bind fun token =>
  bindOk (tryInsertTokenProg username token) fun _ =>
  .pure (.ok (username, token))

section

variable {post : Except String (String × String) -> Phase -> Prop} {phase : Phase}

theorem follows_silent_bindOk {alpha beta : Type} {p : Program F (Except String alpha)}
    {f : alpha -> Program F (Except String beta)} {post : Except String beta -> Phase -> Prop}
    (hp : M.Silent p) (hok : forall a, M.Follows (f a) post phase)
    (herror : forall e, post (.error e) phase) : M.Follows (bindOk p f) post phase := by
  apply follows_silent_bind hp
  intro r
  cases r with
  | ok a => exact hok a
  | error e => exact herror e

theorem follows_checkNames (hignores : IgnoresAccounts M) {username : String}
    {r r' : Except String Unit} {f : Bool -> Program F (Except String (String × String))}
    (hf : forall known, M.Follows (f known) post phase)
    (herror : forall e, post (.error e) phase) :
    M.Follows (bindOk (.pure r) fun _ => bindOk (.pure r') fun _ => bindOk (keyExists username) f)
      post phase := by
  apply follows_silent_bindOk (silent_pure _) _ herror
  intro _
  apply follows_silent_bindOk (silent_pure _) _ herror
  intro _
  exact follows_silent_bindOk (silent_keyExists hignores username) hf herror

theorem follows_login [Bcrypt] (hignores : IgnoresAccounts M) {username : String}
    (password : String) (hopen : M.Follows (openSession username) post phase)
    (herror : forall e, post (.error e) phase) :
    M.Follows (login (.login username password)) post phase := by
  apply follows_checkNames hignores _ herror
  intro known
  split
  · exact herror _
  · apply follows_silent_bindOk (silent_mapError (silent_checkCredentials hignores _)) _ herror
    intro _
    exact hopen

theorem follows_register (hignores : IgnoresAccounts M) {username : String}
    (password : String) (hopen : M.Follows (openSession username) post phase)
    (herror : forall e, post (.error e) phase) :
    M.Follows (register (.register username password)) post phase := by
  apply follows_checkNames hignores _ herror
  intro known
  split
  · exact herror _
  · apply follows_silent_bindOk (silent_saveRegister hignores _) _ herror
    intro _
    exact hopen

end

theorem silent_movementStats [Geo F]
    (hignores : forall fromTs toTs, M.Ignores (.selectTrajectory username fromTs toTs))
    (fromTs toTs : Int) :
    M.Silent (movementStatsForUser username fromTs toTs :
      Program F (Except String (MovementStats F))) := by
  apply silent_bindOk
  · unfold trajectoryForUser
    split
    · exact silent_pure _
    · exact silent_sql (silent_perform (hignores fromTs toTs))
  · intro points
    exact silent_pure _

/-! # Programs that neither draw a token nor send -/

def Op.isInternal : Op F -> Bool
  | .drawFreshToken | .send _ | .sendClose => false
  | _ => true

def IgnoresInternal (M : Monitor (@Op.Ret F) Phase) : Prop :=
  forall o : Op F, o.isInternal = true -> M.Ignores o

theorem IgnoresInternal.accounts (hM : IgnoresInternal M) : IgnoresAccounts M := by
  intro o ho
  apply hM
  cases o with
  | selectUser _ | selectPasswordHash _ | insertUser _ _ _ | bcryptHash _ | nowSecs => rfl
  | _ => cases ho

theorem silent_act (hM : IgnoresInternal M) {o : Op F} (ho : o.isInternal = true) :
    M.Silent (act o) :=
  silent_perform (hM o ho)

theorem silent_tryInsertToken (hM : IgnoresInternal M) (username token : String) :
    M.Silent (tryInsertTokenProg username token : Program F (Except String Unit)) := by
  apply silent_bind (silent_act hM rfl)
  intro r
  split
  · exact silent_pure _
  · exact silent_pure _

theorem silent_validateToken (hM : IgnoresInternal M) (token : String) :
    M.Silent (validateToken token : Program F (Option String)) := by
  apply silent_bind (silent_act hM rfl)
  intro r
  cases r with
  | none => exact silent_pure _
  | some user =>
      apply silent_bind (silent_act hM rfl)
      intro stateUser
      split
      · exact silent_pure _
      · exact silent_pure _

theorem silent_dropPrevious (hM : IgnoresInternal M) (currentUser : Option String) :
    M.Silent (dropPrevious currentUser : Program F Unit) := by
  cases currentUser with
  | none => exact silent_pure _
  | some u =>
      apply silent_bind (silent_act hM rfl)
      intro _
      apply silent_bind (silent_act hM rfl)
      intro _
      exact silent_act hM rfl

/-! # Trips -/

theorem silent_endTrip (hM : IgnoresInternal M) (tripId : Int) (username : String) (ts : Int) :
    M.Silent (endTrip tripId username ts : Program F (Except String Unit)) := by
  apply silent_bindOk (silent_sql (silent_act hM rfl))
  intro rowsAffected
  split
  · exact silent_pure _
  · exact silent_pure _

theorem silent_insertPosition (hM : IgnoresInternal M) (tripId : Int) (lat lon : F) (ts : Int)
    (stopped : Bool) :
    M.Silent (insertPosition tripId lat lon ts stopped) :=
  silent_sql (silent_act hM rfl)

theorem silent_initializeTrips (hM : IgnoresInternal M) (user : String) (lat lon : F) (ts : Int) :
    M.Silent (initializeTrips user lat lon ts) := by
  apply silent_bindOk
  · apply silent_mapError
    apply silent_bindOk (silent_sql (silent_act hM rfl))
    intro id
    apply silent_bindOk (silent_insertPosition hM id lat lon ts false)
    intro _
    exact silent_pure _
  · intro tripId
    apply silent_bind (silent_act hM rfl)
    intro _
    apply silent_bind (silent_act hM rfl)
    intro _
    exact silent_pure _

theorem silent_terminateTrip (hM : IgnoresInternal M) (tripId : Int) (user : String) (ts : Int) :
    M.Silent (terminateTrip tripId user ts : Program F (Except String Unit)) := by
  apply silent_bindOk (silent_mapError (silent_endTrip hM tripId user ts))
  intro _
  apply silent_bind (silent_act hM rfl)
  intro _
  exact silent_pure _

theorem silent_applyTransition (hM : IgnoresInternal M) (user : String)
    (transition : StatusTransition) :
    M.Silent (applyTransition user transition : Program F Unit) := by
  cases transition with
  | toMoving => exact silent_act hM rfl
  | toStationary => exact silent_act hM rfl
  | unchanged => exact silent_pure _

theorem silent_applyInsert (hM : IgnoresInternal M) (tripId : Int) (lat lon : F) (ts : Int)
    (action : InsertAction) :
    M.Silent (applyInsert tripId lat lon ts action) := by
  cases action with
  | insert stopped => exact silent_mapError (silent_insertPosition hM tripId lat lon ts stopped)
  | skip => exact silent_pure _

theorem silent_updateTrip (hM : IgnoresInternal M) (tripId : Int) (user : String) (lat lon : F)
    (ts : Int) : M.Silent (updateTrip tripId user lat lon ts) := by
  apply silent_bind (silent_act hM rfl)
  intro r
  cases r with
  | none => exact silent_pure _
  | some r =>
      rcases r with ⟨action, transition⟩
      apply silent_bindOk (silent_applyInsert hM tripId lat lon ts action)
      intro _
      apply silent_bind (silent_applyTransition hM user transition)
      intro _
      exact silent_pure _

theorem silent_closeTrips (hM : IgnoresInternal M) (user : String) (ts : Int) (ids : List Int) :
    M.Silent (closeTrips user ts ids : Program F Unit) := by
  induction ids with
  | nil => exact silent_pure _
  | cons id rest ih =>
      apply silent_bind (silent_endTrip hM id user ts)
      intro _
      apply silent_bind (silent_act hM rfl)
      intro _
      exact ih

theorem silent_closeOpenTrips (hM : IgnoresInternal M) (user : String) :
    M.Silent (closeOpenTrips user : Program F Unit) := by
  apply silent_bind (silent_act hM rfl)
  intro ts
  apply silent_bind (silent_sql (silent_act hM rfl))
  intro r
  cases r with
  | ok ids => exact silent_closeTrips hM user ts ids
  | error e => exact silent_pure _

theorem silent_logout (hM : IgnoresInternal M) (user token : String) :
    M.Silent (logout user token : Program F Unit) := by
  apply silent_bind (silent_closeOpenTrips hM user)
  intro _
  apply silent_bind (silent_act hM rfl)
  intro _
  apply silent_bind (silent_act hM rfl)
  intro _
  apply silent_bind (silent_act hM rfl)
  intro _
  exact silent_act hM rfl

theorem silent_cleanup (hM : IgnoresInternal M) : M.Silent (cleanup : Program F Unit) := by
  apply silent_bind (silent_act hM rfl)
  intro r
  cases r with
  | none => exact silent_pure _
  | some user =>
      apply silent_bind (silent_closeOpenTrips hM user)
      intro _
      apply silent_bind (silent_act hM rfl)
      intro _
      apply silent_bind (silent_act hM rfl)
      intro _
      apply silent_bind (silent_act hM rfl)
      intro _
      exact silent_pure _

end Wanderust
