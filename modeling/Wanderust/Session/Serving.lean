import Wanderust.Session.Silent
import Wanderust.Session.Transcript

/-!
# One turn of the read loop, for a monitor of tokens and frames

Such a monitor notices of most arms nothing but the reply at their end.  What
remains to be shown of a turn is what the monitor makes of a reply, of the two
arms that open a session, and of the end of the loop.
-/

namespace Wanderust

open Interleaving Prog Monitor

variable {F Phase : Type} {M : Monitor (@Op.Ret F) Phase} {item : Incoming F}
variable {post : Flow -> Phase -> Prop} {phase : Phase}

/-! # Answers -/

/-- Items that end the read loop without a reply. -/
def Incoming.hangsUp (item : Incoming F) : Prop :=
  item = .closeFrame ∨ item = .readError ∨ item = .endOfStream

/-- Items that get one reply, after which the read loop goes on. -/
def Incoming.asks : Incoming F -> Prop
  | .message (.disconnect _) => False
  | .message _ | .notUtf8 | .malformed => True
  | _ => False

def AcceptsReplies (M : Monitor (@Op.Ret F) Phase) (item : Incoming F)
    (post : Flow -> Phase -> Prop) (phase : Phase) : Prop :=
  forall msg, item.admits msg -> (forall token, msg ≠ .authOk token) ->
    M.Follows (reply msg) post phase

structure AcceptsTurn [Bcrypt] (M : Monitor (@Op.Ret F) Phase) (item : Incoming F)
    (post : Flow -> Phase -> Prop) (phase : Phase) : Prop where
  replies : item.asks -> AcceptsReplies M item post phase
  login : forall username password, item = .message (.login username password) ->
    M.Follows (loginArm username password) post phase
  register : forall username password, item = .message (.register username password) ->
    M.Follows (registerArm username password) post phase
  farewell : forall token, item = .message (.disconnect token) -> M.Follows farewell post phase
  skips : item.silent -> post .next phase
  hangsUp : item.hangsUp -> post .leave phase

theorem AcceptsReplies.error (h : AcceptsReplies M item post phase) (code text : String) :
    M.Follows (replyError code text) post phase :=
  h (.error code text) trivial (by simp)

/-! # The arms -/

theorem follows_authorized (hM : IgnoresInternal M) (h : AcceptsReplies M item post phase)
    {token : String} {body : String -> Program F Flow}
    (hbody : forall user, M.Follows (body user) post phase) :
    M.Follows (authorized token body) post phase := by
  apply follows_silent_bind (silent_validateToken hM token)
  intro r
  cases r with
  | some user => exact hbody user
  | none => exact h.error _ _

theorem follows_endTripArm (hM : IgnoresInternal M) {token : String} {tripId ts : Int}
    (h : AcceptsReplies M (.message (.endTrip token tripId ts)) post phase) :
    M.Follows (endTripArm token tripId ts) post phase := by
  apply follows_authorized hM h
  intro user
  apply follows_silent_bind (silent_terminateTrip hM tripId user ts)
  intro r
  cases r with
  | ok => exact h _ (Or.inr (Or.inl ⟨token, tripId, ts, rfl⟩)) (by simp)
  | error e => exact h.error _ _

theorem follows_chatArm (hM : IgnoresInternal M) {token text : String}
    (h : AcceptsReplies M (.message (.chatToServer token text)) post phase) :
    M.Follows (chatArm token text) post phase := by
  apply follows_authorized hM h
  intro user
  split
  · exact h.error _ _
  · exact h _ (Or.inr (Or.inr (Or.inl ⟨token, text, rfl⟩))) (by simp)

theorem follows_disconnectArm (hM : IgnoresInternal M) (token : String)
    (h : M.Follows farewell post phase) : M.Follows (disconnectArm token) post phase := by
  apply follows_silent_bind (silent_act hM rfl)
  intro stateUser
  apply follows_silent_bind (silent_act hM rfl)
  intro r
  cases r with
  | none => exact h
  | some user =>
      simp only
      split
      · apply follows_silent_bind (silent_logout hM user token)
        intro _
        exact h
      · exact h

section

variable [Geo F]

theorem follows_checkedSample (h : AcceptsReplies M item post phase) {lat lon : F} {ts : Int}
    {body : Program F Flow} (hbody : M.Follows body post phase) :
    M.Follows (checkedSample lat lon ts body) post phase := by
  unfold checkedSample
  split
  · exact h.error _ _
  · split
    · exact h.error _ _
    · exact hbody

theorem follows_startTripArm (hM : IgnoresInternal M) {token : String} {lat lon : F} {ts : Int}
    (h : AcceptsReplies M (.message (.startTrip token lat lon ts)) post phase) :
    M.Follows (startTripArm token lat lon ts) post phase := by
  apply follows_authorized hM h
  intro user
  apply follows_checkedSample h
  apply follows_silent_bind (silent_initializeTrips hM user lat lon ts)
  intro r
  cases r with
  | ok tripId => exact h _ ⟨token, lat, lon, ts, rfl⟩ (by simp)
  | error e => exact h.error _ _

theorem follows_positionArm (hM : IgnoresInternal M) {token : String} {tripId : Int} {lat lon : F}
    {ts : Int} (h : AcceptsReplies M (.message (.position token tripId lat lon ts)) post phase) :
    M.Follows (positionArm token tripId lat lon ts) post phase := by
  apply follows_authorized hM h
  intro user
  apply follows_checkedSample h
  apply follows_silent_bind (silent_sql (silent_act hM rfl))
  intro r
  cases r with
  | error e => exact h.error _ _
  | ok isOpen =>
      cases isOpen with
      | false => exact h.error _ _
      | true =>
          apply follows_silent_bind (silent_act hM rfl)
          intro tracked
          split
          · apply follows_silent_bind (silent_updateTrip hM tripId user lat lon ts)
            intro r
            cases r with
            | ok => exact h _ (Or.inl ⟨token, tripId, lat, lon, ts, rfl⟩) (by simp)
            | error e => exact h.error _ _
          · apply follows_silent_bind (silent_endTrip hM tripId user ts)
            intro _
            exact h.error _ _

theorem follows_statsArm (hM : IgnoresInternal M) {token : String} {fromTs toTs : Int}
    (h : AcceptsReplies M (.message (.stats token fromTs toTs)) post phase) :
    M.Follows (statsArm token fromTs toTs) post phase := by
  apply follows_authorized hM h
  intro user
  apply follows_silent_bind (silent_movementStats (fun _ _ => hM _ rfl) fromTs toTs)
  intro r
  cases r with
  | ok stats => exact h _ ⟨token, fromTs, toTs, rfl⟩ (by simp [MovementStats.toMessage])
  | error e => exact h.error _ _

/-! # One turn of the read loop -/

theorem follows_serve [Bcrypt] (hM : IgnoresInternal M) (h : AcceptsTurn M item post phase) :
    M.Follows (serve item) post phase := by
  cases item with
  | message msg =>
      cases msg with
      | login username password => exact h.login username password rfl
      | register username password => exact h.register username password rfl
      | startTrip token lat lon ts => exact follows_startTripArm hM (h.replies trivial)
      | position token tripId lat lon ts => exact follows_positionArm hM (h.replies trivial)
      | endTrip token tripId ts => exact follows_endTripArm hM (h.replies trivial)
      | stats token fromTs toTs => exact follows_statsArm hM (h.replies trivial)
      | chatToServer token text => exact follows_chatArm hM (h.replies trivial)
      | disconnect token => exact follows_disconnectArm hM token (h.farewell token rfl)
      | _ => exact (h.replies trivial).error _ _
  | notUtf8 => exact (h.replies trivial).error _ _
  | malformed => exact (h.replies trivial).error _ _
  | empty => exact h.skips (Or.inl rfl)
  | pingPong => exact h.skips (Or.inr rfl)
  | closeFrame => exact h.hangsUp (Or.inl rfl)
  | readError => exact h.hangsUp (Or.inr (Or.inl rfl))
  | endOfStream => exact h.hangsUp (Or.inr (Or.inr rfl))

end

end Wanderust
