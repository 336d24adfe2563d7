import Wanderust.Session.Serving

/-!
# What a handler sends

A monitor records the frames that a handler sends.  Everything but the last
step of an arm is silent, so each arm sends one message, and the Disconnect arm
a Close frame behind it.
-/

namespace Wanderust

open Interleaving Prog Monitor

variable {F : Type}

def Op.puts : Op F -> List (Event F)
  | .send msg => [.sent msg]
  | .sendClose => [.closeSent]
  | _ => []

/-- Every operation may give any answer, but a message is sent. -/
def Op.Succeeds : (o : Op F) -> o.Ret -> Prop
  | .send _, r => r = true
  | _, _ => True

theorem exists_succeeds (o : Op F) : exists r, o.Succeeds r := by
  cases o with
  | send msg => exact ⟨true, rfl⟩
  | getUserState => exact ⟨none, trivial⟩
  | getUserByToken token => exact ⟨none, trivial⟩
  | drawFreshToken => exact ⟨"", trivial⟩
  | bcryptHash password => exact ⟨"", trivial⟩
  | tryInsertToken username token => exact ⟨true, trivial⟩
  | isTracked tripId => exact ⟨true, trivial⟩
  | invalidateUserSessions username => exact ⟨0, trivial⟩
  | nowSecs => exact ⟨0, trivial⟩
  | observeCoord tripId lat lon => exact ⟨none, trivial⟩
  | selectUser username => exact ⟨.ok true, trivial⟩
  | selectPasswordHash username => exact ⟨.ok none, trivial⟩
  | insertUser username passwordHash createdAt => exact ⟨.ok (), trivial⟩
  | insertTrip username ts => exact ⟨.ok 0, trivial⟩
  | insertPosition tripId lat lon ts stopped => exact ⟨.ok (), trivial⟩
  | updateTripEnded tripId username ts => exact ⟨.ok 0, trivial⟩
  | selectOpenTrip tripId username => exact ⟨.ok true, trivial⟩
  | selectOpenTripIds username => exact ⟨.ok [], trivial⟩
  | selectTrajectory username fromTs toTs => exact ⟨.ok [], trivial⟩
  | _ => exact ⟨(), trivial⟩

abbrev traffic : Monitor (@Op.Ret F) (List (Event F)) :=
  recorder Op.Succeeds Op.puts

theorem traffic_ignoresInternal : IgnoresInternal (traffic (F := F)) := by
  intro o ho
  apply recorder_ignores
  cases o with
  | send msg => cases ho
  | sendClose => cases ho
  | drawFreshToken => cases ho
  | _ => rfl

/-! # The two arms that open a session -/

theorem silent_openSession (username : String) :
    traffic.Silent (openSession username : Program F (Except String (String × String))) := by
  apply silent_bind (silent_perform (recorder_ignores rfl))
  intro token
  apply silent_bindOk (silent_tryInsertToken traffic_ignoresInternal username token)
  intro _
  exact silent_pure _

theorem silent_login [Bcrypt] (username password : String) :
    traffic.Silent (login (.login username password : Message F)) :=
  fun out => follows_login traffic_ignoresInternal.accounts password
    (silent_openSession username out) fun _ => rfl

theorem silent_register (username password : String) :
    traffic.Silent (register (.register username password : Message F)) :=
  fun out => follows_register traffic_ignoresInternal.accounts password
    (silent_openSession username out) fun _ => rfl

/-! # Answers -/

/-- The complete answer to an item, and how the read loop goes on after it. -/
inductive Replied : Incoming F -> Flow -> List (Event F) -> Prop where
  | silent {item : Incoming F} : item.silent -> Replied item .next []
  | answered {item : Incoming F} {msg : Message F} :
      item.asks -> item.admits msg -> Replied item .next [.sent msg]
  | farewell {token : String} :
      Replied (.message (.disconnect token)) .leave [.sent .ack, .closeSent]
  | hungUp {item : Incoming F} : item.hangsUp -> Replied item .leave []

def Answered (item : Incoming F) (flow : Flow) (out : List (Event F)) : Prop :=
  flow = .next ∧ exists msg, item.admits msg ∧ out = [.sent msg]

variable {item : Incoming F} {msg : Message F}

theorem follows_reply (h : item.admits msg) :
    traffic.Follows (reply msg) (Answered item) [] := by
  refine ⟨trivial, ?_⟩
  intro r out hmoves
  rcases hmoves with ⟨hr, hout⟩
  cases hr
  exact ⟨rfl, msg, h, hout⟩

theorem follows_installUser (currentUser : Option String) (username token : String)
    (h : item.admits (.authOk token)) :
    traffic.Follows (installUser currentUser username token) (Answered item) [] := by
  apply follows_silent_bind (silent_dropPrevious traffic_ignoresInternal currentUser)
  intro _
  apply follows_silent_bind (silent_act traffic_ignoresInternal rfl)
  intro _
  apply follows_silent_bind (silent_act traffic_ignoresInternal rfl)
  intro _
  apply follows_silent_bind (silent_act traffic_ignoresInternal rfl)
  intro _
  exact follows_reply h

theorem follows_answered {p : Program F Flow} (hasks : item.asks)
    (h : traffic.Follows p (Answered item) []) : traffic.Follows p (Replied item) [] := by
  apply follows_mono h
  intro flow out hanswered
  rcases hanswered with ⟨rfl, msg, hadmits, rfl⟩
  exact Replied.answered hasks hadmits

theorem follows_farewell (token : String) :
    traffic.Follows (farewell : Program F Flow) (Replied (.message (.disconnect token))) [] := by
  refine ⟨trivial, ?_⟩
  intro r out hmoves
  rcases hmoves with ⟨hr, hout⟩
  cases hr
  cases hout
  refine ⟨trivial, ?_⟩
  intro _ out' hmoves'
  rcases hmoves' with ⟨_, hout'⟩
  rw [hout']
  exact Replied.farewell

theorem follows_loginArm [Bcrypt] (username password : String) :
    traffic.Follows (loginArm username password)
      (Answered (.message (.login username password : Message F))) [] := by
  apply follows_silent_bind (silent_act traffic_ignoresInternal rfl)
  intro currentUser
  split
  · exact follows_reply trivial
  · apply follows_silent_bind (silent_login username password)
    intro r
    cases r with
    | ok r =>
        exact follows_installUser currentUser r.1 r.2 ⟨username, password, Or.inl rfl⟩
    | error e => exact follows_reply trivial

theorem follows_registerArm (username password : String) :
    traffic.Follows (registerArm username password)
      (Answered (.message (.register username password : Message F))) [] := by
  apply follows_silent_bind (silent_act traffic_ignoresInternal rfl)
  intro currentUser
  apply follows_silent_bind (silent_register username password)
  intro r
  cases r with
  | ok r => exact follows_installUser currentUser r.1 r.2 ⟨username, password, Or.inr rfl⟩
  | error e => exact follows_reply trivial

/-! # One turn of the read loop -/

theorem traffic_acceptsTurn [Bcrypt] (item : Incoming F) :
    AcceptsTurn traffic item (Replied item) [] where
  replies := fun hasks _ hadmits _ => follows_answered hasks (follows_reply hadmits)
  login := by
    intro username password h
    subst h
    exact follows_answered trivial (follows_loginArm username password)
  register := by
    intro username password h
    subst h
    exact follows_answered trivial (follows_registerArm username password)
  farewell := by
    intro token h
    subst h
    exact follows_farewell token
  skips := Replied.silent
  hangsUp := Replied.hungUp

theorem replied_serve [Geo F] [Bcrypt] (item : Incoming F) :
    traffic.Follows (serve item) (Replied item) [] :=
  follows_serve traffic_ignoresInternal (traffic_acceptsTurn item)

theorem replied_cleanup :
    traffic.Silent (cleanup : Program F Unit) :=
  silent_cleanup traffic_ignoresInternal

end Wanderust
