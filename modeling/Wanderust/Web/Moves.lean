import Mathlib.Logic.Relation
import Wanderust.Web.Page

/-!
# What the page can do

Every call of a handler is a chain of moves.  A move says which event happens,
and what becomes of the session, the trip and the vehicle.  What is displayed,
stored or queued for the socket is not seen at this level.
-/

namespace Wanderust.Page

open Sim

variable {F : Type}

/-! # The core of the state -/

/-- What the requests of a page depend on, and its history. -/
structure Core (F : Type) where
  token : Option String
  tripId : Option Int
  tripActive : Bool
  tripTs : Int
  graphJson : Option String
  sim : Vehicle F
  sinceSend : F
  wasActive : Bool
  history : List (Event F)

def State.core (s : State F) : Core F :=
  { token := s.token
    tripId := s.tripId
    tripActive := s.tripActive
    tripTs := s.tripTs
    graphJson := s.graphJson
    sim := s.sim
    sinceSend := s.sinceSend
    wasActive := s.wasActive
    history := s.history }

namespace Core

def log (c : Core F) (e : Event F) : Core F :=
  { c with history := c.history ++ [e] }

def despawn (c : Core F) : Core F :=
  if c.graphJson.isSome then { c with sim := .absent } else c

end Core

/-! # Moves -/

def isPlain : Message F -> Bool
  | .authOk _ => false
  | .tripStarted .. => false
  | _ => true

section

variable [Arith F] (fromStr : String -> Except String (Graph F)) (graphs : String -> Prop)

def Core.ticking (c : Core F) (sim : Simulator F) : Core F :=
  { c.log (.ticked true) with
    sim := .present sim
    sinceSend := (if c.wasActive then c.sinceSend else 0) + State.tickSecs
    wasActive := true }

inductive Move (c : Core F) : Core F -> Prop where
  | transmitted (frame : Frame F) : Move c (c.log (.transmitted frame))
  | loaded (graphJson : String) (h : graphs graphJson) (hnone : c.graphJson = none) :
      Move c { c with graphJson := some graphJson, sim := .absent }
  | received (msg : Message F) (h : isPlain msg = true) : Move c (c.log (.received msg))
  | authOk (token : String) :
      Move c { c.log (.received (.authOk token)) with token := some token }
  | respawned {graphJson : String} {seed : F} {sim : Simulator F}
      (hgraph : c.graphJson = some graphJson) (htoken : c.token.isSome = true)
      (hbuild : Simulator.build fromStr graphJson seed = .ok (.ok sim)) :
      Move c { c with sim := .present sim }
  | tripStarted (tripId : Int) (lat lon : F) (ts : Int) :
      Move c { c.log (.received (.tripStarted tripId lat lon ts)) with
        tripId := some tripId
        tripActive := true }
  | asked (msg : Message F)
      (htoken : forall token, msg.token? = some token -> c.token = some token)
      (htrip : msg.tripId? = none)
      (hstart : forall token lat lon ts, msg ≠ .startTrip token lat lon ts) :
      Move c (c.log (.queued msg))
  | start {token : String} {sim : Simulator F} (now : Int) (htoken : c.token = some token)
      (hsim : c.sim = .present sim) :
      Move c { c.log (.queued (.startTrip token sim.lat sim.lon now)) with tripTs := now }
  | brokenStart (now : Int) (hsim : c.sim = .broken) : Move c { c with tripTs := now }
  | stop {token : String} {tripId : Int} (now : Int) (htoken : c.token = some token)
      (htrip : c.tripId = some tripId) (hactive : c.tripActive = true) :
      Move c { c.log (.queued (.endTrip token tripId now)) with tripActive := false }
  | closed : Move c { c.log .closed with tripActive := false }.despawn
  | quit :
      Move c { c.log .quit with tripActive := false, token := none, tripId := none }.despawn
  | broken {sim : Simulator F} (hsim : c.sim = .present sim)
      (hadvance : forall sim', sim.advance State.tickSecs ≠ .ok sim') :
      Move c { c with sim := .broken }
  | idle {sim sim' : Simulator F} (hsim : c.sim = .present sim)
      (hadvance : sim.advance State.tickSecs = .ok sim')
      (htrip : c.tripActive = false ∨ c.tripId = none) :
      Move c { c.log (.ticked false) with sim := .present sim', wasActive := false }
  | driven {sim sim' : Simulator F} (hsim : c.sim = .present sim)
      (hadvance : sim.advance State.tickSecs = .ok sim') (hactive : c.tripActive = true)
      (hwait : ¬ (State.sendSecs : F) ≤ (c.ticking sim').sinceSend) :
      Move c (c.ticking sim')
  | sampled {sim sim' : Simulator F} {token : String} {tripId : Int} (hsim : c.sim = .present sim)
      (hadvance : sim.advance State.tickSecs = .ok sim') (hactive : c.tripActive = true)
      (htrip : c.tripId = some tripId) (htoken : c.token = some token)
      (hdue : (State.sendSecs : F) ≤ (c.ticking sim').sinceSend) :
      Move c { (c.ticking sim').log (.queued
          (.position token tripId sim'.lat sim'.lon (c.tripTs + State.sendSecs))) with
        sinceSend := (c.ticking sim').sinceSend - (State.sendSecs : F)
        tripTs := c.tripTs + State.sendSecs }

def Moves : Core F -> Core F -> Prop := Relation.ReflTransGen (Move fromStr graphs)

end

/-! # What is not seen -/

section

variable (s : State F)

@[simp] theorem core_connect : s.connect.core = s.core := by
  unfold State.connect
  split
  all_goals rfl

@[simp] theorem core_persistSession (token : String) (user : Option String) :
    (s.persistSession token user).core = s.core := by
  unfold State.persistSession
  split
  all_goals rfl

@[simp] theorem core_clearStoredSession : s.clearStoredSession.core = s.core := by
  unfold State.clearStoredSession
  split
  all_goals rfl

@[simp] theorem core_despawn : s.despawn.core = s.core.despawn := by
  unfold State.despawn Core.despawn
  show _ = if s.graphJson.isSome = true then _ else _
  split
  all_goals rfl

@[simp] theorem core_appendChatMessage (sender : Option String) (text : String) :
    (s.appendChatMessage sender text).core = s.core := by
  unfold State.appendChatMessage
  split
  · rfl
  · split
    all_goals rfl

@[simp] theorem core_error (code message : String) : (s.error code message).core = s.core := by
  unfold State.error
  split
  · exact core_clearStoredSession _
  · split
    all_goals rfl

theorem core_send (s : State F) (msg : Message F) :
    (s.send msg).core = s.core.log (.queued msg) ∨
      (s.send msg).core = (s.core.log (.queued msg)).log (.transmitted (.request msg)) := by
  unfold State.send
  dsimp only
  split
  · exact Or.inr rfl
  · exact Or.inl rfl
  · exact Or.inl (core_connect _)

end

/-! # Handlers -/

variable [Arith F] {fromStr : String -> Except String (Graph F)} {graphs : String -> Prop}
variable {s s' : State F} {c c' c'' : Core F}

theorem Moves.refl (c : Core F) : Moves fromStr graphs c c := Relation.ReflTransGen.refl

theorem Moves.trans (h : Moves fromStr graphs c c') (h' : Moves fromStr graphs c' c'') :
    Moves fromStr graphs c c'' := Relation.ReflTransGen.trans h h'

theorem Move.moves (h : Move fromStr graphs c c') : Moves fromStr graphs c c' :=
  Relation.ReflTransGen.single h

theorem truthy_eq_some {x : Option String} {t : String} (h : truthy x = some t) :
    x = some t := by
  unfold truthy at h
  rw [Option.filter_eq_some_iff] at h
  exact h.1

theorem moves_queued (s : State F) (msg : Message F) :
    Moves fromStr graphs (s.core.log (.queued msg)) (s.send msg).core := by
  rcases core_send s msg with h | h
  · rw [h]
    exact Moves.refl _
  · rw [h]
    exact (Move.transmitted (.request msg)).moves

theorem moves_send {msg : Message F}
    (htoken : forall token, msg.token? = some token -> s.token = some token)
    (htrip : msg.tripId? = none)
    (hstart : forall token lat lon ts, msg ≠ .startTrip token lat lon ts) :
    Moves fromStr graphs s.core (s.send msg).core :=
  (Move.asked msg htoken htrip hstart).moves.trans (moves_queued s msg)

theorem moves_transmits (s : State F) (msgs : List (Message F)) :
    Moves fromStr graphs s.core (msgs.foldl (fun s msg => s.transmit (.request msg)) s).core := by
  induction msgs generalizing s with
  | nil => exact Moves.refl _
  | cons msg msgs ih =>
      exact (Move.transmitted (.request msg)).moves.trans (ih (s.transmit (.request msg)))

theorem moves_resume (s : State F) : Moves fromStr graphs s.core s.resume.core := by
  unfold State.resume
  split
  · split
    case h_1 token _ _ => exact (Move.transmitted (.resume token)).moves
    case h_2 => exact Moves.refl _
  · exact Moves.refl _

theorem moves_flush (s : State F) : Moves fromStr graphs s.core s.flush.core :=
  moves_transmits { s with pending := [] } s.pending

theorem moves_onOpen (s : State F) : Moves fromStr graphs s.core s.onOpen.core :=
  (moves_resume { s with ws := some .opened }).trans (moves_flush _)

theorem moves_onClose (s : State F) : Moves fromStr graphs s.core s.onClose.core := by
  have hcore : s.onClose.core = { s.core.log .closed with tripActive := false }.despawn := by
    unfold State.onClose
    dsimp only
    split
    all_goals exact core_despawn _
  rw [hcore]
  exact Move.closed.moves

theorem moves_respawn {seed : F} (htoken : s.token.isSome = true) :
    Moves fromStr graphs s.core (s.respawn fromStr seed).core := by
  unfold State.respawn
  split
  case h_1 => exact Moves.refl _
  case h_2 graphJson hgraph =>
    split
    case h_1 sim hbuild => exact (Move.respawned hgraph htoken hbuild).moves
    case h_2 => exact Moves.refl _

theorem moves_authOk (s : State F) (token user : String) (seed : F) :
    Moves fromStr graphs s.core
      ((s.log (.received (.authOk token))).authOk fromStr token user seed).core := by
  have hopened (s1 : State F) (hcore : s1.core = { s.core.log (.received (.authOk token)) with
      token := some token }) :
      Moves fromStr graphs s.core (s1.respawn fromStr seed).core := by
    have htoken : s1.token = some token := congrArg Core.token hcore
    have hmove : Moves fromStr graphs s.core s1.core := by
      rw [hcore]
      exact (Move.authOk token).moves
    exact hmove.trans (moves_respawn (by rw [htoken]; rfl))
  unfold State.authOk
  dsimp only
  apply hopened
  split
  · exact core_persistSession _ _ _
  · split
    all_goals exact core_persistSession _ _ _

theorem moves_handleMessage (s : State F) (m : Message F) (user : String) (seed : F) :
    Moves fromStr graphs s.core
      ((s.log (.received m)).handleMessage fromStr m user seed).core := by
  have hplain (h : isPlain m = true) {s1 : State F} (hcore : s1.core = s.core.log (.received m)) :
      Moves fromStr graphs s.core s1.core := by
    rw [hcore]
    exact (Move.received m h).moves
  unfold State.handleMessage
  split
  · exact moves_authOk _ _ _ _
  · exact (Move.tripStarted _ _ _ _).moves
  · exact hplain rfl (core_appendChatMessage _ _ _)
  · exact hplain rfl (core_error _ _ _)
  case h_5 hauth htrip hchat herror =>
    refine hplain ?_ rfl
    cases m with
    | authOk token => exact absurd rfl (hauth token)
    | tripStarted tripId lat lon ts => exact absurd rfl (htrip tripId lat lon ts)
    | _ => rfl

theorem moves_credentials {user pass : String} {msg : (username password : String) -> Message F}
    (htoken : forall u p, (msg u p).token? = none) (htrip : forall u p, (msg u p).tripId? = none)
    (hstart : forall u p token lat lon ts, msg u p ≠ .startTrip token lat lon ts) :
    Moves fromStr graphs s.core (match validateCreds user pass with
      | .ok (u, p) => s.send (msg u p)
      | .error _ => s).core := by
  split
  case h_1 u p _ =>
    apply moves_send _ (htrip u p) (hstart u p)
    intro token htok
    rw [htoken u p] at htok
    cases htok
  case h_2 => exact Moves.refl _

theorem moves_doStart (s : State F) (now : Int) :
    Moves fromStr graphs s.core (s.doStart now).core := by
  unfold State.doStart
  split
  case h_1 => exact Moves.refl _
  case h_2 token htoken =>
    split
    case h_1 => exact Moves.refl _
    case h_2 hsim => exact (Move.brokenStart now hsim).moves
    case h_3 sim hsim =>
      exact (Move.start now (truthy_eq_some htoken) hsim).moves.trans
        (moves_queued { s with tripTs := now } _)

theorem moves_doEnd (s : State F) (now : Int) (hactive : s.tripActive = true) :
    Moves fromStr graphs s.core (s.doEnd now).core := by
  unfold State.doEnd
  split
  case h_1 token tripId htoken htrip =>
    rw [Option.filter_eq_some_iff] at htrip
    apply Moves.trans (Move.stop now (truthy_eq_some htoken) htrip.1 hactive).moves
    show Moves _ _ _ { (s.send (.endTrip token tripId now)).core with tripActive := false }
    rcases core_send s (.endTrip token tripId now) with h | h
    · rw [h]
      exact Moves.refl _
    · rw [h]
      exact (Move.transmitted _).moves
  case h_2 => exact Moves.refl _

theorem moves_toggleTrip (s : State F) (now : Int) :
    Moves fromStr graphs s.core (s.toggleTrip now).core := by
  unfold State.toggleTrip
  cases hactive : s.tripActive with
  | true => exact moves_doEnd s now hactive
  | false => exact moves_doStart s now

theorem moves_doChat (s : State F) (chat : String) :
    Moves fromStr graphs s.core (s.doChat chat).core := by
  unfold State.doChat
  split
  case h_1 => exact Moves.refl _
  case h_2 token htoken =>
    split
    case h_1 => exact Moves.refl _
    case h_2 text _ =>
      apply moves_send (s := s.appendOwnMessage text)
      · intro token' htoken'
        cases htoken'
        exact truthy_eq_some htoken
      · rfl
      · intro _ _ _ _ h
        cases h

theorem moves_doStats (s : State F) (interval : Option (Int × Int)) :
    Moves fromStr graphs s.core (s.doStats interval).core := by
  unfold State.doStats
  split
  case h_1 token fromTs toTs htoken =>
    apply moves_send
    · intro token' htoken'
      cases htoken'
      exact truthy_eq_some htoken
    · rfl
    · intro _ _ _ _ h
      cases h
  case h_2 => exact Moves.refl _

/-- Whatever has been sent before, the end of `doQuit` forgets the session. -/
theorem moves_doQuit (s : State F) : Moves fromStr graphs s.core s.doQuit.core := by
  have hforget (s1 : State F) (h : Moves fromStr graphs s.core s1.core) :
      Moves fromStr graphs s.core
        (State.despawn (State.clearStoredSession { s1.log .quit with
          tripActive := false, token := none, tripId := none, username := none })).core := by
    rw [core_despawn, core_clearStoredSession]
    exact h.trans Move.quit.moves
  unfold State.doQuit
  dsimp only
  apply hforget
  split
  case h_1 token htoken =>
    apply moves_send (s := { s with intentionalQuit := true })
    · intro token' htoken'
      cases htoken'
      exact truthy_eq_some htoken
    · rfl
    · intro _ _ _ _ h
      cases h
  case h_2 => exact Moves.refl _

/-! # Steps -/

theorem core_counted (s : State F) (sim : Simulator F) :
    (State.counted { s with sim := .present sim }).core = s.core.ticking sim := by
  unfold State.counted Core.ticking
  cases hactive : s.wasActive with
  | true => simp [State.core, State.log, Core.log, hactive]
  | false => simp [State.core, State.log, Core.log, hactive]

theorem moves_sendPosition {s1 : State F} {sim sim' : Simulator F} {tripId : Int}
    (hcore : s1.core = s.core.ticking sim') (hsim : s.sim = .present sim)
    (hadvance : sim.advance State.tickSecs = .ok sim') (hactive : s.tripActive = true)
    (htrip : s.tripId = some tripId) (htoken : s.token.isSome = true)
    (hdue : (State.sendSecs : F) ≤ (s.core.ticking sim').sinceSend) :
    Moves fromStr graphs s.core (s1.sendPosition tripId sim').core := by
  have hsame : s1.token = s.token := congrArg Core.token hcore
  unfold State.sendPosition
  dsimp only
  split
  case h_1 token htoken1 =>
    refine Moves.trans (Move.moves ?_) (moves_queued _ _)
    show Move _ _ s.core { s1.core.log (.queued (.position _ _ _ _ (s1.core.tripTs + _))) with
      sinceSend := s1.core.sinceSend - _, tripTs := s1.core.tripTs + _ }
    rw [hcore]
    exact Move.sampled hsim hadvance hactive htrip (hsame.symm.trans htoken1) hdue
  case h_2 hnone =>
    rw [← hsame, show s1.token = none from hnone] at htoken
    cases htoken

theorem moves_driven {sim sim' : Simulator F} (hsim : s.sim = .present sim)
    (hadvance : sim.advance State.tickSecs = .ok sim') (htoken : s.token.isSome = true) :
    Moves fromStr graphs s.core (State.driven { s with sim := .present sim' } sim').core := by
  have hcore := core_counted s sim'
  unfold State.driven
  split
  case h_1 tripId htrip =>
    have hactive : s.tripActive = true ∧ s.tripId = some tripId := by simpa using htrip
    have hsince : (State.counted { s with sim := .present sim' }).sinceSend =
        (s.core.ticking sim').sinceSend := congrArg Core.sinceSend hcore
    dsimp only
    rw [hsince]
    split
    case isTrue hdue =>
      exact moves_sendPosition hcore hsim hadvance hactive.1 hactive.2 htoken hdue
    case isFalse hwait =>
      rw [hcore]
      exact (Move.driven hsim hadvance hactive.1 hwait).moves
  case h_2 htrip =>
    refine (Move.idle hsim hadvance ?_).moves
    show s.tripActive = false ∨ s.tripId = none
    cases hactive : s.tripActive with
    | false => exact Or.inl rfl
    | true => exact Or.inr (by simpa [hactive] using htrip)

theorem moves_tick (s : State F)
    (hsession : forall sim, s.sim = .present sim -> s.token.isSome = true) :
    Moves fromStr graphs s.core s.tick.core := by
  unfold State.tick
  split
  case h_1 sim _ hsim =>
    split
    case h_1 sim' hadvance => exact moves_driven hsim hadvance (hsession sim hsim)
    case h_2 e herror =>
      refine (Move.broken hsim ?_).moves
      intro sim' hok
      rw [hok] at herror
      cases herror
  case h_2 => exact Moves.refl _

/-- Every step of a page whose vehicle has a session is a chain of moves. -/
theorem next_moves {l : Label F} (h : next fromStr s l = some s')
    (hsession : forall sim, s.sim = .present sim -> s.token.isSome = true)
    (hgraphs : forall graphJson, l = .loaded graphJson -> graphs graphJson) :
    Moves fromStr graphs s.core s'.core := by
  cases l with
  | loaded graphJson =>
      simp only [next] at h
      split at h
      case h_1 hnone =>
        cases h
        exact (Move.loaded graphJson (hgraphs _ rfl) hnone).moves
      case h_2 => cases h
  | opened =>
      simp only [next] at h
      split at h
      · cases h
        exact moves_onOpen s
      · cases h
  | closing =>
      simp only [next] at h
      split at h
      · cases h
        exact Moves.refl _
      · cases h
        exact Moves.refl _
      · cases h
  | closed =>
      simp only [next] at h
      split at h
      · cases h
      · cases h
      · cases h
        exact moves_onClose { s with ws := some .closed }
  | earlierClosed =>
      simp only [next] at h
      split at h
      · cases h
      case h_2 n _ =>
        cases h
        exact moves_onClose { s with closingSockets := n }
  | message data user seed =>
      simp only [next] at h
      split at h
      · cases h
        unfold onMessage
        split
        · exact moves_handleMessage _ _ _ _
        · exact Moves.refl _
      · cases h
  | reconnect =>
      simp only [next] at h
      split at h
      · cases h
      · cases h
        rw [core_connect]
        exact Moves.refl _
  | register user pass =>
      cases h
      apply moves_credentials
      · intro _ _
        rfl
      · intro _ _
        rfl
      · intro _ _ _ _ _ _ hstart
        cases hstart
  | login user pass =>
      cases h
      apply moves_credentials
      · intro _ _
        rfl
      · intro _ _
        rfl
      · intro _ _ _ _ _ _ hstart
        cases hstart
  | toggleTrip now =>
      cases h
      exact moves_toggleTrip s now
  | chat text =>
      cases h
      exact moves_doChat s text
  | stats interval =>
      cases h
      exact moves_doStats s interval
  | quit =>
      cases h
      exact moves_doQuit s
  | tick =>
      cases h
      exact moves_tick s hsession

end Wanderust.Page
