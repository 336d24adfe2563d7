import Wanderust.Session.StatusPhases

/-!
# Every handler follows the status monitor

The lemmas go through the programs of the handlers.  They say nothing about the
state: what the phases mean there is the subject of another module.
-/

namespace Wanderust

open Interleaving Prog Monitor

variable {F : Type} {user : Option String} {ending : Prop} {phase : StatusPhase}
variable {alpha beta : Type}

/-! # Operations that are not watched -/

theorem status_ignores {o : Op F} (ho : o.isUnwatched = true) :
    (statusMonitor user ending).Ignores o := by
  cases o with
  | selectUser _ | selectPasswordHash _ | insertUser _ _ _ | bcryptHash _ | nowSecs
  | getUserByToken _ | sinksInsert _ | sinksRemove _ | selectTrajectory _ _ _ | send _
  | sendClose =>
      refine ⟨fun _ => trivial, ?_⟩
      intro r phase phase' hmoves
      exact hmoves.2
  | _ => cases ho

theorem status_ignoresAccounts : IgnoresAccounts (statusMonitor (F := F) user ending) := by
  intro o ho
  apply status_ignores
  cases o with
  | selectUser _ | selectPasswordHash _ | insertUser _ _ _ | bcryptHash _ | nowSecs => rfl
  | _ => cases ho

theorem quiet_act {o : Op F} (ho : o.isUnwatched = true) :
    (statusMonitor user ending).Silent (act o) :=
  silent_perform (status_ignores ho)

theorem clears_reply {msg : Message F} (h : ¬ phase.Owes) :
    (statusMonitor user ending).Follows (reply msg) Clears phase := by
  apply follows_silent_bind (quiet_act rfl)
  intro r
  split
  · exact h
  · exact h

theorem clears_replyError {code message : String} (h : ¬ phase.Owes) :
    (statusMonitor user ending).Follows (replyError code message : Program F Flow) Clears phase :=
  clears_reply h

/-! # Login and registration -/

/-- The session of the connection is given up before anything else is touched. -/
theorem follows_dropPrevious {f : Unit -> Program F beta} {post : beta -> StatusPhase -> Prop}
    (currentUser : Option String) (hfree : phase.Free)
    (hf : forall phase' : StatusPhase, phase'.Free ->
      (statusMonitor user ending).Follows (f ()) post phase') :
    (statusMonitor user ending).Follows ((dropPrevious currentUser).bind f) post phase := by
  cases currentUser with
  | none => exact hf phase hfree
  | some u =>
      apply follows_bind
      apply follows_act
      case hpermits => exact hfree
      intro _ _
      apply follows_act
      case hpermits => exact (Or.inl (Or.inr rfl))
      intro _ _
      apply follows_mono (quiet_act rfl .switched)
      intro _ phase' hphase
      rw [hphase]
      exact hf .switched (Or.inr rfl)

theorem clears_installUser (currentUser : Option String) (username token : String)
    (hfree : phase.Free) :
    (statusMonitor user ending).Follows
      (installUser currentUser username token : Program F Flow) Clears phase := by
  apply follows_dropPrevious currentUser hfree
  intro phase' hfree'
  apply follows_act
  case hpermits => exact hfree'
  intro _ _
  apply follows_act
  case hpermits => exact (Or.inl (Or.inr rfl))
  intro _ _
  apply follows_silent_bind (quiet_act rfl)
  intro _
  exact clears_reply not_false

theorem follows_openSession (username : String) :
    (statusMonitor user ending).Follows
      (openSession username : Program F (Except String (String × String)))
      (fun _ phase' => phase' = .calm) .calm := by
  apply follows_act
  case hpermits => exact rfl
  intro token _
  apply follows_bind
  apply follows_act
  case hpermits => exact rfl
  intro inserted _
  split
  · rfl
  · rfl

theorem clears_loginArm [Bcrypt] (username password : String) :
    (statusMonitor user ending).Follows
      (loginArm username password : Program F Flow) Clears .calm := by
  apply follows_act
  case hpermits => exact trivial
  intro currentUser _
  split
  · exact clears_replyError not_false
  · apply follows_bind
    apply follows_mono (follows_login status_ignoresAccounts password
      (follows_openSession username) fun _ => rfl)
    intro r phase' hphase'
    rw [hphase']
    cases r with
    | ok names => exact clears_installUser currentUser names.1 names.2 (Or.inl rfl)
    | error e => exact clears_replyError not_false

theorem clears_registerArm (username password : String) :
    (statusMonitor user ending).Follows
      (registerArm username password : Program F Flow) Clears .calm := by
  apply follows_act
  case hpermits => exact trivial
  intro currentUser _
  apply follows_bind
  apply follows_mono (follows_register status_ignoresAccounts password
    (follows_openSession username) fun _ => rfl)
  intro r phase' hphase'
  rw [hphase']
  cases r with
  | ok names => exact clears_installUser currentUser names.1 names.2 (Or.inl rfl)
  | error e => exact clears_replyError not_false

/-! # Tokens -/

theorem clears_authorized {token : String} {body : String -> Program F Flow}
    (hbody : forall name, user = some name ->
      (statusMonitor user ending).Follows (body name) Clears .calm) :
    (statusMonitor user ending).Follows (authorized token body) Clears .calm := by
  apply follows_bind
  apply follows_silent_bind (quiet_act rfl)
  intro r
  cases r with
  | none => exact clears_replyError not_false
  | some name =>
      apply follows_act
      case hpermits => exact trivial
      intro stateUser hanswers
      have huser : stateUser = user := hanswers (by simp)
      split
      · exact clears_replyError not_false
      · rename_i hsame
        rw [huser, not_not] at hsame
        exact hbody name hsame

/-! # Trips -/

variable {name : String}

theorem follows_perform {o : Op F} {post : o.Ret -> StatusPhase -> Prop}
    (hpermits : permitsStatus user ending o phase)
    (hpost : forall r, answersStatus user o r phase -> post r (advance o r phase)) :
    (statusMonitor user ending).Follows (act o) post phase := by
  refine ⟨hpermits, ?_⟩
  intro r phase' hmoves
  rcases hmoves with ⟨hanswers, rfl⟩
  exact hpost r hanswers

theorem follows_sql {p : Program F (Except SqlError alpha)}
    {post : Except String alpha -> StatusPhase -> Prop}
    (hp : (statusMonitor user ending).Follows p
      (fun r phase' => post (r.mapError SqlError.text) phase') phase) :
    (statusMonitor user ending).Follows (sql p) post phase :=
  follows_mapError hp

/-! # Ending a trip -/

def AfterUpdate (id : Int) : Except String Nat -> StatusPhase -> Prop
  | .ok n, phase => phase = if n = 0 then .calm else .ended id
  | .error _, phase => phase = .calm

/-- EndTrip has ended the trip, or has left everything as it was. -/
def AfterEnd (id : Int) : Except String Unit -> StatusPhase -> Prop
  | .ok _, phase => phase = .ended id
  | .error _, phase => phase = .calm

theorem follows_endTrip (huser : user = some name) (hending : ending) (tripId ts : Int) :
    (statusMonitor user ending).Follows
      (endTrip tripId name ts : Program F (Except String Unit)) (AfterEnd tripId) .calm := by
  have hupdate : (statusMonitor user ending).Follows
      (sql (act (.updateTripEnded tripId name ts) : Program F (Except SqlError Nat)))
      (AfterUpdate tripId) .calm := by
    apply follows_sql
    apply follows_perform
    case hpermits => exact ⟨huser, Or.inl ⟨rfl, hending⟩⟩
    intro r _
    cases r with
    | ok n => rfl
    | error e => rfl
  apply follows_bindOk hupdate
  · intro n phase' hphase
    by_cases hn : n = 0
    · rw [if_pos hn]
      rw [AfterUpdate, if_pos hn] at hphase
      exact hphase
    · rw [if_neg hn]
      rw [AfterUpdate, if_neg hn] at hphase
      exact hphase
  · intro e phase' hphase
    exact hphase

theorem follows_endTrip_same (huser : user = some name) {tripId : Int} (ts : Int)
    (hphase : phase = .lost tripId ∨ exists ids, phase = .closing ids ∧ tripId ∈ ids) :
    (statusMonitor user ending).Follows
      (endTrip tripId name ts : Program F (Except String Unit))
      (fun _ phase' => phase' = phase) phase := by
  have hupdate : (statusMonitor user ending).Follows
      (sql (act (.updateTripEnded tripId name ts) : Program F (Except SqlError Nat)))
      (fun _ phase' => phase' = phase) phase := by
    apply follows_sql
    apply follows_perform
    case hpermits => exact ⟨huser, Or.inr hphase⟩
    intro r _
    rcases hphase with rfl | ⟨ids, rfl, _⟩
    · cases r with
      | ok n => rfl
      | error e => rfl
    · cases r with
      | ok n => rfl
      | error e => rfl
  apply follows_bindOk hupdate
  · intro n phase' hphase'
    split
    · exact hphase'
    · exact hphase'
  · intro e phase' hphase'
    exact hphase'

theorem clears_endTripArm (token : String) (tripId ts : Int) (hending : ending) :
    (statusMonitor user ending).Follows
      (endTripArm token tripId ts : Program F Flow) Clears .calm := by
  apply clears_authorized
  intro name huser
  have hterminate : (statusMonitor user ending).Follows
      (terminateTrip tripId name ts : Program F (Except String Unit))
      (fun _ phase' => phase' = .calm) .calm := by
    have hend : (statusMonitor user ending).Follows
        ((endTrip tripId name ts).mapError fun e => "Failed to end trip: " ++ e :
          Program F (Except String Unit)) (AfterEnd tripId) .calm := by
      apply follows_mapError
      apply follows_mono (follows_endTrip huser hending tripId ts)
      intro r phase' hphase
      cases r with
      | ok => exact hphase
      | error e => exact hphase
    apply follows_bindOk hend
    · intro _ phase' hphase
      rw [hphase]
      apply follows_act
      case hpermits => exact Or.inl rfl
      intro _ _
      rfl
    · intro e phase' hphase
      exact hphase
  apply follows_bind
  apply follows_mono hterminate
  intro r phase' hphase
  rw [hphase]
  cases r with
  | ok => exact clears_reply not_false
  | error e => exact clears_replyError not_false

/-! # Starting a trip -/

/-- Whether a row is stored or refused, what is known about the trip stays known. -/
def AfterInsert (phase : StatusPhase) : Except String Unit -> StatusPhase -> Prop
  | .ok _, phase' => phase' = phase
  | .error _, phase' => ¬ phase'.Owes

theorem follows_insertPosition {tripId : Int} (lat lon : F) (ts : Int) {stopped : Bool}
    (hphase : phase.Owes -> phase = .owing tripId ∧ stopped = true) :
    (statusMonitor user ending).Follows (insertPosition tripId lat lon ts stopped)
      (AfterInsert phase) phase := by
  apply follows_sql
  apply follows_perform
  case hpermits => exact hphase
  intro r _
  cases r with
  | ok => rfl
  | error e =>
      cases phase with
      | closing ids => cases (hphase trivial).1
      | _ => exact not_false

def AfterStart : Except String Int -> StatusPhase -> Prop
  | .ok id, phase => phase = .found id
  | .error _, phase => ¬ phase.Owes

theorem follows_initializeTrips (huser : user = some name) (lat lon : F) (ts : Int) :
    (statusMonitor user ending).Follows (initializeTrips name lat lon ts) Clears .calm := by
  have hinsert : (statusMonitor user ending).Follows
      (sql (act (.insertTrip name ts) : Program F (Except SqlError Int))) AfterStart .calm := by
    apply follows_sql
    apply follows_perform
    case hpermits => exact ⟨huser, rfl⟩
    intro r _
    cases r with
    | ok id => rfl
    | error e => exact not_false
  have hstart : (statusMonitor user ending).Follows
      ((startTrip name lat lon ts).mapError fun e => "Failed to start trip: " ++ e)
      AfterStart .calm := by
    apply follows_mapError
    apply follows_bindOk hinsert
    · intro id phase' hphase'
      rw [hphase']
      apply follows_bindOk (follows_insertPosition lat lon ts not_false.elim)
      · intro _ phase1 hphase1
        exact hphase1
      · intro e phase1 hphase1
        exact hphase1
    · intro e phase' hphase'
      exact hphase'
  apply follows_bindOk hstart
  · intro id phase' hphase'
    rw [hphase']
    apply follows_act
    case hpermits => exact rfl
    intro _ _
    apply follows_act
    case hpermits => exact Or.inr ⟨huser, id, rfl⟩
    intro _ _
    exact not_false
  · intro e phase' hphase'
    exact hphase'

/-! # Samples -/

/-- After the critical section of `update_trip` the row and the status are still to be written. -/
theorem follows_applied (huser : user = some name) {tripId : Int} (lat lon : F) (ts : Int)
    {action : InsertAction} {transition : StatusTransition}
    (haction : transition = .toStationary -> action = .insert true) :
    (statusMonitor user ending).Follows
      (bindOk (applyInsert tripId lat lon ts action) fun _ => do
        applyTransition name transition
        return .ok () : Program F (Except String Unit)) Clears
      (afterSample tripId transition) := by
  have hinsert : (statusMonitor user ending).Follows (applyInsert tripId lat lon ts action)
      (AfterInsert (afterSample tripId transition)) (afterSample tripId transition) := by
    cases action with
    | skip => rfl
    | insert stopped =>
        apply follows_mapError
        apply follows_mono (follows_insertPosition lat lon ts ?_)
        · intro r phase' hphase'
          cases r with
          | ok => exact hphase'
          | error e => exact hphase'
        · intro howes
          cases transition with
          | toMoving => exact howes.elim
          | unchanged => exact howes.elim
          | toStationary =>
              cases haction rfl
              exact ⟨rfl, rfl⟩
  apply follows_bindOk hinsert
  · intro _ phase' hphase'
    have hsame : phase' = afterSample tripId transition := hphase'
    rw [hsame]
    cases transition with
    | toMoving =>
        apply follows_act
        case hpermits => exact ⟨huser, tripId, rfl⟩
        intro _ _
        exact not_false
    | toStationary =>
        apply follows_act
        case hpermits => exact Or.inr ⟨huser, tripId, rfl⟩
        intro _ _
        exact not_false
    | unchanged => exact not_false
  · intro e phase' hphase'
    exact hphase'

theorem follows_updateTrip (huser : user = some name) (tripId : Int) (lat lon : F) (ts : Int) :
    (statusMonitor user ending).Follows (updateTrip tripId name lat lon ts) Clears
      (.found tripId) := by
  apply follows_act
  case hpermits => exact rfl
  intro r hanswers
  cases r with
  | none => exact not_false
  | some decided =>
      rcases decided with ⟨action, transition⟩
      apply follows_applied huser lat lon ts
      intro htransition
      exact hanswers action (by rw [htransition])

/-! # Closing the trips of the user -/

theorem follows_closeTrips (huser : user = some name) (ts : Int) {ids rest : List Int}
    (hrest : forall id, id ∈ rest -> id ∈ ids) :
    (statusMonitor user ending).Follows (closeTrips name ts rest : Program F Unit)
      (fun _ phase' => phase' = .closing ids) (.closing ids) := by
  induction rest with
  | nil => rfl
  | cons id rest ih =>
      have hid : id ∈ ids := hrest id List.mem_cons_self
      apply follows_bind
      apply follows_mono (follows_endTrip_same huser ts (Or.inr ⟨ids, rfl, hid⟩))
      intro _ phase' hphase'
      rw [hphase']
      apply follows_act
      case hpermits => exact Or.inr ⟨ids, rfl, hid⟩
      intro _ _
      exact ih fun id' hid' => hrest id' (List.mem_cons_of_mem _ hid')

theorem follows_closeOpenTrips (huser : user = some name) {f : Unit -> Program F beta}
    {post : beta -> StatusPhase -> Prop}
    (hf : (statusMonitor user ending).Follows (f ()) post .calm) :
    (statusMonitor user ending).Follows
      ((closeOpenTrips name).bind fun _ => (act (.statusRemove name)).bind f) post .calm := by
  have hremove : forall phase : StatusPhase, (phase = .calm ∨ exists ids, phase = .closing ids) ->
      (statusMonitor user ending).Follows ((act (.statusRemove name)).bind f) post phase := by
    intro phase hphase
    apply follows_act
    case hpermits =>
      rcases hphase with rfl | ⟨ids, rfl⟩
      · exact Or.inl (Or.inl rfl)
      · exact Or.inr ⟨huser, ids, rfl⟩
    intro _ _
    rcases hphase with rfl | ⟨ids, rfl⟩
    · exact hf
    · exact hf
  apply follows_bind
  apply follows_silent_bind (quiet_act rfl)
  intro ts
  apply follows_bind
  apply follows_sql
  apply follows_perform
  case hpermits => exact ⟨huser, rfl⟩
  intro r _
  cases r with
  | error e => exact hremove .calm (Or.inl rfl)
  | ok ids =>
      apply follows_mono (follows_closeTrips huser ts fun _ hid => hid)
      intro _ phase' hphase'
      rw [hphase']
      exact hremove (.closing ids) (Or.inr ⟨ids, rfl⟩)

theorem follows_logout (huser : user = some name) (token : String) :
    (statusMonitor user ending).Follows (logout name token : Program F Unit)
      (fun _ phase' => phase' = .switched) .calm := by
  apply follows_closeOpenTrips huser
  apply follows_silent_bind (quiet_act rfl)
  intro _
  apply follows_act
  case hpermits => exact Or.inl rfl
  intro _ _
  apply follows_perform
  case hpermits => exact Or.inr rfl
  intro _ _
  rfl

theorem clears_farewell (h : ¬ phase.Owes) :
    (statusMonitor user ending).Follows (farewell : Program F Flow) Clears phase := by
  apply follows_silent_bind (quiet_act rfl)
  intro r
  split
  · apply follows_silent_bind (quiet_act rfl)
    intro _
    exact h
  · exact h

theorem clears_disconnectArm (token : String) :
    (statusMonitor user ending).Follows (disconnectArm token : Program F Flow) Clears .calm := by
  apply follows_act
  case hpermits => exact trivial
  intro stateUser hanswers
  have huser : stateUser = user := hanswers (by simp)
  apply follows_silent_bind (quiet_act rfl)
  intro r
  cases r with
  | none => exact clears_farewell not_false
  | some name =>
      simp only
      split
      · rename_i hsame
        rw [huser] at hsame
        apply follows_bind
        apply follows_mono (follows_logout hsame token)
        intro _ phase' hphase'
        rw [hphase']
        exact clears_farewell not_false
      · exact clears_farewell not_false

theorem clears_cleanup :
    (statusMonitor user ending).Follows (cleanup : Program F Unit) Clears .calm := by
  apply follows_act
  case hpermits => exact trivial
  intro r hanswers
  have huser : r = user := hanswers (by simp)
  cases r with
  | none => exact not_false
  | some name =>
      apply follows_closeOpenTrips huser.symm
      apply follows_silent_bind (quiet_act rfl)
      intro _
      apply follows_act
      case hpermits => exact Or.inl rfl
      intro _ _
      exact not_false

/-! # The other arms -/

theorem clears_chatArm (token text : String) :
    (statusMonitor user ending).Follows (chatArm token text : Program F Flow) Clears .calm := by
  apply clears_authorized
  intro name _
  split
  · exact clears_replyError not_false
  · exact clears_reply not_false

theorem clears_positionOpenTrip (huser : user = some name) (tripId : Int) (lat lon : F) (ts : Int) :
    (statusMonitor user ending).Follows (positionOpenTrip name tripId lat lon ts) Clears
      (.found tripId) := by
  apply follows_act
  case hpermits => exact trivial
  intro tracked _
  cases tracked with
  | true =>
      apply follows_bind
      apply follows_mono (follows_updateTrip huser tripId lat lon ts)
      intro r phase' hphase'
      cases r with
      | ok => exact clears_reply hphase'
      | error e => exact clears_replyError hphase'
  | false =>
      have hlost : advance (.isTracked tripId : Op F) false (.found tripId) = .lost tripId :=
        if_pos rfl
      rw [hlost]
      apply follows_bind
      apply follows_mono (follows_endTrip_same huser ts (Or.inl rfl))
      intro _ phase' hphase'
      rw [hphase']
      exact clears_replyError not_false

section

variable [Geo F]

theorem clears_checkedSample {lat lon : F} {ts : Int} {body : Program F Flow}
    (hbody : (statusMonitor user ending).Follows body Clears .calm) :
    (statusMonitor user ending).Follows (checkedSample lat lon ts body) Clears .calm := by
  unfold checkedSample
  split
  · exact clears_replyError not_false
  · split
    · exact clears_replyError not_false
    · exact hbody

theorem clears_startTripArm (token : String) (lat lon : F) (ts : Int) :
    (statusMonitor user ending).Follows (startTripArm token lat lon ts) Clears .calm := by
  apply clears_authorized
  intro name huser
  apply clears_checkedSample
  apply follows_bind
  apply follows_mono (follows_initializeTrips huser lat lon ts)
  intro r phase' hphase'
  cases r with
  | ok tripId => exact clears_reply hphase'
  | error e => exact clears_replyError hphase'

theorem clears_positionArm (token : String) (tripId : Int) (lat lon : F) (ts : Int) :
    (statusMonitor user ending).Follows (positionArm token tripId lat lon ts) Clears .calm := by
  apply clears_authorized
  intro name huser
  apply clears_checkedSample
  apply follows_bind
  apply follows_sql
  apply follows_perform
  case hpermits => exact ⟨huser, rfl⟩
  intro r _
  cases r with
  | error e => exact clears_replyError not_false
  | ok isOpen =>
      cases isOpen with
      | false => exact clears_replyError not_false
      | true => exact clears_positionOpenTrip huser tripId lat lon ts

theorem clears_statsArm (token : String) (fromTs toTs : Int) :
    (statusMonitor user ending).Follows (statsArm token fromTs toTs : Program F Flow)
      Clears .calm := by
  apply clears_authorized
  intro name _
  apply follows_silent_bind (silent_movementStats (fun _ _ => status_ignores rfl) fromTs toTs)
  intro r
  cases r with
  | ok stats => exact clears_reply not_false
  | error e => exact clears_replyError not_false

/-! # One turn of the read loop -/

def Incoming.EndsTrip (item : Incoming F) : Prop :=
  exists token tripId ts, item = .message (.endTrip token tripId ts)

theorem clears_serve [Bcrypt] (item : Incoming F) :
    (statusMonitor user item.EndsTrip).Follows (serve item) Clears .calm := by
  cases item with
  | message msg =>
      cases msg with
      | login username password => exact clears_loginArm username password
      | register username password => exact clears_registerArm username password
      | startTrip token lat lon ts => exact clears_startTripArm token lat lon ts
      | position token tripId lat lon ts => exact clears_positionArm token tripId lat lon ts
      | endTrip token tripId ts =>
          exact clears_endTripArm token tripId ts ⟨token, tripId, ts, rfl⟩
      | stats token fromTs toTs => exact clears_statsArm token fromTs toTs
      | chatToServer token text => exact clears_chatArm token text
      | disconnect token => exact clears_disconnectArm token
      | _ => exact clears_replyError not_false
  | notUtf8 => exact clears_replyError not_false
  | malformed => exact clears_replyError not_false
  | _ => exact not_false

end

end Wanderust
