import Wanderust.Session.AuthArms

/-!
# The arms that carry a token

A token is accepted only on the connection that owns the session.  The arms for
trips then follow the trip through the database and the store in memory.
-/

namespace Wanderust

open Interleaving Prog

variable {F : Type} {A : Regime} {c : ConnId} {e : Entry} {v w : View F}
variable {item : Incoming F} {log : List (Event F)} {username token : String}
variable {tripId : Int} {lat lon : F} {ts : Int}

/-- A handler may write only when the token of the request is one of its own. -/
def Entry.Permits (e : Entry) (token : String) (v : View F) : Prop :=
  forall username, (token, username) ∈ v.own -> ¬ e.quiet

/-- A trip that has left the memory need not be dropped any more. -/
theorem Local.untracked_gap {s : State F} (h : Local A c v s) (hid : tripId ∈ v.untracked) :
    Local A c { v with gap := v.gap.filter (· ≠ tripId) } s :=
  { h with
    tracked := by
      intro u hu id htrip hcoord
      rcases h.tracked u hu id htrip hcoord with hopen | hgap
      · exact Or.inl hopen
      · right
        refine List.mem_filter.mpr ⟨hgap, ?_⟩
        simp only [ne_eq, decide_eq_true_eq]
        intro heq
        rw [heq] at hcoord
        exact hcoord (h.untracked tripId hid).2 }

variable [Geo F] [Bcrypt]

/-! # Authorization -/

theorem spec_validateToken (hsettled : v.Settled) :
    ViewTriple A c e v (validateToken token)
      (fun r v' => v' = v ∧ forall username, r = some username ->
        v.user = some username ∧ v.own = [(token, username)]) := by
  apply viewTriple_bind act_getUserByToken
  intro r v1 hv1
  rcases hv1 with ⟨rfl, htoken⟩
  cases r with
  | none => exact viewTriple_pure ⟨rfl, fun _ h => by cases h⟩
  | some user =>
      apply viewTriple_bind act_getUserState
      intro stateUser v2 hv2
      rcases hv2 with ⟨rfl, rfl⟩
      by_cases huser : v2.user = some user
      · simp only [huser, ne_eq, not_true, if_false]
        apply viewTriple_pure
        refine ⟨rfl, ?_⟩
        intro username heq
        cases heq
        rcases hsettled.own_of_user huser with ⟨t, hown, _, _⟩
        have ht : token = t := (htoken t user (by simp [hown])).mp rfl
        rw [ht]
        exact ⟨rfl, hown⟩
      · simp only [ne_eq, huser, not_false_eq_true, if_true]
        exact viewTriple_pure ⟨rfl, fun _ h => by cases h⟩

theorem spec_authorized {body : String -> Program F Flow} (hready : v.Ready A item log)
    (hbody : forall username, v.user = some username -> v.own = [(token, username)] ->
      ViewTriple A c e v (body username) (HandlerEnd A c item log)) :
    ViewTriple A c e v (authorized token body) (HandlerEnd A c item log) := by
  apply viewTriple_bind (spec_validateToken hready.settled)
  intro r v1 hv1
  rcases hv1 with ⟨rfl, hr⟩
  cases r with
  | none => exact spec_replyError hready
  | some user =>
      rcases hr user rfl with ⟨huser, hown⟩
      exact hbody user huser hown

theorem spec_checkedSample {body : Program F Flow} (hready : v.Ready A item log)
    (hbody : ViewTriple A c e v body (HandlerEnd A c item log)) :
    ViewTriple A c e v (checkedSample lat lon ts body) (HandlerEnd A c item log) := by
  unfold checkedSample
  by_cases hrange : (!coordsInRange lat lon) = true
  · rw [if_pos hrange]
    exact spec_replyError hready
  · rw [if_neg hrange]
    by_cases hts : ts ≤ 0
    · rw [if_pos hts]
      exact spec_replyError hready
    · rw [if_neg hts]
      exact hbody

/-! # StartTrip -/

theorem spec_insertPosition {stopped : Bool} (hid : tripId ∈ v.opened)
    (hlost : ¬ A.lost tripId) (hentry : e.user = v.user) (hquiet : ¬ e.quiet) (hrows : e.rows) :
    ViewTriple A c e v (insertPosition tripId lat lon ts stopped) (fun _ v' => v' = v) := by
  refine spec_sql (viewTriple_conseq (act_insertPosition hid hlost hentry hquiet hrows) ?_)
  intro r v' hv'
  cases r with
  | ok => exact hv'
  | error err => exact hv'

theorem spec_startTrip (huser : v.user = some username) (hown : v.own = [(token, username)])
    (hentry : e.user = v.user) (hquiet : ¬ e.quiet) (hrows : e.rows) :
    ViewTriple A c e v (startTrip username lat lon ts)
      (fun r v' => v.SameSession v' ∧ v'.gap = v.gap ∧ v'.untracked = v.untracked ∧
        forall id, r = .ok id -> id ∈ v'.opened ∧ ¬ A.lost id) := by
  have hmem : (token, username) ∈ v.own := by simp [hown]
  refine spec_bindOk
    (R := OnResult
      (fun id v' =>
        v' = { v with opened := id :: v.opened, mine := id :: v.mine, openIn := none } ∧
          ¬ A.lost id)
      (fun _ v' => v' = v))
    (spec_sql (viewTriple_conseq (act_insertTrip huser hmem hentry hquiet) ?_)) ?_ ?_
  · intro r v' hv'
    cases r with
    | ok id => exact hv'
    | error err => exact hv'
  · intro id v' hv'
    rcases hv' with ⟨rfl, hlost⟩
    refine spec_bindOk (spec_insertPosition List.mem_cons_self hlost hentry hquiet hrows) ?_ ?_
    · intro _ v'' hv''
      cases hv''
      apply viewTriple_pure
      refine ⟨⟨rfl, rfl, rfl, rfl, rfl⟩, rfl, rfl, ?_⟩
      intro id' heq
      cases heq
      exact ⟨List.mem_cons_self, hlost⟩
    · intro err v'' hv''
      cases hv''
      exact ⟨⟨rfl, rfl, rfl, rfl, rfl⟩, rfl, rfl, fun _ h => by cases h⟩
  · intro err v' hv'
    cases hv'
    exact ⟨View.SameSession.refl v, rfl, rfl, fun _ h => by cases h⟩

/-- Writing the status again changes nothing in the view of a settled session. -/
theorem spec_statusSet {st : UserStatus} (hsettled : v.Settled)
    (huser : v.user = some username) (hquiet : ¬ e.quiet) :
    ViewTriple A c e v (act (.statusSet username st)) (fun _ v' => v' = v) := by
  rcases hsettled.own_of_user huser with ⟨t, hown, hstatuses, _⟩
  have hmem : (t, username) ∈ v.own := by simp [hown]
  apply viewTriple_conseq (act_statusSet hmem hquiet)
  intro _ v' hv'
  have hinsert : v.statuses.insert username = v.statuses := by
    simp [hstatuses]
  rw [hv', hinsert]

theorem spec_initializeTrips (hready : v.Ready A item log) (huser : v.user = some username)
    (hown : v.own = [(token, username)]) (huntracked : v.untracked = [])
    (hentry : e.user = v.user) (hquiet : ¬ e.quiet) (hrows : e.rows) :
    ViewTriple A c e v (initializeTrips username lat lon ts)
      (fun _ v' => v'.Ready A item log) := by
  refine spec_bindOk
    (R := fun r v' => v'.Ready A item log ∧ v.SameSession v' ∧ v'.untracked = [] ∧
      forall id, r = .ok id -> id ∈ v'.opened ∧ ¬ A.lost id)
    (spec_mapError (viewTriple_conseq (spec_startTrip huser hown hentry hquiet hrows) ?_)) ?_ ?_
  · intro r v' hv'
    rcases hv' with ⟨hsame, hgap, hnone, hid⟩
    have hready' := hready.sameSession hsame (hgap.trans hready.settled.gap)
    refine ⟨hready', hsame, hnone.trans huntracked, ?_⟩
    intro id heq
    cases r with
    | ok id' => exact hid id heq
    | error err => cases heq
  · intro id v1 hv1
    rcases hv1 with ⟨hready1, hsame, hnone, hid⟩
    rcases hid id rfl with ⟨hopened, hlost⟩
    refine viewTriple_bind
      (act_trackTrip hopened hlost hnone (hentry.trans hsame.user.symm) hquiet) ?_
    intro _ v2 hv2
    cases hv2
    refine viewTriple_bind
      (spec_statusSet hready1.settled (hsame.user.trans huser) hquiet) ?_
    intro _ v3 hv3
    cases hv3
    exact viewTriple_pure hready1
  · intro err v1 hv1
    exact hv1.1

theorem spec_startTripArm (hstart : Started A e item log v) (hpermits : e.Permits token v)
    (hitem : item = .message (.startTrip token lat lon ts)) :
    ViewTriple A c e v (startTripArm token lat lon ts) (HandlerEnd A c item log) := by
  apply spec_authorized hstart.ready
  intro username huser hown
  apply spec_checkedSample hstart.ready
  have hquiet : ¬ e.quiet := hpermits username (by simp [hown])
  refine viewTriple_bind
    (spec_initializeTrips hstart.ready huser hown hstart.untracked hstart.user hquiet
      hstart.rows) ?_
  intro r v1 hready
  cases r with
  | ok id =>
      refine spec_reply hready (answers_of_admits ⟨token, lat, lon, ts, hitem⟩ ?_)
        (fun _ h => by cases h)
      intro _ _ _ _ _ h
      rw [hitem] at h
      cases h
  | error err => exact spec_replyError hready

/-! # Position -/

theorem spec_applyInsert {action : InsertAction} (hid : tripId ∈ v.opened)
    (hlost : ¬ A.lost tripId) (hentry : e.user = v.user) (hquiet : ¬ e.quiet) (hrows : e.rows) :
    ViewTriple A c e v (applyInsert tripId lat lon ts action) (fun _ v' => v' = v) := by
  cases action with
  | insert stopped =>
      refine spec_mapError
        (viewTriple_conseq (spec_insertPosition hid hlost hentry hquiet hrows) ?_)
      intro r v' hv'
      exact hv'
  | skip => exact viewTriple_pure rfl

theorem spec_applyTransition {transition : StatusTransition} (hsettled : v.Settled)
    (huser : v.user = some username) (hquiet : ¬ e.quiet) :
    ViewTriple A c e v (applyTransition username transition) (fun _ v' => v' = v) := by
  cases transition with
  | toMoving => exact spec_statusSet hsettled huser hquiet
  | toStationary => exact spec_statusSet hsettled huser hquiet
  | unchanged => exact viewTriple_pure rfl

theorem spec_updateTrip (hsettled : v.Settled) (huser : v.user = some username)
    (hid : tripId ∈ v.opened) (hlost : ¬ A.lost tripId) (hentry : e.user = v.user)
    (hquiet : ¬ e.quiet) (hrows : e.rows) :
    ViewTriple A c e v (updateTrip tripId username lat lon ts) (fun _ v' => v' = v) := by
  apply viewTriple_bind (act_observeCoord hid hentry hquiet)
  intro r v1 hv1
  rcases hv1 with ⟨rfl, _⟩
  cases r with
  | none => exact viewTriple_pure rfl
  | some actions =>
      refine spec_bindOk (spec_applyInsert hid hlost hentry hquiet hrows) ?_ ?_
      · intro _ v2 hv2
        cases hv2
        apply viewTriple_bind (spec_applyTransition hsettled huser hquiet)
        intro _ v3 hv3
        exact viewTriple_pure hv3
      · intro err v2 hv2
        exact hv2

theorem spec_endOrphan (hready : v.Ready A item log) (huser : v.user = some username)
    (hown : v.own = [(token, username)]) (huntracked : tripId ∈ v.untracked)
    (hentry : e.user = v.user) (hquiet : ¬ e.quiet) :
    ViewTriple A c e v (endTrip tripId username ts)
      (fun _ v' => v'.Ready A item log ∨
        (tripId ∈ v'.untracked ∧
          { v' with gap := v'.gap.filter (· ≠ tripId) }.Ready A item log)) := by
  apply viewTriple_conseq (spec_endTrip huser hown hentry hquiet)
  intro r v' hv'
  cases r with
  | ok =>
      cases hv'
      refine Or.inr ⟨huntracked, hready.sameSession ⟨rfl, rfl, rfl, rfl, rfl⟩ ?_⟩
      simp [View.close, hready.settled.gap]
  | error err =>
      rcases hv' with ⟨rfl, _⟩ | rfl
      · exact Or.inl hready
      · exact Or.inl (hready.sameSession ⟨rfl, rfl, rfl, rfl, rfl⟩ hready.settled.gap)

theorem spec_positionOpenTrip (hready : v.Ready A item log) (huser : v.user = some username)
    (hown : v.own = [(token, username)]) (hid : tripId ∈ v.opened) (hentry : e.user = v.user)
    (hquiet : ¬ e.quiet) (hrows : e.rows)
    (hitem : item = .message (.position token tripId lat lon ts)) :
    ViewTriple A c e v (positionOpenTrip username tripId lat lon ts)
      (HandlerEnd A c item log) := by
  apply viewTriple_bind (act_isTracked hid)
  intro tracked v1 hv1
  cases tracked with
  | true =>
      rcases hv1 with ⟨rfl, hlost⟩
      refine viewTriple_bind
        (spec_updateTrip hready.settled huser hid hlost hentry hquiet hrows) ?_
      intro r v2 hv2
      cases hv2
      cases r with
      | ok =>
          refine spec_reply hready ⟨Or.inl ⟨_, _, _, _, _, hitem⟩, ?_⟩ (fun _ h => by cases h)
          intro _ _ _ _ _ heq hlost'
          rw [hitem] at heq
          cases heq
          exact absurd hlost' hlost
      | error err => exact spec_replyError hready
  | false =>
      cases hv1
      refine viewTriple_bind
        (spec_endOrphan (v := { v with untracked := tripId :: v.untracked })
          (hready.sameSession ⟨rfl, rfl, rfl, rfl, rfl⟩ hready.settled.gap) huser hown
          List.mem_cons_self hentry hquiet) ?_
      intro _ v2 hv2
      rcases hv2 with hready' | ⟨huntracked, hready'⟩
      · exact spec_replyError hready'
      · exact viewTriple_weaken (fun _ h => h.untracked_gap huntracked)
          (spec_replyError hready')

theorem spec_positionArm (hstart : Started A e item log v) (hpermits : e.Permits token v)
    (hitem : item = .message (.position token tripId lat lon ts)) :
    ViewTriple A c e v (positionArm token tripId lat lon ts) (HandlerEnd A c item log) := by
  apply spec_authorized hstart.ready
  intro username huser hown
  apply spec_checkedSample hstart.ready
  have hmem : (token, username) ∈ v.own := by simp [hown]
  have hquiet : ¬ e.quiet := hpermits username hmem
  refine viewTriple_bind
    (spec_sql (Q := OnResult
      (fun isOpen v' =>
        v' = if isOpen then { v with opened := tripId :: v.opened, mine := tripId :: v.mine }
          else v)
      (fun _ v' => v' = v))
      (viewTriple_conseq (act_selectOpenTrip huser hmem) ?_)) ?_
  · intro r v' hv'
    cases r with
    | ok isOpen =>
        cases isOpen with
        | true => exact hv'
        | false => exact hv'
    | error err => exact hv'
  · intro r v' hv'
    cases r with
    | ok isOpen =>
        cases isOpen with
        | true =>
            cases hv'
            exact spec_positionOpenTrip
              (hstart.ready.sameSession ⟨rfl, rfl, rfl, rfl, rfl⟩ hstart.ready.settled.gap)
              huser hown List.mem_cons_self hstart.user hquiet hstart.rows hitem
        | false =>
            cases hv'
            exact spec_replyError hstart.ready
    | error err =>
        cases hv'
        exact spec_replyError hstart.ready

/-! # EndTrip -/

theorem spec_terminateTrip (hready : v.Ready A item log) (huser : v.user = some username)
    (hown : v.own = [(token, username)]) (hentry : e.user = v.user) (hquiet : ¬ e.quiet) :
    ViewTriple A c e v (terminateTrip tripId username ts)
      (fun _ v' => v'.Ready A item log) := by
  refine spec_bindOk
    (R := OnResult (fun _ v' => v' = v.close tripId) (fun _ v' => v'.Ready A item log))
    (spec_mapError (viewTriple_conseq (spec_endTrip huser hown hentry hquiet) ?_)) ?_ ?_
  · intro r v' hv'
    cases r with
    | ok => exact hv'
    | error err =>
        rcases hv' with ⟨rfl, _⟩ | rfl
        · exact hready
        · exact hready.sameSession ⟨rfl, rfl, rfl, rfl, rfl⟩ hready.settled.gap
  · intro _ v' hv'
    cases hv'
    refine viewTriple_bind (act_dropTrip List.mem_cons_self hentry hquiet) ?_
    intro _ v'' hv''
    cases hv''
    refine viewTriple_pure (hready.sameSession ⟨rfl, rfl, rfl, rfl, rfl⟩ ?_)
    simp [View.close, hready.settled.gap]
  · intro err v' hv'
    exact hv'

theorem spec_endTripArm (hstart : Started A e item log v) (hpermits : e.Permits token v)
    (hitem : item = .message (.endTrip token tripId ts)) :
    ViewTriple A c e v (endTripArm token tripId ts) (HandlerEnd A c item log) := by
  apply spec_authorized hstart.ready
  intro username huser hown
  have hquiet : ¬ e.quiet := hpermits username (by simp [hown])
  apply viewTriple_bind (spec_terminateTrip hstart.ready huser hown hstart.user hquiet)
  intro r v1 hready
  cases r with
  | ok =>
      refine spec_reply hready
        (answers_of_admits (Or.inr (Or.inl ⟨token, tripId, ts, hitem⟩)) ?_)
        (fun _ h => by cases h)
      intro _ _ _ _ _ h
      rw [hitem] at h
      cases h
  | error err => exact spec_replyError hready

end Wanderust
