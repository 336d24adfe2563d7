import Wanderust.Session.TripArms

/-!
# The dispatcher and the cleanup

Every turn of the read loop, started from a view in which at most one user is
logged in, ends with such a view.  The cleanup that follows the loop ends with
nothing left: this is a fact about the state in which it ends, not about what
the other connections do afterwards.
-/

namespace Wanderust

open Interleaving Prog

variable {F : Type} {A : Regime} {c : ConnId} {e : Entry} {v w : View F}
variable {item : Incoming F} {log : List (Event F)} {username token : String}

def Incoming.token? : Incoming F -> Option String
  | .message msg => msg.token?
  | _ => none

/--
The handler of `item` may write unless it carries a token that is not its own.  It
may switch accounts when it carries none, and log out when it is a Disconnect.
-/
structure Entry.Fits (e : Entry) (item : Incoming F) (v : View F) : Prop where
  tokenless : item.token? = none -> ¬ e.quiet
  token : forall token, item.token? = some token -> e.Permits token v
  own : forall token, item.token? = some token -> ¬ e.quiet ->
    exists username, (token, username) ∈ v.own
  switches : item.token? = none -> e.switches
  quits : e.quits <-> exists token, item = .message (.disconnect token)

/-- How a handler ends.  A Disconnect with the own token leaves nobody logged in. -/
def ServeEnd (A : Regime) (c : ConnId) (e : Entry) (item : Incoming F) (log : List (Event F))
    (flow : Flow) (v : View F) : Prop :=
  HandlerEnd A c item log flow v ∧ (e.quits -> ¬ e.quiet -> v.user = none)

theorem View.OpenWithin.nil (h : v.OpenWithin []) : v.openIn = some [] := by
  rcases h with ⟨l, hl, hmem⟩
  cases l with
  | nil => exact hl
  | cons id rest => cases hmem id List.mem_cons_self

variable [Geo F] [Bcrypt]

/-! # Stats and chat -/

theorem spec_statsArm {fromTs toTs : Int} (hready : v.Ready A item log)
    (hitem : item = .message (.stats token fromTs toTs)) :
    ViewTriple A c e v (statsArm token fromTs toTs) (HandlerEnd A c item log) := by
  apply spec_authorized hready
  intro username huser hown
  have hquery : ViewTriple A c e v (trajectoryForUser username fromTs toTs)
      (fun _ v' => v' = v) := by
    unfold trajectoryForUser
    by_cases hinterval : toTs < fromTs
    · rw [if_pos hinterval]
      exact viewTriple_pure rfl
    · rw [if_neg hinterval]
      exact spec_sql act_selectTrajectory
  refine viewTriple_bind (spec_bindOk (Q := fun _ v' => v' = v) hquery ?_ ?_) ?_
  · intro points v1 hv1
    exact viewTriple_pure hv1
  · intro err v1 hv1
    exact hv1
  · intro r v1 hv1
    cases hv1
    cases r with
    | ok stats =>
        refine spec_reply hready
          (answers_of_admits
            (show item.admits stats.toMessage from ⟨token, fromTs, toTs, hitem⟩) ?_)
          (fun _ h => by cases h)
        intro _ _ _ _ _ h
        rw [hitem] at h
        cases h
    | error err => exact spec_replyError hready

theorem spec_chatArm {text : String} (hready : v.Ready A item log)
    (hitem : item = .message (.chatToServer token text)) :
    ViewTriple A c e v (chatArm token text) (HandlerEnd A c item log) := by
  apply spec_authorized hready
  intro username huser hown
  cases validateChat text with
  | error err => exact spec_replyError hready
  | ok =>
      refine spec_reply hready
        (answers_of_admits (Or.inr (Or.inr (Or.inl ⟨token, text, hitem⟩))) ?_)
        (fun _ h => by cases h)
      intro _ _ _ _ _ h
      rw [hitem] at h
      cases h

/-! # Disconnect -/

theorem spec_farewell (hready : v.Ready A item log)
    (hitem : item = .message (.disconnect token)) :
    ViewTriple A c e v farewell
      (fun flow v' => HandlerEnd A c item log flow v' ∧ v'.user = v.user) := by
  have hlog : forall ev, v.log ++ [ev] = log ++ [.received item, ev] := by
    intro ev
    rw [hready.log_eq, List.append_assoc]
    rfl
  have hanswers : Answers A item .ack := by
    refine answers_of_admits (Or.inr (Or.inr (Or.inr ⟨token, hitem⟩))) ?_
    intro _ _ _ _ _ h
    rw [hitem] at h
    cases h
  apply viewTriple_bind act_send
  intro r v1 hv1
  cases r with
  | true =>
      cases hv1
      apply viewTriple_bind act_sendClose
      intro _ v2 hv2
      rcases hv2 with ⟨close, hclose, rfl⟩
      refine viewTriple_pure ⟨⟨⟨hready.settled.gap, hready.settled.shape⟩,
        Or.inr ⟨.ack, close, hanswers, hclose, ?_⟩⟩, rfl⟩
      simp only [hlog]
      rw [List.append_assoc]
      rfl
  | false =>
      rcases hv1 with ⟨rfl, hsend⟩
      exact viewTriple_pure
        ⟨⟨⟨hready.settled.gap, hready.settled.shape⟩, hsend, .ack, hlog _⟩, rfl⟩

theorem spec_logout (hready : v.Ready A item log) (huser : v.user = some username)
    (hown : v.own = [(token, username)]) (hentry : e.user = v.user) (hquiet : ¬ e.quiet)
    (hquits : e.quits) :
    ViewTriple A c e v (logout username token)
      (fun _ v' => v'.Ready A item log ∧ v'.user = none) := by
  refine viewTriple_bind
    (spec_closeOpenTrips huser hown hentry hquiet hready.settled.gap) ?_
  intro _ v1 hv1
  rcases hv1 with ⟨hsame, hgap, hopenIn⟩
  rcases (hready.sameSession hsame hgap).settled.own_of_user (hsame.user.trans huser)
    with ⟨t, hown1, hstatuses1, hsinks1⟩
  apply viewTriple_bind (act_statusRemove hquiet)
  intro _ v2 hv2
  cases hv2
  apply viewTriple_bind (act_sinksRemove hquiet)
  intro _ v3 hv3
  cases hv3
  have hmem : (token, username) ∈ v1.own := by simp [hsame.own, hown]
  refine viewTriple_bind (act_invalidateToken hmem (hentry.trans huser) hgap ?_) ?_
  · intro hsql
    exact (hopenIn hsql).nil
  · intro _ v4 hv4
    cases hv4
    apply viewTriple_conseq (act_setUserState rfl rfl fun _ => ⟨hquits, hquiet⟩)
    intro _ v5 hv5
    cases hv5
    refine ⟨⟨⟨hgap, Or.inl ⟨rfl, ?_, ?_, ?_⟩⟩, hready.transcript, ?_,
      hsame.log.trans hready.log_eq⟩, rfl⟩
    · simp [View.drop, hown1]
    · simp [View.drop, hstatuses1]
    · simp [View.drop, hsinks1]
    · intro t' u' hmem
      simp [View.drop, hown1] at hmem

theorem spec_disconnectArm (hstart : Started A e item log v) (hfits : e.Fits item v)
    (hitem : item = .message (.disconnect token)) :
    ViewTriple A c e v (disconnectArm token) (ServeEnd A c e item log) := by
  have hready := hstart.ready
  have htoken? : item.token? = some token := by rw [hitem]; rfl
  apply viewTriple_bind act_getUserState
  intro stateUser v1 hv1
  rcases hv1 with ⟨rfl, rfl⟩
  apply viewTriple_bind act_getUserByToken
  intro r v2 hv2
  rcases hv2 with ⟨rfl, htoken⟩
  -- a token that is not the own one comes with a handler that only reads
  have hforeign : (forall username, v2.user = some username -> r ≠ some username) ->
      ViewTriple A c e v2 farewell (ServeEnd A c e item log) := by
    intro hne
    apply viewTriple_conseq (spec_farewell hready hitem)
    intro flow v' hv'
    refine ⟨hv'.1, fun _ hquiet => ?_⟩
    rcases hfits.own token htoken? hquiet with ⟨username, hmem⟩
    exact absurd ((htoken token username hmem).mpr rfl)
      (hne username (hready.settled.user_of_own hmem).1)
  cases r with
  | none => exact hforeign fun _ _ h => by cases h
  | some user =>
      by_cases huser : v2.user = some user
      · simp only [huser, if_true]
        rcases hready.settled.own_of_user huser with ⟨t, hown, _, _⟩
        have ht : token = t := (htoken t user (by simp [hown])).mp rfl
        cases ht
        refine viewTriple_bind (spec_logout hready huser hown hstart.user
          (hfits.token token htoken? user (by simp [hown])) (hfits.quits.mpr ⟨token, hitem⟩)) ?_
        intro _ v3 hv3
        apply viewTriple_conseq (spec_farewell hv3.1 hitem)
        intro flow v' hv'
        exact ⟨hv'.1, fun _ _ => hv'.2.trans hv3.2⟩
      · simp only [huser, if_false]
        apply hforeign
        intro username hsome hr
        cases hr
        exact huser hsome

/-! # One turn of the read loop -/

theorem spec_dispatch {msg : Message F} (hstart : Started A e item log v)
    (hfits : e.Fits item v) (hitem : item = .message msg)
    (hstays : forall token, msg ≠ .disconnect token) :
    ViewTriple A c e v (dispatch msg) (HandlerEnd A c item log) := by
  have htoken : item.token? = msg.token? := by rw [hitem]; rfl
  cases msg with
  | login username password =>
      exact spec_loginArm hstart (hfits.tokenless htoken) (hfits.switches htoken) hitem
  | register username password =>
      exact spec_registerArm hstart (hfits.tokenless htoken) (hfits.switches htoken) hitem
  | startTrip token lat lon ts =>
      exact spec_startTripArm hstart (hfits.token token htoken) hitem
  | position token tripId lat lon ts =>
      exact spec_positionArm hstart (hfits.token token htoken) hitem
  | endTrip token tripId ts =>
      exact spec_endTripArm hstart (hfits.token token htoken) hitem
  | stats token fromTs toTs => exact spec_statsArm hstart.ready hitem
  | chatToServer token text => exact spec_chatArm hstart.ready hitem
  | disconnect token => exact absurd rfl (hstays token)
  | authOk token => exact spec_replyError hstart.ready
  | tripStarted tripId lat lon ts => exact spec_replyError hstart.ready
  | statsResult => exact spec_replyError hstart.ready
  | ack => exact spec_replyError hstart.ready
  | error code message => exact spec_replyError hstart.ready
  | chatFromServer sender text => exact spec_replyError hstart.ready

theorem spec_serve (hstart : Started A e item log v) (hfits : e.Fits item v) :
    ViewTriple A c e v (serve item) (ServeEnd A c e item log) := by
  have hready := hstart.ready
  have hsilent : item.silent -> HandlerEnd A c item log .next v := by
    intro hitem
    refine ⟨hready.settled, ?_, ?_⟩
    · intro t u hmem
      rw [hready.log_eq, lastIssued_received]
      exact hready.issued t u hmem
    · rw [hready.log_eq]
      exact hready.transcript.silent hitem
  have hleave : HandlerEnd A c item log .leave v := ⟨hready.settled, Or.inl hready.log_eq⟩
  have hstays : (forall token, item ≠ .message (.disconnect token)) ->
      forall {i}, ViewTriple A c e v (serve i) (HandlerEnd A c item log) ->
        ViewTriple A c e v (serve i) (ServeEnd A c e item log) := by
    intro hne i htriple
    apply viewTriple_conseq htriple
    intro flow v' hv'
    refine ⟨hv', fun hquits _ => ?_⟩
    rcases hfits.quits.mp hquits with ⟨token, hitem⟩
    exact absurd hitem (hne token)
  have hserve : forall i, item = i ->
      ViewTriple A c e v (serve i) (ServeEnd A c e item log) := by
    intro i hitem
    by_cases hdisconnect : exists token, item = .message (.disconnect token)
    · rcases hdisconnect with ⟨token, hdisconnect⟩
      rw [hitem.symm.trans hdisconnect]
      exact spec_disconnectArm hstart hfits hdisconnect
    · have hne : forall token, item ≠ .message (.disconnect token) := fun token h =>
        hdisconnect ⟨token, h⟩
      apply hstays hne
      cases i with
      | message msg =>
          apply spec_dispatch hstart hfits hitem
          intro token hmsg
          rw [hmsg] at hitem
          exact hne token hitem
      | notUtf8 => exact spec_replyError hready
      | malformed => exact spec_replyError hready
      | empty => exact viewTriple_pure (hsilent (Or.inl hitem))
      | pingPong => exact viewTriple_pure (hsilent (Or.inr hitem))
      | closeFrame => exact viewTriple_pure hleave
      | readError => exact viewTriple_pure hleave
      | endOfStream => exact viewTriple_pure hleave
  exact hserve item rfl

/-! # Cleanup -/

/-- Nothing of the connection is left in the stores, and nothing of its user. -/
structure Cleaned (A : Regime) (c : ConnId) (v : View F) (s : State F) : Prop where
  view : Local A c (View.released v.user v.log) s
  session : forall username, v.user = some username -> ¬ HasSession s username
  trips : A.sqlOk c -> forall username, v.user = some username -> NoTripLeft s username

/-- The last step of the cleanup: the trips are closed, and the session goes. -/
theorem cleaned_invalidateUserSessions (hown : v.own = [(token, username)])
    (huser : v.user = some username) (hstatuses : v.statuses = []) (hsinks : v.sinks = [])
    (hgap : v.gap = []) (hentry : e.user = v.user) (hopenIn : A.sqlOk c -> v.openIn = some []) :
    (setting A).Triple c (Guar A e) (Local A c v) (act (.invalidateUserSessions username))
      (fun _ s => Cleaned A c v s) := by
  apply Setting.triple_perform (stable_local v)
  intro s hinv hs ch _
  have howner : Owns s c username := hs.owns (by rw [hown]; exact List.mem_singleton_self _)
  have hleft : A.sqlOk c -> NoTripLeft s username :=
    fun hsql => hs.noTripLeft howner (hopenIn hsql) hgap
  have hlookup := lookup_invalidateUserSessions s.sessions username
  refine ⟨keeps_dropSession hinv hs hlookup (by rw [hown]; exact List.mem_singleton_self _)
    (hentry.trans huser) hgap (fun hA => hleft (A.tripsOk_sql hA c)) (fun hsql _ => hleft hsql),
    ?_, ?_, ?_⟩
  · have hstrip := (local_dropSession hs hlookup).strip
    simp only [View.strip, View.drop, hown, hstatuses, hsinks, hgap] at hstrip
    simpa [View.released] using hstrip
  · intro u hu hsession
    rw [huser] at hu
    cases hu
    rcases hsession with ⟨t, ht⟩
    simp only [hlookup] at ht
    by_cases hold : s.sessions.lookup t = some username
    · rw [if_pos hold] at ht
      cases ht
    · rw [if_neg hold] at ht
      exact hold ht
  · intro hsql u hu
    rw [huser] at hu
    cases hu
    exact hleft hsql

theorem spec_cleanup (hsettled : v.Settled) (hentry : e.user = v.user) (hquiet : ¬ e.quiet) :
    (setting A).Triple c (Guar A e) (Local A c v) cleanup (fun _ s => Cleaned A c v s) := by
  apply triple_bind_view act_getUserState
  intro r v1 hv1
  rcases hv1 with ⟨rfl, rfl⟩
  cases huser : v1.user with
  | none =>
      apply Setting.triple_pure
      intro s _ hs
      have hnone : forall u, v1.user ≠ some u := by
        intro u hu
        rw [huser] at hu
        cases hu
      refine ⟨?_, fun u hu => absurd hu (hnone u), fun _ u hu => absurd hu (hnone u)⟩
      rcases hs.forget hsettled with ⟨hu, hanonymous⟩ | ⟨username, token, hown, _⟩
      · rw [hu]
        exact hanonymous
      · rcases hsettled.user_of_own (by rw [hown]; exact List.mem_singleton_self _) with ⟨hu, _⟩
        exact absurd hu (hnone username)
  | some username =>
      rcases hsettled.own_of_user huser with ⟨token, hown, hstatuses, hsinks⟩
      refine triple_bind_view
        (spec_closeOpenTrips huser hown hentry hquiet hsettled.gap) ?_
      intro _ v2 hv2
      rcases hv2 with ⟨hsame, hgap, hopenIn⟩
      apply triple_bind_view (act_statusRemove hquiet)
      intro _ v3 hv3
      cases hv3
      apply triple_bind_view (act_sinksRemove hquiet)
      intro _ v4 hv4
      cases hv4
      refine Setting.triple_bind
        (cleaned_invalidateUserSessions (hsame.own.trans hown) (hsame.user.trans huser) ?_ ?_
          hgap (hentry.trans hsame.user.symm) (fun hsql => (hopenIn hsql).nil)) ?_
      · simp [hsame.statuses, hstatuses]
      · simp [hsame.sinks, hsinks]
      · intro _
        apply Setting.triple_pure
        intro s _ hs
        have huser' : v2.user = v1.user := hsame.user
        refine ⟨?_, ?_, ?_⟩
        · rw [← huser', ← hsame.log]
          exact hs.view
        · rw [← huser']
          exact hs.session
        · rw [← huser']
          exact hs.trips

end Wanderust
