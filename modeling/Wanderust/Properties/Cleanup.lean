import Wanderust.Properties.SingleSession
import Wanderust.Session.LastItem

/-!
# What a connection leaves behind

The cleanup stands after the read loop, and an early return of a failed send
does not pass through it.  Only after a Disconnect with the own token nothing is
left for it to do.
-/

namespace Wanderust

open Interleaving

variable {F : Type} {w : World F} {l : Label F} {c : ConnId} {username : String}

/--
What the end of a connection owes to the user who was last logged in on it in the
state `before`.  If a later login is refused, it is for a session that another
connection has opened since.
-/
structure Released (before s : State F) (c : ConnId) (username : String) : Prop where
  token : forall token, ¬ Holds s c token username
  status : ¬ Shown s c username
  sink : s.sinks.lookup username ≠ some c
  trips : forall id, TripOf before id username ->
    ¬ TripOpen s id username ∧ s.lastCoordinates.lookup id = none
  login : (forall token, (tryInsertToken s.sessions username token).1 = true) ∨
    exists c' token, c' ≠ c ∧ Holds s c' token username ∧
      before.sessions.lookup token ≠ some username

/-- The end of the connection, or its last item where nobody is logged in at the end. -/
def lastLoggedIn (s0 s : State F) (c : ConnId) : State F :=
  if (s.userState c).isSome then s else s0

/-- The regime in which the statements of one connection succeed. -/
def Regime.sqlOf (c : ConnId) : Regime :=
  { Regime.any with
    sqlOk := fun c' => c' = c
    tripsOk_sql := False.elim }

theorem permits_sqlOf (htokens : DistinctTokens w l)
    (hsql : SqlSucceeds c w l) : (Regime.sqlOf c).Permits w l := by
  refine permits_of_step ?_ (fun _ => not_false)
  intro c' ch hl o ho
  exact ⟨htokens c' ch hl o ho, hsql c' ch hl o ho, False.elim, False.elim, False.elim⟩

theorem tryInsertToken_free {s : State F} (h : ¬ HasSession s username) (token : String) :
    (tryInsertToken s.sessions username token).1 = true := by
  cases hsession : hasSession s.sessions username with
  | true => exact absurd (hasSession_iff.mp hsession) h
  | false => simp [tryInsertToken, hsession]

section

variable {A : Regime} {item : Incoming F} {s0 s : State F} {v : View F}

theorem Cleaned.released (h : Cleaned A c v s) (hsql : A.sqlOk c)
    (huser : s.userState c = some username) : Released s s c username := by
  have huser' : v.user = some username := h.view.user.symm.trans huser
  constructor
  · intro token hheld
    cases (h.view.own token username).mp hheld
  · intro hshown
    cases h.view.statuses_le username hshown.1
  · intro hsink
    cases h.view.sinks_le username hsink
  · exact h.trips hsql username huser'
  · exact Or.inl (tryInsertToken_free (h.session username huser'))

/-- A connection that ends without the cleanup keeps the session of its user. -/
theorem not_released_of_settled (hlocal : Local A c v s) (hsettled : v.Settled)
    (huser : s.userState c = some username) (before : State F) :
    ¬ Released before s c username := by
  intro hreleased
  rcases hsettled.own_of_user (hlocal.user.symm.trans huser) with ⟨token, hown, _, _⟩
  have hmem : (token, username) ∈ v.own := by
    rw [hown]
    exact List.mem_singleton_self _
  exact hreleased.token token ((hlocal.own token username).mpr hmem)

theorem Since.released (h : Since c item s0 s) (hinv : Inv A s)
    (hlocal : Local A c (View.anonymous v.log) s) (huser : s0.userState c = some username) :
    OwnDisconnect s0 c item username ∧ Released s0 s c username := by
  have hown : OwnDisconnect s0 c item username := h.user username huser hlocal.user
  have hnone : forall token, ¬ Holds s c token username := by
    intro token hheld
    cases (hlocal.own token username).mp hheld
  rcases h.held username huser with ⟨token, hheld⟩
  refine ⟨hown, hnone, ?_, ?_, ?_, ?_⟩
  · intro hshown
    cases hlocal.statuses_le username hshown.1
  · intro hsink
    cases hlocal.sinks_le username hsink
  · have htoken : item.token? ≠ none := by
      rcases hown with ⟨token, hitem, _⟩
      rw [hitem]
      exact Option.some_ne_none token
    rcases h.left htoken token username hheld with hsession | hended
    · exact absurd ⟨hsession, h.drawn _ hheld.2⟩ (hnone token)
    · exact fun id htrip => ⟨(hended id htrip).not_open username, (hended id htrip).2⟩
  · by_cases hsession : HasSession s username
    · rcases hsession with ⟨token', hsession⟩
      rcases hinv.session_drawn hsession with ⟨c', hdrawn⟩
      refine Or.inr ⟨c', token', ?_, ⟨hsession, hdrawn⟩, ?_⟩
      · intro hc
        rw [hc] at hdrawn
        exact hnone token' ⟨hsession, hdrawn⟩
      · intro hbefore
        rw [h.one_token token' token username hbefore hheld.1] at hsession
        exact hnone token ⟨hsession, h.drawn _ hheld.2⟩
    · exact Or.inl (tryInsertToken_free hsession)

theorem lastLoggedIn_of_some (huser : s.userState c = some username) :
    lastLoggedIn s0 s c = s := by
  simp [lastLoggedIn, huser]

theorem lastLoggedIn_of_none (huser : s.userState c = none) : lastLoggedIn s0 s c = s0 := by
  simp [lastLoggedIn, huser]

theorem Since.released_of_cleaned (h : Since c item s0 s) (hinv : Inv A s) (hsql : A.sqlOk c)
    (hcleaned : Cleaned A c v s)
    (huser : (lastLoggedIn s0 s c).userState c = some username) :
    Released (lastLoggedIn s0 s c) s c username := by
  cases hend : s.userState c with
  | some u =>
      rw [lastLoggedIn_of_some hend] at huser ⊢
      exact hcleaned.released hsql huser
  | none =>
      rw [lastLoggedIn_of_none hend] at huser ⊢
      have hview := hcleaned.view
      have hnone : v.user = none := hview.user.symm.trans hend
      rw [hnone] at hview
      exact (h.released hinv hview huser).2

theorem Since.released_iff_of_settled (h : Since c item s0 s) (hinv : Inv A s)
    (hlocal : Local A c v s) (hsettled : v.Settled)
    (hquit : forall u, OwnDisconnect s0 c item u -> s.userState c = none)
    (huser : (lastLoggedIn s0 s c).userState c = some username) :
    Released (lastLoggedIn s0 s c) s c username <-> OwnDisconnect s0 c item username := by
  cases hend : s.userState c with
  | some u =>
      rw [lastLoggedIn_of_some hend] at huser ⊢
      apply iff_of_false (not_released_of_settled hlocal hsettled huser s)
      intro hown
      cases hend.symm.trans (hquit username hown)
  | none =>
      rw [lastLoggedIn_of_none hend] at huser ⊢
      rcases hlocal.forget hsettled with ⟨_, hnone⟩ | ⟨u, _, _, hsome⟩
      · have hboth := h.released hinv hnone huser
        exact iff_of_true hboth.2 hboth.1
      · cases hend.symm.trans hsome.user

end

section

variable [Geo F] [Bcrypt]

theorem lastInv_reachable {users : Users} {trips : Trips} {positions : Positions F}
    {last : Option (Incoming F × State F)}
    (hreach : Reach (withHistory World.next (recordItem c))
      (fun p l => DistinctTokens p.1 l ∧ SqlSucceeds c p.1 l)
      (World.boot users trips positions, none) (w, last)) :
    WorldInv (Regime.sqlOf c) w ∧ LastInv c w last := by
  refine hreach.invariant (P := fun p => WorldInv (Regime.sqlOf c) p.1 ∧ LastInv c p.1 p.2) ?_ ?_
  · refine ⟨worldInv_boot False.elim (fun _ => False.elim), ?_⟩
    show LastInv c (World.boot users trips positions) none
    unfold LastInv
    trivial
  · intro p p' l hp hl hnext
    have hpermits := permits_sqlOf hl.1 hl.2
    rcases withHistory_eq_some.mp hnext with ⟨hnext', hrecord⟩
    rw [← hrecord]
    exact ⟨worldInv_next hp.1 hpermits hnext', hp.2.next hp.1 rfl hpermits hnext'⟩

/--
Every connection that has ended has read a last item.  It releases its user if and only
if no send has failed, or only the one that answers a Disconnect with the own token.
-/
theorem released_iff_no_send_failed (users : Users) (trips : Trips) (positions : Positions F)
    (w w' : World F) (c : ConnId) (ch : Choice) (last : Option (Incoming F × State F))
    (hreach : Reach (withHistory World.next (recordItem c))
      (fun p l => DistinctTokens p.1 l ∧ SqlSucceeds c p.1 l)
      (World.boot users trips positions, none) (w, last))
    (htokens : DistinctTokens w (.step c ch)) (hsql : SqlSucceeds c w (.step c ch))
    (hnext : w.next (.step c ch) = some w') (hclosed : w'.tasks c = .closed) :
    exists item s0, last = some (item, s0) ∧
      forall username, (lastLoggedIn s0 w'.state c).userState c = some username ->
        (Released (lastLoggedIn s0 w'.state c) w'.state c username <->
          (forall msg, Event.sendFailed msg ∉ w'.state.traffic c) ∨
            OwnDisconnect s0 c item username) := by
  rcases lastInv_reachable hreach with ⟨hworld, hlast⟩
  have hpermits := permits_sqlOf htokens hsql
  rcases step_of_next hnext with ⟨start, item, p, p', s, htask, hstep, rfl⟩ |
    ⟨start, p, p', s, htask, hstep, rfl⟩
  · -- The handler of the last item has aborted.
    rw [setTask_tasks_self] at hclosed
    rcases hlast.handling hworld rfl hpermits htask hstep with ⟨s0, rfl, rfl, hsince⟩
    rcases handling_step hworld htask hpermits hstep with ⟨hkeeps, hhandling⟩
    rcases hhandling.aborted hclosed with ⟨rfl, v, hlocal, hsettled, _, msg, hmsg⟩
    refine ⟨item, s0, rfl, ?_⟩
    intro username huser
    have hfailed : ¬ forall msg, Event.sendFailed msg ∉ s.traffic c := by
      rw [show s.traffic c = v.log from hlocal.log]
      exact fun hnone => hnone msg hmsg
    refine Iff.trans (hsince.released_iff_of_settled hkeeps.inv hlocal hsettled ?_ huser)
      (or_iff_right hfailed).symm
    intro u hown
    have hquits := (quits_iff hown.userState).mpr hown
    exact hhandling.user hquits.1 hquits.2
  · rw [setTask_tasks_self] at hclosed
    rcases hlast.cleaning hworld rfl hpermits htask hstep with ⟨item, s0, rfl, hsince⟩
    rcases cleaning_step hworld htask hpermits hstep with ⟨hkeeps, hcleaning⟩
    rcases hcleaning.cleaned hclosed with ⟨v, hcleaned, hlog⟩
    have htraffic : s.traffic c = v.log := hcleaned.view.log
    refine ⟨item, s0, rfl, ?_⟩
    intro username huser
    refine iff_of_true (hsince.released_of_cleaned hkeeps.inv rfl hcleaned huser) (Or.inl ?_)
    show forall msg, Event.sendFailed msg ∉ s.traffic c
    rw [htraffic]
    exact hlog

end

/-! # A send that fails -/

section

attribute [local instance] plainBcrypt

/-- Two runs of the first connection, up to the reply that is about to be sent. -/
noncomputable def replying (labels : List (Label ℝ)) : World ℝ × Option (Incoming ℝ × State ℝ) :=
  Interleaving.after (withHistory World.next (recordItem 0)) (fun p l => calmCheck p.1 l)
    (World.boot ∅ ∅ ∅, none) labels

noncomputable def registering : World ℝ × Option (Incoming ℝ × State ℝ) :=
  replying (registerUntilReply 0 "u" "t1")

noncomputable def disconnecting : World ℝ × Option (Incoming ℝ × State ℝ) :=
  replying (registerUntilReply 0 "u" "t1" ++ stepsOf 0 1 ++
    [.receive 0 (.message (.disconnect "t1"))] ++ stepsOf 0 8)

theorem replying_reachable (labels : List (Label ℝ)) :
    Reach (withHistory World.next (recordItem 0))
      (fun p l => DistinctTokens p.1 l ∧ SqlSucceeds 0 p.1 l)
      (World.boot ∅ ∅ ∅, none) ((replying labels).1, (replying labels).2) := by
  refine reach_after ?_ _ _
  intro p l h
  exact ⟨(noFailure_of_check h).tokens, (noFailure_of_check h).sql 0⟩

theorem permits_of_sending {w : World ℝ} {msg : Message ℝ}
    (hsend : (w.tasks 0).nextOp = some (.send msg)) (ch : Choice) :
    DistinctTokens w (.step 0 ch) ∧ SqlSucceeds 0 w (.step 0 ch) := by
  constructor
  · intro c ch' hl o ho hdraw
    cases hl
    rw [hsend, hdraw] at ho
    cases ho
  · intro c ch' hl o ho _ hsql
    cases hl
    rw [hsend] at ho
    cases ho
    cases hsql

theorem released_after_send_failed :
    (exists w' item s0, registering.1.next (.step 0 Choice.failing) = some w' ∧
      registering.2 = some (item, s0) ∧ w'.state.userState 0 = some "u" ∧
      (Released w'.state w'.state 0 "u" <->
        (forall msg, Event.sendFailed msg ∉ w'.state.traffic 0) ∨
          OwnDisconnect s0 0 item "u")) ∧
    exists w' item s0, disconnecting.1.next (.step 0 Choice.failing) = some w' ∧
      disconnecting.2 = some (item, s0) ∧ w'.state.userState 0 = none ∧
      Released s0 w'.state 0 "u" ∧ Event.sendFailed .ack ∈ w'.state.traffic 0 := by
  constructor
  · have hpermits := permits_of_sending (show (registering.1.tasks 0).nextOp =
      some (.send (.authOk "t1")) from rfl) Choice.failing
    rcases released_iff_no_send_failed ∅ ∅ ∅ registering.1 _ 0 Choice.failing registering.2
      (replying_reachable _) hpermits.1 hpermits.2 rfl rfl with ⟨item, s0, hlast, h⟩
    exact ⟨_, item, s0, rfl, hlast, rfl, h "u" rfl⟩
  · have hpermits := permits_of_sending (show (disconnecting.1.tasks 0).nextOp =
      some (.send .ack) from rfl) Choice.failing
    rcases released_iff_no_send_failed ∅ ∅ ∅ disconnecting.1 _ 0 Choice.failing disconnecting.2
      (replying_reachable _) hpermits.1 hpermits.2 rfl rfl with ⟨item, s0, hlast, h⟩
    have hown : OwnDisconnect s0 0 item "u" := by
      cases hlast
      exact ⟨"t1", rfl, rfl, rfl⟩
    exact ⟨_, item, s0, rfl, hlast, rfl, (h "u" hown.userState).mpr (Or.inr hown),
      List.mem_append_right _ (List.mem_singleton_self _)⟩

/-- The reply to a registration fails: the session stays, and the user is locked out. -/
theorem cleanup_skipped :
    exists w w' : World ℝ, exists ch : Choice, exists last,
      Reach (withHistory World.next (recordItem 0))
        (fun p l => DistinctTokens p.1 l ∧ SqlSucceeds 0 p.1 l)
        (World.boot ∅ ∅ ∅, none) (w, last) ∧
      DistinctTokens w (.step 0 ch) ∧ SqlSucceeds 0 w (.step 0 ch) ∧
      w.next (.step 0 ch) = some w' ∧ w'.tasks 0 = .closed ∧
      w'.state.userState 0 = some "u" ∧ ¬ Released w'.state w'.state 0 "u" ∧
      (tryInsertToken w'.state.sessions "u" "t2").1 = false := by
  have hpermits := permits_of_sending (show (registering.1.tasks 0).nextOp =
    some (.send (.authOk "t1")) from rfl) Choice.failing
  refine ⟨registering.1, _, Choice.failing, registering.2, replying_reachable _,
    hpermits.1, hpermits.2, rfl, rfl, rfl, ?_, rfl⟩
  intro hreleased
  rcases hreleased.login with hfree | ⟨_, token, _, hheld, hbefore⟩
  · have hlogin := hfree "t2"
    cases hlogin
  · exact hbefore hheld.1

end

end Wanderust
