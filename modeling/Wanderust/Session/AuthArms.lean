import Wanderust.Session.Handlers

/-!
# Login, registration and the account switch

The two arms that change the user of a connection.  Each is run from the view
with which a handler starts, and ends as `HandlerEnd` says.
-/

namespace Wanderust

open Interleaving Prog

variable {F : Type} {A : Regime} {c : ConnId} {e : Entry} {v w : View F}
variable {item : Incoming F} {log : List (Event F)} {username token : String}

/-! # Views of a running handler -/

/-- The view of a handler that still owes the reply to `item`. -/
structure View.Ready (A : Regime) (item : Incoming F) (log : List (Event F))
    (v : View F) : Prop where
  settled : v.Settled
  transcript : Transcript A log
  issued : forall token username, (token, username) ∈ v.own -> lastIssued log = some token
  log_eq : v.log = log ++ [.received item]

/-- The view with which a handler starts, and what it may change. -/
structure Started (A : Regime) (e : Entry) (item : Incoming F) (log : List (Event F))
    (v : View F) : Prop where
  ready : v.Ready A item log
  openIn : v.openIn = none
  mine : v.mine = []
  opened : v.opened = []
  untracked : v.untracked = []
  user : e.user = v.user
  rows : e.rows

theorem View.Ready.sameSession (h : v.Ready A item log) (hsame : v.SameSession w)
    (hgap : w.gap = []) : w.Ready A item log where
  settled :=
    { gap := hgap
      shape := by
        rw [hsame.user, hsame.own, hsame.statuses, hsame.sinks]
        exact h.settled.shape }
  transcript := h.transcript
  issued := by
    rw [hsame.own]
    exact h.issued
  log_eq := hsame.log.trans h.log_eq

theorem View.Settled.user_of_own (h : v.Settled) (hown : (token, username) ∈ v.own) :
    v.user = some username ∧ v.own = [(token, username)] := by
  rcases h.shape with ⟨_, hnone, _, _⟩ | ⟨u, t, huser, hsome, _, _⟩
  · rw [hnone] at hown
    cases hown
  · rw [hsome] at hown
    cases List.mem_singleton.mp hown
    exact ⟨huser, hsome⟩

theorem View.Settled.own_of_user (h : v.Settled) (huser : v.user = some username) :
    exists token, v.own = [(token, username)] ∧ v.statuses = [username] ∧
      v.sinks = [username] := by
  rcases h.shape with ⟨hnone, _, _, _⟩ | ⟨u, t, hsome, hown, hstatuses, hsinks⟩
  · rw [hnone] at huser
    cases huser
  · rw [hsome] at huser
    cases huser
    exact ⟨t, hown, hstatuses, hsinks⟩

theorem View.Settled.covered (h : v.Settled) {u : String}
    (hu : u ∈ v.statuses ∨ u ∈ v.sinks) : exists t, (t, u) ∈ v.own := by
  rcases h.shape with ⟨_, _, hstatuses, hsinks⟩ | ⟨u', t, _, hown, hstatuses, hsinks⟩
  · rw [hstatuses, hsinks] at hu
    rcases hu with hu | hu <;> cases hu
  · rw [hstatuses, hsinks] at hu
    rcases hu with hu | hu
    · cases List.mem_singleton.mp hu
      exact ⟨t, by simp [hown]⟩
    · cases List.mem_singleton.mp hu
      exact ⟨t, by simp [hown]⟩

def View.Learned (v v' : View F) : Prop :=
  exists fresh known, v' = { v with fresh, known }

def View.Gained (v : View F) (username token : String) (v' : View F) : Prop :=
  (exists fresh known, v' = { v with own := (token, username) :: v.own, fresh, known }) ∧
    forall t u, (t, u) ∈ v.own -> u ≠ username

theorem View.Learned.refl (v : View F) : v.Learned v := ⟨_, _, rfl⟩

theorem View.Learned.sameSession (h : v.Learned w) : v.SameSession w := by
  rcases h with ⟨fresh, known, rfl⟩
  exact ⟨rfl, rfl, rfl, rfl, rfl⟩

variable [Geo F] [Bcrypt]

/-! # Answering -/

theorem spec_send_reply {msg : Message F} (hsettled : v.Settled)
    (htranscript : Transcript A log) (hlog : v.log = log ++ [.received item])
    (hanswers : Answers A item msg)
    (hissued : forall t u, (t, u) ∈ v.own ->
      lastIssued (log ++ [.received item, .sent msg]) = some t) :
    ViewTriple A c e v (reply msg) (HandlerEnd A c item log) := by
  apply viewTriple_bind act_send
  intro r v' hv'
  have hlog' : forall ev, v.log ++ [ev] = log ++ [.received item, ev] := by
    intro ev
    rw [hlog, List.append_assoc]
    rfl
  cases r with
  | true =>
      cases hv'
      apply viewTriple_pure
      refine ⟨⟨hsettled.gap, hsettled.shape⟩, ?_, ?_⟩
      · intro t u hmem
        simp only [hlog']
        exact hissued t u hmem
      · simp only [hlog']
        exact htranscript.answered hanswers
  | false =>
      rcases hv' with ⟨rfl, hsend⟩
      exact viewTriple_pure ⟨⟨hsettled.gap, hsettled.shape⟩, hsend, msg, hlog' _⟩

theorem spec_reply {msg : Message F} (hready : v.Ready A item log)
    (hanswers : Answers A item msg) (hmsg : forall token, msg ≠ .authOk token) :
    ViewTriple A c e v (reply msg) (HandlerEnd A c item log) := by
  apply spec_send_reply hready.settled hready.transcript hready.log_eq hanswers
  intro t u hmem
  rw [lastIssued_other log item hmsg]
  exact hready.issued t u hmem

theorem spec_replyError {code message : String} (hready : v.Ready A item log) :
    ViewTriple A c e v (replyError code message) (HandlerEnd A c item log) :=
  spec_reply hready (answers_error A item code message) (fun _ h => by cases h)

/-! # Authentication -/

theorem spec_sql {alpha : Type} {p : Program F (Except SqlError alpha)}
    {Q : Except String alpha -> View F -> Prop}
    (hp : ViewTriple A c e v p (fun r v' => Q (r.mapError SqlError.text) v')) :
    ViewTriple A c e v (sql p) Q :=
  spec_mapError hp

theorem spec_keyExists :
    ViewTriple A c e v (keyExists username) (fun _ v' => v' = v) := by
  refine spec_sql (viewTriple_conseq act_selectUser ?_)
  intro r v' hv'
  cases r with
  | ok a => exact hv'
  | error err => exact hv'

theorem spec_checkCredentials {password : String} :
    ViewTriple A c e v (checkCredentials (.login username password))
      (fun r v' => v.Learned v' ∧ (r = .ok () -> username ∈ v'.known)) := by
  refine spec_bindOk
    (R := OnResult
      (fun stored v' => v' = if stored.isSome then { v with known := username :: v.known } else v)
      (fun _ v' => v' = v))
    (spec_sql (viewTriple_conseq act_selectPasswordHash ?_)) ?_ ?_
  · intro r v' hv'
    cases r with
    | ok a =>
        cases a with
        | none => exact hv'
        | some stored => exact hv'
    | error err => exact hv'
  · intro row v' hv'
    cases row with
    | none =>
        cases hv'
        exact viewTriple_pure ⟨⟨_, _, rfl⟩, fun h => by cases h⟩
    | some stored =>
        cases hv'
        by_cases hverify : Bcrypt.verify password stored = true
        · simp only [hverify, if_true]
          exact viewTriple_pure ⟨⟨_, _, rfl⟩, fun _ => List.mem_cons_self⟩
        · simp only [hverify]
          exact viewTriple_pure ⟨⟨_, _, rfl⟩, fun h => by cases h⟩
  · intro err v' hv'
    cases hv'
    exact ⟨⟨_, _, rfl⟩, fun h => by cases h⟩

theorem spec_saveRegister {password : String} :
    ViewTriple A c e v (saveRegister (.register username password))
      (fun r v' => v.Learned v' ∧ (r = .ok () -> username ∈ v'.known)) := by
  apply viewTriple_bind act_bcryptHash
  intro passwordHash v1 hv1
  cases hv1
  apply viewTriple_bind act_nowSecs
  intro now v2 hv2
  cases hv2
  apply viewTriple_bind act_insertUser
  intro r v3 hv3
  cases r with
  | ok =>
      rcases hv3 with ⟨rfl, _⟩
      exact viewTriple_pure ⟨⟨_, _, rfl⟩, fun _ => List.mem_cons_self⟩
  | error err =>
      cases hv3
      by_cases hunique : err.uniqueViolation = true
      · simp only [hunique, if_true]
        exact viewTriple_pure ⟨⟨_, _, rfl⟩, fun h => by cases h⟩
      · simp only [hunique]
        exact viewTriple_pure ⟨⟨_, _, rfl⟩, fun h => by cases h⟩

/-- What Login and Register promise: a session has been gained, or nothing happened. -/
def View.AuthEnd (v : View F) (username : String) (r : Except String (String × String))
    (v' : View F) : Prop :=
  match r with
  | .ok (name, token) => name = username ∧ v.Gained username token v'
  | .error _ => v.Learned v'

theorem spec_openSession (hlearned : v.Learned w) (hknown : username ∈ w.known)
    (hsettled : v.Settled) (hopenIn : v.openIn = none) :
    ViewTriple A c e w
      (createToken.bind fun token =>
        bindOk (tryInsertTokenProg username token) fun _ => .pure (.ok (username, token)))
      (v.AuthEnd username) := by
  rcases hlearned with ⟨fresh, known, rfl⟩
  apply viewTriple_bind act_drawFreshToken
  intro token w1 hw1
  cases hw1
  refine spec_bindOk
    (R := OnResult (fun _ w2 => v.Gained username token w2) (fun _ w2 => v.Learned w2)) ?_ ?_ ?_
  · refine viewTriple_bind (act_tryInsertToken List.mem_cons_self hknown hopenIn
      (fun u hu => hsettled.covered (Or.inl hu)) (fun u hu => hsettled.covered (Or.inr hu))) ?_
    intro inserted w2 hw2
    cases inserted with
    | true =>
        rcases hw2 with ⟨rfl, hne⟩
        exact viewTriple_pure ⟨⟨_, _, rfl⟩, hne⟩
    | false =>
        cases hw2
        exact viewTriple_pure ⟨_, _, rfl⟩
  · intro _ w2 hw2
    exact viewTriple_pure ⟨rfl, hw2⟩
  · intro err w2 hw2
    exact hw2

theorem spec_check {alpha : Type} {r : Except String Unit}
    {p : Program F (Except String alpha)} {Q : Except String alpha -> View F -> Prop}
    (hok : ViewTriple A c e v p Q) (herror : forall err, Q (.error err) v) :
    ViewTriple A c e v (bindOk (.pure r) fun _ => p) Q := by
  cases r with
  | ok => exact hok
  | error err => exact viewTriple_pure (herror err)

theorem spec_checkNames {r r' : Except String Unit}
    {f : Bool -> Program F (Except String (String × String))}
    (hf : forall known, ViewTriple A c e v (f known) (v.AuthEnd username)) :
    ViewTriple A c e v
      (bindOk (.pure r) fun _ => bindOk (.pure r') fun _ => bindOk (keyExists username) f)
      (v.AuthEnd username) := by
  have hrefused : forall err, v.AuthEnd username (.error err) v := fun _ => View.Learned.refl v
  refine spec_check (spec_check (spec_bindOk spec_keyExists ?_ ?_) hrefused) hrefused
  · intro known v1 hv1
    cases hv1
    exact hf known
  · intro err v1 hv1
    cases hv1
    exact hrefused err

theorem spec_thenOpenSession {p : Program F (Except String Unit)}
    (hp : ViewTriple A c e v p
      (fun r v' => v.Learned v' ∧ (r = .ok () -> username ∈ v'.known)))
    (hsettled : v.Settled) (hopenIn : v.openIn = none) :
    ViewTriple A c e v
      (bindOk p fun _ => createToken.bind fun token =>
        bindOk (tryInsertTokenProg username token) fun _ => .pure (.ok (username, token)))
      (v.AuthEnd username) := by
  refine spec_bindOk hp ?_ ?_
  · intro _ v' hv'
    exact spec_openSession hv'.1 (hv'.2 rfl) hsettled hopenIn
  · intro err v' hv'
    exact hv'.1

theorem spec_login {password : String} (hsettled : v.Settled) (hopenIn : v.openIn = none) :
    ViewTriple A c e v (login (.login username password)) (v.AuthEnd username) := by
  apply spec_checkNames
  intro known
  cases known with
  | false => exact viewTriple_pure (View.Learned.refl v)
  | true =>
      apply spec_thenOpenSession _ hsettled hopenIn
      apply spec_mapError (viewTriple_conseq spec_checkCredentials _)
      intro r v' hv'
      cases r with
      | ok => exact hv'
      | error err => exact ⟨hv'.1, fun h => by cases h⟩

theorem spec_register {password : String} (hsettled : v.Settled) (hopenIn : v.openIn = none) :
    ViewTriple A c e v (register (.register username password)) (v.AuthEnd username) := by
  apply spec_checkNames
  intro known
  cases known with
  | true => exact viewTriple_pure (View.Learned.refl v)
  | false => exact spec_thenOpenSession spec_saveRegister hsettled hopenIn

/-! # The account switch -/

/-- The view after a successful authentication, once the previous user is gone. -/
structure View.Switched (v : View F) (username token : String) (w : View F) : Prop where
  own : w.own = [(token, username)]
  statuses : w.statuses = []
  sinks : w.sinks = []
  gap : w.gap = []
  mine : w.mine = []
  opened : w.opened = []
  log : w.log = v.log

theorem spec_dropPrevious (hstart : Started A e item log v) (hquiet : ¬ e.quiet)
    (hswitches : e.switches)
    (hgained : v.Gained username token w) :
    ViewTriple A c e w (dropPrevious v.user) (fun _ w' => v.Switched username token w') := by
  rcases hgained with ⟨⟨fresh, known, rfl⟩, hne⟩
  have hsettled := hstart.ready.settled
  cases huser : v.user with
  | none =>
      apply viewTriple_pure
      rcases hsettled.shape with ⟨_, hown, hstatuses, hsinks⟩ | ⟨u, t, hsome, _⟩
      · exact ⟨by simp [hown], hstatuses, hsinks, hsettled.gap, hstart.mine, hstart.opened, rfl⟩
      · rw [huser] at hsome
        cases hsome
  | some u =>
      rcases hsettled.own_of_user huser with ⟨t, hown, hstatuses, hsinks⟩
      have hdiff : u ≠ username := hne t u (by simp [hown])
      have hheld : (t, u) ∈ (token, username) :: v.own := by simp [hown]
      refine viewTriple_bind (act_invalidateUserSessions hheld ⟨token, List.mem_cons_self⟩
        hdiff.symm (hstart.user.trans huser) hsettled.gap hswitches) ?_
      intro _ w1 hw1
      cases hw1
      apply viewTriple_bind (act_statusRemove hquiet)
      intro _ w2 hw2
      cases hw2
      apply viewTriple_conseq (act_sinksRemove hquiet)
      intro _ w3 hw3
      cases hw3
      exact ⟨by simp [View.drop, hown, hdiff.symm], by simp [View.drop, hstatuses],
        by simp [View.drop, hsinks], hsettled.gap, rfl, rfl, rfl⟩

theorem spec_installUser (hstart : Started A e item log v) (hquiet : ¬ e.quiet)
    (hswitches : e.switches)
    (hgained : v.Gained username token w) (hitem : item.admits (.authOk token))
    (hne : forall token tripId lat lon ts,
      item ≠ .message (.position token tripId lat lon ts)) :
    ViewTriple A c e w (installUser v.user username token) (HandlerEnd A c item log) := by
  apply viewTriple_bind (spec_dropPrevious hstart hquiet hswitches hgained)
  intro _ w1 hw1
  apply viewTriple_bind (act_setUserState hw1.mine hw1.opened fun h => by cases h)
  intro _ w2 hw2
  cases hw2
  have hmem : (token, username) ∈ w1.own := by simp [hw1.own]
  refine viewTriple_bind (act_statusSet hmem hquiet) ?_
  intro _ w3 hw3
  cases hw3
  refine viewTriple_bind (act_sinksInsert hmem hquiet) ?_
  intro _ w4 hw4
  cases hw4
  refine spec_send_reply ⟨hw1.gap, Or.inr ⟨username, token, rfl, hw1.own, ?_, ?_⟩⟩
    hstart.ready.transcript (hw1.log.trans hstart.ready.log_eq)
    (answers_of_admits hitem hne) ?_
  · simp [hw1.statuses]
  · simp [hw1.sinks]
  · intro t u hmem
    simp only [hw1.own, List.mem_singleton, Prod.mk.injEq] at hmem
    rw [lastIssued_authOk, hmem.1]

theorem spec_loginArm {password : String} (hstart : Started A e item log v)
    (hquiet : ¬ e.quiet) (hswitches : e.switches)
    (hitem : item = .message (.login username password)) :
    ViewTriple A c e v (loginArm username password) (HandlerEnd A c item log) := by
  apply viewTriple_bind act_getUserState
  intro currentUser v1 hv1
  rcases hv1 with ⟨rfl, rfl⟩
  by_cases hsame : v1.user = some username
  · simp only [hsame, if_true]
    exact spec_replyError hstart.ready
  · simp only [hsame, if_false]
    apply viewTriple_bind (spec_login hstart.ready.settled hstart.openIn)
    intro r w hw
    cases r with
    | ok names =>
        rcases hw with ⟨rfl, hgained⟩
        exact spec_installUser hstart hquiet hswitches hgained ⟨_, _, Or.inl hitem⟩
          (fun _ _ _ _ _ h => by rw [hitem] at h; cases h)
    | error err =>
        exact spec_replyError
          (hstart.ready.sameSession hw.sameSession (by
            rcases hw with ⟨_, _, rfl⟩
            exact hstart.ready.settled.gap))

theorem spec_registerArm {password : String} (hstart : Started A e item log v)
    (hquiet : ¬ e.quiet) (hswitches : e.switches)
    (hitem : item = .message (.register username password)) :
    ViewTriple A c e v (registerArm username password) (HandlerEnd A c item log) := by
  apply viewTriple_bind act_getUserState
  intro currentUser v1 hv1
  rcases hv1 with ⟨rfl, rfl⟩
  apply viewTriple_bind (spec_register hstart.ready.settled hstart.openIn)
  intro r w hw
  cases r with
  | ok names =>
      rcases hw with ⟨rfl, hgained⟩
      exact spec_installUser hstart hquiet hswitches hgained ⟨_, _, Or.inr hitem⟩
        (fun _ _ _ _ _ h => by rw [hitem] at h; cases h)
  | error err =>
      exact spec_replyError
        (hstart.ready.sameSession hw.sameSession (by
          rcases hw with ⟨_, _, rfl⟩
          exact hstart.ready.settled.gap))

end Wanderust
