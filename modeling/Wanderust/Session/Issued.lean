import Wanderust.Session.Bystanders
import Wanderust.Session.Serving

/-!
# Issued tokens

A connection sends a token to its client only after it has drawn it.  A monitor
keeps the tokens that a handler has drawn.
-/

namespace Wanderust

open Interleaving Prog Monitor

variable {F : Type}

/-! # The monitor -/

def Op.draws : (o : Op F) -> o.Ret -> List String
  | .drawFreshToken, token => [token]
  | _, _ => []

/-- The monitor whose phase is the list of tokens drawn so far. -/
def issueMonitor : Monitor (@Op.Ret F) (List String) where
  permits o drawn := forall token, o = .send (.authOk token) -> token ∈ drawn
  moves o r drawn drawn' := drawn' = o.draws r ++ drawn

theorem issue_ignoresInternal : IgnoresInternal (issueMonitor (F := F)) := by
  intro o ho
  constructor
  · intro drawn token h
    subst h
    cases ho
  · intro r drawn drawn' hmoves
    cases o with
    | drawFreshToken => cases ho
    | _ => exact hmoves

variable {item : Incoming F} {drawn : List String}

/-- Only the tokens matter, not how a program ends. -/
def Anyhow {alpha : Type} (_ : alpha) (_ : List String) : Prop := True

theorem issue_reply {msg : Message F} (h : forall token, msg = .authOk token -> token ∈ drawn) :
    issueMonitor.Follows (reply msg) Anyhow drawn := by
  constructor
  · intro token htoken
    cases htoken
    exact h token rfl
  · intro r drawn' _
    cases r with
    | true => exact trivial
    | false => exact trivial

theorem issue_farewell : issueMonitor.Follows (farewell : Program F Flow) Anyhow drawn := by
  refine ⟨fun _ h => (by cases h), ?_⟩
  intro r drawn' _
  cases r with
  | true => exact ⟨fun _ h => (by cases h), fun _ _ _ => trivial⟩
  | false => exact trivial

def OpenedDrawn (r : Except String (String × String)) (drawn : List String) : Prop :=
  forall names, r = .ok names -> names.2 ∈ drawn

theorem issue_openSession (username : String) :
    issueMonitor.Follows (openSession username : Program F (Except String (String × String)))
      OpenedDrawn drawn := by
  refine ⟨fun _ h => (by cases h), ?_⟩
  intro token drawn' hmoves
  have htoken : token ∈ drawn' := by
    rw [hmoves]
    exact List.mem_cons_self
  apply follows_silent_bindOk (silent_tryInsertToken issue_ignoresInternal username token)
  · intro _ names hnames
    cases hnames
    exact htoken
  · intro e names hnames
    cases hnames

theorem issue_installUser {currentUser : Option String} {username token : String}
    (h : token ∈ drawn) :
    issueMonitor.Follows (installUser currentUser username token : Program F Flow) Anyhow
      drawn := by
  apply follows_silent_bind (silent_dropPrevious issue_ignoresInternal currentUser)
  intro _
  apply follows_silent_bind (silent_act issue_ignoresInternal rfl)
  intro _
  apply follows_silent_bind (silent_act issue_ignoresInternal rfl)
  intro _
  apply follows_silent_bind (silent_act issue_ignoresInternal rfl)
  intro _
  apply issue_reply
  intro token' htoken
  cases htoken
  exact h

/-- How both arms go on after `auth::login` or `auth::register`. -/
theorem issue_opened {currentUser : Option String} {code : String}
    {p : Program F (Except String (String × String))}
    (hp : issueMonitor.Follows p OpenedDrawn drawn) :
    issueMonitor.Follows
      (p.bind fun r =>
        match r with
        | .ok (username, token) => installUser currentUser username token
        | .error e => replyError code e : Program F Flow) Anyhow drawn := by
  apply follows_bind
  apply follows_mono hp
  intro r drawn' hr
  cases r with
  | ok names => exact issue_installUser (hr names rfl)
  | error e => exact issue_reply fun _ h => (by cases h)

theorem issue_acceptsTurn [Bcrypt] (item : Incoming F) :
    AcceptsTurn issueMonitor item Anyhow drawn where
  replies := fun _ msg _ hmsg => issue_reply fun token htoken => absurd htoken (hmsg token)
  login := by
    intro username password hitem
    subst hitem
    apply follows_silent_bind (silent_act issue_ignoresInternal rfl)
    intro currentUser
    split
    · exact issue_reply fun _ h => (by cases h)
    · exact issue_opened (follows_login issue_ignoresInternal.accounts password
        (issue_openSession username) fun _ _ h => (by cases h))
  register := by
    intro username password hitem
    subst hitem
    apply follows_silent_bind (silent_act issue_ignoresInternal rfl)
    intro currentUser
    exact issue_opened (follows_register issue_ignoresInternal.accounts password
      (issue_openSession username) fun _ _ h => (by cases h))
  farewell := fun _ _ => issue_farewell
  skips := fun _ => trivial
  hangsUp := fun _ => trivial

/-! # Runs -/

def SentDrawn (c : ConnId) (s : State F) : Prop :=
  forall token, .sent (.authOk token) ∈ s.traffic c -> (token, c) ∈ s.drawn

def WillIssue {alpha : Type} (c : ConnId) (s : State F) (p : Program F alpha) : Prop :=
  exists drawn, issueMonitor.Follows p Anyhow drawn ∧
    forall token, token ∈ drawn -> (token, c) ∈ s.drawn

def TaskIssues (c : ConnId) (s : State F) : Task F -> Prop
  | .handling _ _ p => WillIssue c s p
  | .cleaning _ p => WillIssue c s p
  | _ => True

variable {c : ConnId} {s s' : State F}

theorem WillIssue.mono {alpha : Type} {p : Program F alpha} (h : WillIssue c s p)
    (hdrawn : forall t, t ∈ s.drawn -> t ∈ s'.drawn) : WillIssue c s' p := by
  rcases h with ⟨drawn, hfollows, hmem⟩
  exact ⟨drawn, hfollows, fun token htoken => hdrawn _ (hmem token htoken)⟩

theorem TaskIssues.mono {t : Task F} (h : TaskIssues c s t)
    (hdrawn : forall t, t ∈ s.drawn -> t ∈ s'.drawn) : TaskIssues c s' t := by
  cases t with
  | handling start item p => exact WillIssue.mono h hdrawn
  | cleaning start p => exact WillIssue.mono h hdrawn
  | _ => trivial

theorem issue_cleanup : issueMonitor.Follows (cleanup : Program F Unit) Anyhow drawn :=
  follows_mono (silent_cleanup issue_ignoresInternal drawn) fun _ _ _ => trivial

theorem willIssue_cleanup (c : ConnId) (s : State F) : WillIssue c s (cleanup : Program F Unit) :=
  ⟨[], issue_cleanup, fun _ h => (by cases h)⟩

theorem taskIssues_afterHandling {start : State F} {item : Incoming F} {p : Program F Flow}
    (h : WillIssue c s p) : TaskIssues c s (afterHandling s start item p) := by
  cases p with
  | op o next => exact h
  | pure flow =>
      cases flow with
      | leave => exact willIssue_cleanup c s
      | _ => trivial

def Issues (c : ConnId) (w : World F) : Prop :=
  SentDrawn c w.state ∧ TaskIssues c w.state (w.tasks c)

section

variable [Geo F] [Bcrypt] {ch : Choice}

theorem willIssue_serve (c : ConnId) (s : State F) (item : Incoming F) :
    WillIssue c s (serve item) :=
  ⟨[], follows_serve issue_ignoresInternal (issue_acceptsTurn item), fun _ h => (by cases h)⟩

theorem exec_sent {o : Op F} {r : o.Ret} {msg : Message F} (h : exec c ch o s = .done r s')
    (hmem : .sent msg ∈ s'.traffic c) : .sent msg ∈ s.traffic c ∨ o = .send msg := by
  cases o with
  | send msg' =>
      simp only [exec] at h
      split at h
      · cases h
        rw [State.log_traffic, List.mem_append, List.mem_singleton] at hmem
        rcases hmem with hmem | hmem
        · exact Or.inl hmem
        · cases hmem
      · cases h
        rw [State.log_traffic, List.mem_append, List.mem_singleton] at hmem
        rcases hmem with hmem | hmem
        · exact Or.inl hmem
        · cases hmem
          exact Or.inr rfl
  | sendClose =>
      simp only [exec] at h
      split at h
      · cases h
        exact Or.inl hmem
      · cases h
        simpa [State.log_traffic] using hmem
  | _ =>
      left
      have hsame : s'.traffic = s.traffic := by
        simp only [exec, answerQuery] at h
        grind
      rw [← hsame]
      exact hmem

theorem exec_draws {o : Op F} {r : o.Ret} {token : String} (h : exec c ch o s = .done r s')
    (htoken : token ∈ o.draws r) : (token, c) ∈ s'.drawn := by
  cases o with
  | drawFreshToken =>
      rcases exec_drawFreshToken h with ⟨_, rfl, rfl⟩
      rw [List.mem_singleton.mp htoken]
      exact List.mem_cons_self
  | _ => cases htoken

theorem WillIssue.step {alpha : Type} {p p' : Program F alpha} (h : WillIssue c s p)
    (hsent : SentDrawn c s) (hstep : p.step exec c ch s = some (p', s')) :
    WillIssue c s' p' ∧ SentDrawn c s' := by
  rcases h with ⟨drawn, hfollows, hmem⟩
  rcases Prog.step_eq_some.mp hstep with ⟨o, next, rfl, ⟨hexec, rfl⟩ | ⟨r, hexec, rfl⟩⟩
  · have hkept := fun t => executes_drawn (t := t) (Or.inr hexec)
    refine ⟨⟨drawn, hfollows, fun token htoken => hkept _ (hmem token htoken)⟩, ?_⟩
    intro token htoken
    rw [exec_traffic_again hexec] at htoken
    exact hkept _ (hsent token htoken)
  · have hkept := fun t => executes_drawn (t := t) (Or.inl ⟨r, hexec⟩)
    refine ⟨⟨o.draws r ++ drawn, hfollows.2 r _ rfl, ?_⟩, ?_⟩
    · intro token htoken
      rcases List.mem_append.mp htoken with htoken | htoken
      · exact exec_draws hexec htoken
      · exact hkept _ (hmem token htoken)
    · intro token htoken
      rcases exec_sent hexec htoken with htoken | hsend
      · exact hkept _ (hsent token htoken)
      · exact hkept _ (hmem token (hfollows.1 token hsend))

theorem issues_step {w w' : World F} (h : Issues c w) (hnext : w.next (.step c ch) = some w') :
    Issues c w' := by
  rcases h with ⟨hsent, htask⟩
  rcases step_of_next hnext with ⟨start, item, p, p', s, hc, hstep, rfl⟩ |
    ⟨start, p, p', s, hc, hstep, rfl⟩
  · rw [hc] at htask
    rcases WillIssue.step htask hsent hstep with ⟨hwill, hsent'⟩
    refine ⟨hsent', ?_⟩
    rw [setTask_tasks_self]
    exact taskIssues_afterHandling hwill
  · rw [hc] at htask
    rcases WillIssue.step htask hsent hstep with ⟨hwill, hsent'⟩
    refine ⟨hsent', ?_⟩
    rw [setTask_tasks_self]
    cases p' with
    | pure _ => trivial
    | op o next => exact hwill

theorem issues_next {w w' : World F} {l : Label F} (h : Issues c w) (hnext : w.next l = some w') :
    Issues c w' := by
  rcases h with ⟨hsent, htask⟩
  by_cases hother : l.ofOther c = true
  · rcases next_ofOther hother hnext with ⟨hsame, hstands⟩
    constructor
    · intro token htoken
      rw [hstands.traffic] at htoken
      exact hstands.drawn _ (hsent token htoken)
    · rw [hsame]
      exact htask.mono hstands.drawn
  · cases l with
    | accept c' =>
        have hc : c = c' := by simpa using hother
        subst hc
        rcases accept_of_next hnext with ⟨_, rfl⟩
        refine ⟨hsent, ?_⟩
        rw [setTask_tasks_self]
        trivial
    | receive c' item =>
        have hc : c = c' := by simpa using hother
        subst hc
        rcases receive_of_next hnext with ⟨_, rfl⟩
        constructor
        · intro token htoken
          rw [setTask_state] at htoken ⊢
          rw [State.log_traffic, List.mem_append, List.mem_singleton] at htoken
          rcases htoken with htoken | htoken
          · exact hsent token htoken
          · cases htoken
        · rw [setTask_tasks_self]
          exact taskIssues_afterHandling (willIssue_serve _ _ item)
    | step c' ch =>
        have hc : c = c' := by simpa using hother
        subst hc
        exact issues_step ⟨hsent, htask⟩ hnext
    | restart =>
        cases hnext
        refine ⟨hsent, ?_⟩
        cases hc : w.tasks c with
        | unopened => simp only [hc]; trivial
        | _ => simp only [hc]; trivial

theorem issues_reachable {users : Users} {trips : Trips} {positions : Positions F}
    {cond : World F -> Label F -> Prop} {w : World F}
    (h : Reachable cond (World.boot users trips positions) w) (c : ConnId) : Issues c w := by
  refine h.invariant (P := Issues c) ⟨?_, trivial⟩ ?_
  · intro token htoken
    cases htoken
  · intro w1 w2 l hissues _ hnext
    exact issues_next hissues hnext

end

end Wanderust
