import Wanderust.Properties.SingleSession
import Wanderust.Session.Issued
import Wanderust.Session.SwitchRuns

/-!
# Switching the account

A login or a registration on an idle connection either is refused and changes
nothing, or puts the new user in the place of the previous one, whatever fails
and whatever the other connections do.
-/

namespace Wanderust

open Interleaving Prog Monitor

variable {F : Type}

/-- The handler of the connection is in a phase that means what its steps have done. -/
def TaskSwitches (c : ConnId) (user : Option String) (username : String) (s0 : State F)
    (log : List (Event F)) (trace : List (OwnStep F)) (s : State F) : Task F -> Prop
  | .unopened => False
  | .idle => exists phase, SwitchEnd .next phase ∧ phase.Means c user username s0 log trace s
  | .handling _ _ p => exists phase, (switchMonitor user username).Follows p SwitchEnd phase ∧
      phase.Means c user username s0 log trace s
  | .cleaning _ _ | .closed => True

structure Switching (c : ConnId) (user : Option String) (username : String) (s0 : State F)
    (log : List (Event F)) (trace : List (OwnStep F)) (w : World F) : Prop where
  drawn : forall t, t ∈ s0.drawn -> t ∈ w.state.drawn
  task : TaskSwitches c user username s0 log trace w.state (w.tasks c)

def AsksForUser (username : String) (item : Incoming F) : Prop :=
  exists password, item = .message (.login username password) ∨
    item = .message (.register username password)

section

variable {c : ConnId} {user : Option String} {username : String} {s0 s s' : State F}
variable {log : List (Event F)} {trace : List (OwnStep F)} {w w' : World F} {l : Label F}

theorem taskSwitches_kept {t : Task F} (h : TaskSwitches c user username s0 log trace s t)
    (hkept : OwnKept c s s') : TaskSwitches c user username s0 log trace s' t := by
  cases t with
  | unopened => exact h
  | idle =>
      rcases h with ⟨phase, hend, hmeans⟩
      exact ⟨phase, hend, means_kept hmeans hkept⟩
  | handling start item p =>
      rcases h with ⟨phase, hfollows, hmeans⟩
      exact ⟨phase, hfollows, means_kept hmeans hkept⟩
  | cleaning start p => trivial
  | closed => trivial

theorem taskSwitches_afterHandling {start : State F} {item : Incoming F} {p : Program F Flow}
    {phase : SwitchPhase} (hfollows : (switchMonitor user username).Follows p SwitchEnd phase)
    (hmeans : phase.Means c user username s0 log trace s) :
    TaskSwitches c user username s0 log trace s (afterHandling s start item p) := by
  cases p with
  | op o next => exact ⟨phase, hfollows, hmeans⟩
  | pure flow =>
      cases flow with
      | next => exact ⟨phase, hfollows, hmeans⟩
      | leave => trivial
      | abort => trivial

variable [Geo F] [Bcrypt]

/-! # Steps -/

theorem rely_ofOther {A : Regime} (h : WorldInv A w) (hpermits : A.Permits w l)
    (hl : l.ofOther c = true) (hnext : w.next l = some w') : Rely A c w.state w'.state := by
  cases l with
  | accept c' =>
      rcases accept_of_next hnext with ⟨_, rfl⟩
      exact Rely.refl A c w.state
  | receive c' item =>
      rcases receive_of_next hnext with ⟨_, rfl⟩
      exact (keeps_log (e := .onlooker) h.inv (.received item)).others c
        (ofOther_receive.mp hl)
  | step c' ch =>
      rcases (step_cases h hpermits hnext).2 with ⟨e, hkeeps, _⟩
      exact hkeeps.others c (ofOther_step.mp hl)
  | restart => cases hl

theorem switching_other (h : Switching c user username s0 log trace w)
    (hrely : Rely Regime.any c w.state w'.state) (hl : l.ofOther c = true)
    (hnext : w.next l = some w') : Switching c user username s0 log trace w' := by
  rcases next_ofOther hl hnext with ⟨htask, hstands⟩
  constructor
  · intro t ht
    exact hstands.drawn t (h.drawn t ht)
  · rw [htask]
    exact taskSwitches_kept h.task hrely.ownKept

theorem switching_own {ch : Choice} {o : Op F} (h : Switching c user username s0 log trace w)
    (ho : (w.tasks c).nextOp = some o) (htokens : DistinctTokens w (.step c ch))
    (hnext : w.next (.step c ch) = some w') :
    Switching c user username s0 log
      (trace ++ [{ op := o, choice := ch, before := w.state, after := w'.state }]) w' := by
  have hfresh : FreshDraw w.state ch o := htokens c ch rfl o ho
  constructor
  · intro t ht
    rcases executes_of_next hnext with ⟨_, _, hexec⟩
    exact executes_drawn hexec (h.drawn t ht)
  · have htask := h.task
    rcases step_of_next hnext with ⟨start, item, p, p', s, hc, hstep, rfl⟩ |
      ⟨start, p, p', s, _, _, rfl⟩
    · rw [hc] at htask ho
      rw [setTask_tasks_self]
      rcases htask with ⟨phase, hfollows, hmeans⟩
      rcases Prog.step_eq_some.mp hstep with ⟨o', next, rfl, ⟨hexec, rfl⟩ | ⟨r, hexec, rfl⟩⟩
      · cases ho
        have hdraw : o = .drawFreshToken := by
          by_contra hne
          exact exec_not_again hne hexec
        subst hdraw
        rcases hfollows.1 with ⟨drawn, rfl⟩
        exact ⟨_, hfollows, means_drawAgain hmeans hexec⟩
      · cases ho
        rcases means_step hfresh h.drawn hfollows.1 hmeans hexec with ⟨hanswers, hmeans'⟩
        exact taskSwitches_afterHandling (hfollows.2 r _ ⟨hanswers, rfl⟩) hmeans'
    · rw [setTask_tasks_self]
      cases p' with
      | pure _ => trivial
      | op _ _ => trivial

/-! # Runs -/

theorem follows_asksForUser {item : Incoming F} (hitem : AsksForUser username item) :
    (switchMonitor user username).Follows (serve item) SwitchEnd (.asking []) := by
  rcases hitem with ⟨password, rfl | rfl⟩
  · exact switch_loginArm password
  · exact switch_registerArm password

theorem switching_receive {item : Incoming F} (hitem : AsksForUser username item)
    (hreceive : w.next (.receive c item) = some w') :
    Switching c (w.state.userState c) username w.state (w.state.traffic c ++ [.received item]) []
      w' := by
  rcases receive_of_next hreceive with ⟨_, rfl⟩
  refine ⟨fun _ ht => ht, ?_⟩
  rw [setTask_tasks_self]
  refine taskSwitches_afterHandling (follows_asksForUser hitem) ⟨?_, ?_, rfl, ?_⟩
  · intro x hx
    cases hx
  · exact State.log_traffic _ _ _
  · intro token htoken
    cases htoken

/-- The induction follows the run; both invariants are kept by every step. -/
theorem serves_switching (hworld : WorldInv Regime.any w)
    (h : Switching c user username s0 log [] w)
    (hserves : ServesItem DistinctTokens c w trace w') :
    WorldInv Regime.any w' ∧ Switching c user username s0 log trace w' := by
  induction hserves with
  | start => exact ⟨hworld, h⟩
  | other l _ hl htokens hnext ih =>
      have hrely := rely_ofOther ih.1 (permits_any htokens) hl hnext
      exact ⟨worldInv_next ih.1 (permits_any htokens) hnext,
        switching_other ih.2 hrely hl hnext⟩
  | own ch o _ ho htokens hnext ih =>
      exact ⟨worldInv_next ih.1 (permits_any htokens) hnext,
        switching_own ih.2 ho htokens hnext⟩

/-- The new user has taken the place of the previous one. -/
structure SwitchedTo (c : ConnId) (username token : String) (s0 : State F)
    (trace : List (OwnStep F)) (s : State F) : Prop where
  user : s.userState c = some username
  session : s.sessions.lookup token = some username
  previous : forall old, .sent (.authOk old) ∈ s0.traffic c -> s.sessions.lookup old = none
  removes : forall x, x ∈ trace -> RemovesOnly (s0.userState c) x

/-- A token sent earlier would belong to the connection, which has the new session only. -/
theorem previous_gone {token : String} (hworld : WorldInv Regime.any w')
    (hidle : w'.tasks c = .idle) (huser : w'.state.userState c = some username)
    (hissued : lastIssued (w'.state.traffic c) = some token) (hnew : NewToken c s0 token w'.state)
    (hsent : SentDrawn c s0) (hdrawn : forall t, t ∈ s0.drawn -> t ∈ w'.state.drawn) {old : String}
    (hold : .sent (.authOk old) ∈ s0.traffic c) : w'.state.sessions.lookup old = none := by
  cases hlookup : w'.state.sessions.lookup old with
  | none => rfl
  | some name =>
      rcases idle_settled hworld hidle with ⟨v, hv, hlocal⟩
      rw [hlocal.user] at huser
      rcases hv.settled.own_of_user huser with ⟨token', hown, _, _⟩
      have hmem : (old, name) ∈ v.own :=
        (hlocal.own old name).mp ⟨hlookup, hdrawn _ (hsent old hold)⟩
      have htoken : lastIssued v.log = some old := hv.issued old name hmem
      rw [← hlocal.log, hissued] at htoken
      cases htoken
      exact absurd (hsent _ hold) (hnew.fresh c)

theorem account_switch (users : Users) (trips : Trips) (positions : Positions F)
    {w0 w w' : World F} {c : ConnId} {username : String} {item : Incoming F}
    {trace : List (OwnStep F)}
    (hreach : Reachable DistinctTokens (World.boot users trips positions) w0)
    (hitem : AsksForUser username item) (hreceive : w0.next (.receive c item) = some w)
    (hserves : ServesItem DistinctTokens c w trace w') (hidle : w'.tasks c = .idle) :
    exists msg, w'.state.traffic c = w0.state.traffic c ++ [.received item, .sent msg] ∧
      ((IsRefusal msg ∧ forall x, x ∈ trace -> KeepsStores c x) ∨
        exists token, msg = .authOk token ∧
          SwitchedTo c username token w0.state trace w'.state) := by
  have hworld0 : WorldInv Regime.any w0 :=
    worldInv_reachable (worldInv_boot False.elim (fun _ => False.elim))
      (hreach.mono fun _ _ => permits_any)
  have hpermits : Regime.any.Permits w0 (.receive c item) := trivial
  have hworld : WorldInv Regime.any w := worldInv_next hworld0 hpermits hreceive
  rcases serves_switching hworld (switching_receive hitem hreceive) hserves with
    ⟨hworld', hswitching⟩
  have htask := hswitching.task
  rw [hidle] at htask
  rcases htask with ⟨phase, hend, hmeans⟩
  rcases hend rfl with rfl | ⟨token, rfl⟩
  · rcases hmeans with ⟨hkeeps, msg, hmsg, hlog⟩
    rw [List.append_assoc] at hlog
    exact ⟨msg, hlog, Or.inl ⟨hmsg, hkeeps⟩⟩
  · rcases hmeans with ⟨hremoves, hlog, hnew, huser⟩
    rw [List.append_assoc] at hlog
    have hissued : lastIssued (w'.state.traffic c) = some token := by
      rw [hlog]
      exact lastIssued_authOk _ item token
    refine ⟨.authOk token, hlog, Or.inr ⟨token, rfl, huser, ?_, ?_, hremoves⟩⟩
    · rcases idle_session hworld' hidle huser with ⟨token', hissued', hheld⟩
      rw [hissued] at hissued'
      cases hissued'
      exact hheld.1
    · intro old hold
      exact previous_gone hworld' hidle huser hissued hnew (issues_reachable hreach c).1
        hswitching.drawn hold

end

/-! # A user who registers another account -/

section

attribute [local instance] plainBcrypt

noncomputable def switchingWorld : World ℝ :=
  registeredWorld.after freshCheck [.receive 0 (.message (.register "v" "pass"))]

def switchSteps : List (Label ℝ) :=
  stepsOf 0 5 ++ [.step 0 (Choice.drawing "t2")] ++ stepsOf 0 8

theorem account_switch_registers : exists trace w',
    ServesItem DistinctTokens 0 switchingWorld trace w' ∧
      exists msg, w'.state.traffic 0 = registeredWorld.state.traffic 0 ++
        [.received (.message (.register "v" "pass")), .sent msg] ∧
        ((IsRefusal msg ∧ forall x, x ∈ trace -> KeepsStores 0 x) ∨
          exists token, msg = .authOk token ∧
            SwitchedTo 0 "v" token registeredWorld.state trace w'.state) := by
  have hrun : Interleaving.run World.next freshCheck switchingWorld switchSteps =
      some (switchingWorld.after freshCheck switchSteps) := rfl
  have hlabels : forall l, l ∈ switchSteps -> l.ofOther 0 = true ∨ exists ch, l = .step 0 ch := by
    intro l hl
    right
    simp only [switchSteps, stepsOf, List.mem_append, List.mem_singleton, List.mem_replicate] at hl
    rcases hl with (⟨_, rfl⟩ | rfl) | ⟨_, rfl⟩
    all_goals exact ⟨_, rfl⟩
  rcases servesItem_of_run (fun _ _ => distinctTokens_of_check) hlabels ServesItem.start hrun with
    ⟨trace, hserves⟩
  exact ⟨trace, _, hserves, account_switch ∅ ∅ ∅
    (reach_after (fun _ _ => distinctTokens_of_check) _ _) ⟨"pass", Or.inr rfl⟩ rfl hserves rfl⟩

end

end Wanderust
