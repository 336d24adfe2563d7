import Mathlib.Data.List.Forall2
import Wanderust.Session.Bystanders
import Wanderust.Session.Conditions
import Wanderust.Session.Replies

/-!
# One reply for each request

The traffic of a connection is a sequence of exchanges.  Each request gets one
reply before the next frame is read, whatever the stores answer and whatever the
other connections do.
-/

namespace Wanderust

open Interleaving Prog Monitor

variable {F : Type}

/-! # Conversations -/

/-- Complete exchanges, after each of which the next frame is read. -/
inductive Conversation : List (Event F) -> Prop where
  | nil : Conversation []
  | exchange {log out : List (Event F)} {item : Incoming F} :
      Conversation log -> Replied item .next out -> Conversation (log ++ .received item :: out)

/-- Complete exchanges, and one of which `out` is the beginning of the answer. -/
def Pending (item : Incoming F) (log : List (Event F)) : Prop :=
  exists before out flow rest, Conversation before ∧ Replied item flow (out ++ rest) ∧
    log = before ++ .received item :: out

/-- Complete exchanges, the last of which ends the read loop. -/
def Finished (log : List (Event F)) : Prop :=
  exists before item out, Conversation before ∧ Replied item .leave out ∧
    log = before ++ .received item :: out

/-- The traffic of a connection, by what its task is doing. -/
def Talk : Task F -> List (Event F) -> Prop
  | .unopened, log => log = []
  | .idle, log => Conversation log
  | .handling _ item _, log => Pending item log
  | .cleaning _ _, log => Finished log
  | .closed, log => Conversation log ∨ Finished log ∨ exists item, Pending item log

/-! # Replies by position -/

def Incoming.needsReply : Incoming F -> Bool
  | .message _ | .notUtf8 | .malformed => true
  | _ => false

def requests (log : List (Event F)) : List (Incoming F) :=
  log.filterMap fun e =>
    match e with
    | .received item => if item.needsReply then some item else none
    | _ => none

def replies (log : List (Event F)) : List (Message F) :=
  log.filterMap fun e =>
    match e with
    | .sent msg => some msg
    | _ => none

/-- The n-th reply answers the n-th request; at most the last request has no reply yet. -/
def InOrder (log : List (Event F)) : Prop :=
  exists answered pending, requests log = answered ++ pending ∧
    List.Forall₂ Incoming.admits answered (replies log) ∧ pending.length ≤ 1

theorem Replied.balanced {item : Incoming F} {flow : Flow} {out : List (Event F)}
    (h : Replied item flow out) :
    List.Forall₂ Incoming.admits (requests (.received item :: out))
      (replies (.received item :: out)) := by
  cases h with
  | silent hsilent =>
      rcases hsilent with rfl | rfl
      · exact List.Forall₂.nil
      · exact List.Forall₂.nil
  | answered hasks hadmits =>
      cases item with
      | message msg => exact List.Forall₂.cons hadmits List.Forall₂.nil
      | notUtf8 => exact List.Forall₂.cons hadmits List.Forall₂.nil
      | malformed => exact List.Forall₂.cons hadmits List.Forall₂.nil
      | _ => exact absurd hasks not_false
  | @farewell token =>
      have hadmits : (Incoming.message (.disconnect token) : Incoming F).admits .ack :=
        Or.inr (Or.inr (Or.inr ⟨token, rfl⟩))
      exact List.Forall₂.cons hadmits List.Forall₂.nil
  | hungUp hhangsUp =>
      rcases hhangsUp with rfl | rfl | rfl
      · exact List.Forall₂.nil
      · exact List.Forall₂.nil
      · exact List.Forall₂.nil

theorem Conversation.balanced {log : List (Event F)} (h : Conversation log) :
    List.Forall₂ Incoming.admits (requests log) (replies log) := by
  induction h with
  | nil => exact List.Forall₂.nil
  | exchange _ hreplied ih =>
      unfold requests replies at ih ⊢
      rw [List.filterMap_append, List.filterMap_append]
      exact List.rel_append ih hreplied.balanced

theorem Conversation.inOrder {log : List (Event F)} (h : Conversation log) : InOrder log :=
  ⟨requests log, [], (List.append_nil _).symm, h.balanced, Nat.zero_le 1⟩

theorem Replied.begun {item : Incoming F} {flow : Flow} {out rest : List (Event F)}
    (h : Replied item flow (out ++ rest)) :
    out = [] ∨ List.Forall₂ Incoming.admits (requests (.received item :: out))
      (replies (.received item :: out)) := by
  cases out with
  | nil => exact Or.inl rfl
  | cons e out =>
      right
      have hbalanced := h.balanced
      generalize hall : e :: out ++ rest = all at h
      cases h with
      | silent hsilent => cases hall
      | answered hasks hadmits =>
          cases out with
          | nil =>
              cases hall
              exact hbalanced
          | cons e' out => cases hall
      | farewell =>
          cases out with
          | nil =>
              cases hall
              exact hbalanced
          | cons e' out =>
              cases out with
              | nil =>
                  cases hall
                  exact hbalanced
              | cons e'' out => cases hall
      | hungUp hhangsUp => cases hall

theorem requests_append (log log' : List (Event F)) :
    requests (log ++ log') = requests log ++ requests log' :=
  List.filterMap_append

theorem replies_append (log log' : List (Event F)) :
    replies (log ++ log') = replies log ++ replies log' :=
  List.filterMap_append

theorem Pending.inOrder {log : List (Event F)} {item : Incoming F} (h : Pending item log) :
    InOrder log := by
  rcases h with ⟨before, out, flow, rest, hbefore, hreplied, rfl⟩
  rcases hreplied.begun with rfl | hbalanced
  · refine ⟨requests before, requests [.received item], requests_append _ _, ?_, ?_⟩
    · have hnone : replies [.received item] = [] := rfl
      rw [replies_append, hnone, List.append_nil]
      exact hbefore.balanced
    · exact List.length_filterMap_le _ _
  · refine ⟨_, [], (List.append_nil _).symm, ?_, Nat.zero_le 1⟩
    rw [requests_append, replies_append]
    exact List.rel_append hbefore.balanced hbalanced

theorem Finished.pending {log : List (Event F)} (h : Finished log) :
    exists item, Pending item log := by
  rcases h with ⟨before, item, out, hbefore, hreplied, hlog⟩
  refine ⟨item, before, out, .leave, [], hbefore, ?_, hlog⟩
  rw [List.append_nil]
  exact hreplied

theorem Talk.inOrder {t : Task F} {log : List (Event F)} (h : Talk t log) : InOrder log := by
  cases t with
  | unopened =>
      rw [show log = [] from h]
      exact Conversation.nil.inOrder
  | idle => exact Conversation.inOrder h
  | handling start item p => exact Pending.inOrder h
  | cleaning start p =>
      rcases Finished.pending h with ⟨item, hpending⟩
      exact hpending.inOrder
  | closed =>
      rcases h with hlog | hlog | ⟨item, hlog⟩
      · exact hlog.inOrder
      · rcases hlog.pending with ⟨item, hpending⟩
        exact hpending.inOrder
      · exact hlog.inOrder

/-! # Frames -/

def WsMessage.nonEmpty : WsMessage -> Bool
  | .text t => !t.isEmpty
  | .binary b => !b.isEmpty
  | _ => false

theorem needsReply_receiveLine (decode : String -> Option (Message F)) (line : String) :
    (receiveLine decode line).needsReply = !line.isEmpty := by
  unfold receiveLine
  cases line.isEmpty with
  | true => rfl
  | false =>
      simp only [Bool.false_eq_true, if_false]
      cases decode line with
      | some msg => rfl
      | none => rfl

theorem needsReply_receiveFrame (decode : String -> Option (Message F)) (m : WsMessage) :
    (receiveFrame decode m).needsReply = m.nonEmpty := by
  cases m with
  | text t => exact needsReply_receiveLine decode t
  | binary b =>
      unfold receiveFrame String.fromUTF8?
      by_cases hvalid : b.IsValidUTF8
      · simp only [hvalid, dif_pos]
        exact needsReply_receiveLine decode _
      · have hne : b.isEmpty = false := by
          cases hempty : b.isEmpty with
          | false => rfl
          | true =>
              have hb : b = ByteArray.empty := by
                rw [← ByteArray.size_eq_zero_iff]
                exact eq_of_beq hempty
              rw [hb] at hvalid
              exact absurd ByteArray.isValidUTF8_empty hvalid
        simp only [hvalid, dif_neg, not_false_eq_true]
        simp only [WsMessage.nonEmpty, hne]
        rfl
  | ping => rfl
  | pong => rfl
  | close => rfl

/-! # What an operation adds -/

def Op.isSend : Op F -> Bool
  | .send _ | .sendClose => true
  | _ => false

section

variable [Geo F] [Bcrypt] {c c' : ConnId} {ch : Choice} {o : Op F} {s s' : State F}

theorem exec_traffic {r : o.Ret} (h : exec c ch o s = .done r s')
    (hsend : o.isSend = true -> ch.fails = false) :
    o.Succeeds r ∧ s'.traffic c = s.traffic c ++ o.puts := by
  have hsame : s'.traffic c = s.traffic c -> s'.traffic c = s.traffic c ++ [] := by
    intro heq
    rw [heq, List.append_nil]
  cases o with
  | send msg =>
      simp only [exec, hsend rfl] at h
      cases h
      exact ⟨rfl, State.log_traffic s c _⟩
  | sendClose =>
      simp only [exec, hsend rfl] at h
      cases h
      exact ⟨trivial, State.log_traffic s c _⟩
  | _ =>
      refine ⟨trivial, hsame ?_⟩
      simp only [exec, answerQuery] at h
      repeat' split at h
      all_goals
        cases h
        try rfl

/-! # Runs -/

def SendsSucceed (c : ConnId) : World F -> Label F -> Prop :=
  OnStep fun c' ch o _ => c' = c -> o.isSend = true -> ch.fails = false

/-- The monitored side of `Talk`: what the task has still to run follows the monitor. -/
def Monitored : Task F -> List (Event F) -> Prop
  | .unopened, log => log = []
  | .idle, log => Conversation log
  | .handling _ item p, log => exists before out, Conversation before ∧
      traffic.Follows p (Replied item) out ∧ log = before ++ .received item :: out
  | .cleaning _ p, log =>
      Finished log ∧ exists out, traffic.Follows p (fun _ out' => out' = out) out
  | .closed, log => Conversation log ∨ Finished log ∨ exists item, Pending item log

omit [Geo F] [Bcrypt] in
theorem pending_of_follows {item : Incoming F} {p : Program F Flow} {log out : List (Event F)}
    (hlog : Conversation log) (h : traffic.Follows p (Replied item) out) :
    Pending item (log ++ .received item :: out) := by
  rcases follows_recorder_prefix h exists_succeeds with ⟨flow, rest, hreplied⟩
  exact ⟨log, out, flow, rest, hlog, hreplied, rfl⟩

omit [Geo F] [Bcrypt] in
theorem Monitored.talk {t : Task F} {log : List (Event F)} (h : Monitored t log) :
    Talk t log := by
  cases t with
  | unopened => exact h
  | idle => exact h
  | handling start item p =>
      rcases h with ⟨before, out, hbefore, hfollows, rfl⟩
      exact pending_of_follows hbefore hfollows
  | cleaning start p => exact h.1
  | closed => exact h

omit [Geo F] [Bcrypt] in
theorem Monitored.killed {t : Task F} {log : List (Event F)} (h : Monitored t log) :
    Monitored t.killed log := by
  have htalk := h.talk
  cases t with
  | unopened => exact htalk
  | idle => exact Or.inl htalk
  | handling start item p => exact Or.inr (Or.inr ⟨item, htalk⟩)
  | cleaning start p => exact Or.inr (Or.inl htalk)
  | closed => exact htalk

omit [Geo F] [Bcrypt] in
theorem Monitored.afterHandling {start : State F} {item : Incoming F} {p : Program F Flow}
    {before out : List (Event F)} (hbefore : Conversation before)
    (h : traffic.Follows p (Replied item) out) (s : State F) :
    Monitored (afterHandling s start item p) (before ++ .received item :: out) := by
  cases p with
  | op o next => exact ⟨before, out, hbefore, h, rfl⟩
  | pure flow =>
      cases flow with
      | next => exact Conversation.exchange hbefore h
      | leave => exact ⟨⟨before, item, out, hbefore, h, rfl⟩, [], replied_cleanup []⟩
      | abort => cases (h : Replied item .abort out)

theorem follows_step {alpha : Type} {p p' : Program F alpha}
    {post : alpha -> List (Event F) -> Prop} {out : List (Event F)}
    (h : traffic.Follows p post out) (hstep : p.step exec c ch s = some (p', s'))
    (hsend : forall o next, p = .op o next -> o.isSend = true -> ch.fails = false) :
    exists put, s'.traffic c = s.traffic c ++ put ∧ traffic.Follows p' post (out ++ put) := by
  rcases Prog.step_eq_some.mp hstep with ⟨o, next, rfl, ⟨hexec, rfl⟩ | ⟨r, hexec, rfl⟩⟩
  · refine ⟨[], ?_, ?_⟩
    · rw [exec_traffic_again hexec, List.append_nil]
    · rw [List.append_nil]
      exact h
  · rcases exec_traffic hexec (hsend o next rfl) with ⟨hr, htraffic⟩
    exact ⟨o.puts, htraffic, h.2 r _ ⟨hr, rfl⟩⟩

theorem monitored_step {w w' : World F} {ch : Choice}
    (h : Monitored (w.tasks c) (w.state.traffic c)) (hnext : w.next (.step c ch) = some w')
    (hsend : SendsSucceed c w (.step c ch)) :
    Monitored (w'.tasks c) (w'.state.traffic c) := by
  rcases step_of_next hnext with ⟨start, item, p, p', s, htask, hstep, rfl⟩ |
    ⟨start, p, p', s, htask, hstep, rfl⟩
  · rw [htask] at h
    rcases h with ⟨before, out, hbefore, hfollows, hlog⟩
    have hsends : forall o next, p = .op o next -> o.isSend = true -> ch.fails = false := by
      intro o next hp ho
      exact hsend c ch rfl o (by rw [htask, hp]; rfl) rfl ho
    rcases follows_step hfollows hstep hsends with ⟨put, htraffic, hfollows'⟩
    rw [setTask_tasks_self, setTask_state, htraffic, hlog, List.append_assoc, List.cons_append]
    exact Monitored.afterHandling hbefore hfollows' s
  · rw [htask] at h
    rcases h with ⟨hfinished, out, hfollows⟩
    have hsends : forall o next, p = .op o next -> o.isSend = true -> ch.fails = false := by
      intro o next hp ho
      exact hsend c ch rfl o (by rw [htask, hp]; rfl) rfl ho
    rcases follows_step hfollows hstep hsends with ⟨put, htraffic, hfollows'⟩
    -- the cleanup ends with nothing put out, so nothing is put out on the way
    have hput : put = [] := by
      rcases follows_recorder_prefix hfollows' exists_succeeds with ⟨_, rest, hrest⟩
      rw [List.append_assoc, List.append_right_eq_self, List.append_eq_nil_iff] at hrest
      exact hrest.1
    subst hput
    rw [List.append_nil] at htraffic hfollows'
    rw [setTask_tasks_self, setTask_state, htraffic]
    cases p' with
    | op o next => exact ⟨hfinished, out, hfollows'⟩
    | pure => exact Or.inr (Or.inl hfinished)

theorem monitored_next {w w' : World F} {l : Label F}
    (h : Monitored (w.tasks c) (w.state.traffic c)) (hnext : w.next l = some w')
    (hsend : SendsSucceed c w l) : Monitored (w'.tasks c) (w'.state.traffic c) := by
  cases l with
  | accept c' =>
      rcases accept_of_next hnext with ⟨htask, rfl⟩
      by_cases hc : c = c'
      · subst hc
        rw [htask] at h
        rw [setTask_tasks_self, setTask_state, show w.state.traffic c = [] from h]
        exact Conversation.nil
      · rw [setTask_tasks_of_ne _ _ _ hc]
        exact h
  | receive c' item =>
      rcases receive_of_next hnext with ⟨htask, rfl⟩
      by_cases hc : c = c'
      · subst hc
        rw [htask] at h
        rw [setTask_tasks_self, setTask_state, State.log_traffic]
        exact Monitored.afterHandling h (replied_serve item) _
      · rw [setTask_tasks_of_ne _ _ _ hc, setTask_state, State.log_traffic_of_ne _ _ hc]
        exact h
  | step c' ch =>
      by_cases hc : c = c'
      · subst hc
        exact monitored_step h hnext hsend
      · rcases next_step_of_ne hc hnext with ⟨htask, htraffic⟩
        rw [htask, htraffic]
        exact h
  | restart =>
      cases hnext
      exact h.killed

theorem one_reply_per_request (users : Users) (trips : Trips) (positions : Positions F)
    (c : ConnId) (w : World F)
    (hreach : Reachable (SendsSucceed c) (World.boot users trips positions) w) :
    Talk (w.tasks c) (w.state.traffic c) ∧
    InOrder (w.state.traffic c) ∧
    (w.tasks c = .idle -> List.Forall₂ Incoming.admits (requests (w.state.traffic c))
      (replies (w.state.traffic c))) ∧
    forall (decode : String -> Option (Message F)) (m : WsMessage),
      (receiveFrame decode m).needsReply = m.nonEmpty := by
  have hmonitored : Monitored (w.tasks c) (w.state.traffic c) := by
    apply Reach.invariant hreach
    · exact rfl
    · intro w1 w2 l h hsend hnext
      exact monitored_next h hnext hsend
  refine ⟨hmonitored.talk, hmonitored.talk.inOrder, ?_, needsReply_receiveFrame⟩
  intro hidle
  rw [hidle] at hmonitored
  exact Conversation.balanced hmonitored

end

section

attribute [local instance] plainBcrypt

noncomputable def talkingWorld : World ℝ :=
  (World.boot ∅ ∅ ∅).after calmCheck
    (registerUntilReply 0 "u" "t1" ++ stepsOf 0 1 ++
      [.receive 0 .pingPong, .receive 0 .malformed] ++ stepsOf 0 1 ++
      [.receive 0 (.message (.disconnect "t1"))] ++ stepsOf 0 10)

theorem one_reply_per_request_talking :
    replies (talkingWorld.state.traffic 0) =
        [.authOk "t1", .error "BAD_REQUEST" "invalid message", .ack] ∧
      InOrder (talkingWorld.state.traffic 0) := by
  refine ⟨rfl, (one_reply_per_request ∅ ∅ ∅ 0 talkingWorld ?_).2.1⟩
  apply reach_after
  intro w l h c ch hl o ho _ _
  rw [hl] at h
  simp only [calmCheck, Bool.and_eq_true, Bool.not_eq_true'] at h
  exact h.1

end

end Wanderust
