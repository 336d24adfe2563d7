import Wanderust.Chat.Ledger
import Wanderust.Session.Conditions

/-!
# Broadcast delivery

A connection that stays authenticated is sent the lines of the admin, each once
and in order, unless its user is named like the sender of these lines.  A
connection without a user is sent none.
-/

namespace Wanderust

open Interleaving

variable {F : Type}

namespace ChatWorld

variable {B : Broadcast ChatBroadcast}
variable {unread : B.Chan -> B.Rx -> Option (List ChatBroadcast)}
variable {c : ConnId} {w w' : ChatWorld F B} {l : ChatLabel F}

/-- An admin task that is not busy with a single user sends nothing to a sink. -/
theorem admin_step_announces {chan : B.Chan} {sinks : Table String ConnId} {fails : Bool}
    {admin admin' : AdminTask F} {chan' : B.Chan} {out : Option (ConnId × Message F)}
    (h : Announces admin) (hstep : admin.step chan sinks fails = some (admin', chan', out)) :
    out = none ∧ Announces admin' := by
  cases admin with
  | lookingUp user text => exact h.elim
  | sendingDirect sink msg => exact h.elim
  | _ =>
      cases hstep
      all_goals exact ⟨rfl, trivial⟩

section

variable [Geo F] [Bcrypt]

/-! # Authenticated connections -/

def SendsDelivered (c : ConnId) (_ : ChatWorld F B) (l : ChatLabel F) : Prop :=
  l ≠ .chat c true

theorem reachable_running (hlaws : B.Lawful broadcastCap unread) {users : Users} {trips : Trips}
    {positions : Positions F}
    (hreach : ChatReachable (SendsDelivered c) (boot users trips positions) w) :
    ChatInv unread c w ∧ ((w.world.tasks c).Open -> (w.chats c).Running) := by
  apply Reach.invariant hreach
  · exact ⟨chatInv_boot users trips positions, False.elim⟩
  · intro w1 w2 l h hsends hnext
    exact ⟨chatInv_next hlaws h.1 hnext, running_next hlaws h.1 h.2 hnext hsends⟩

/-- The state of an open connection between two steps of a run. -/
structure Delivering (unread : B.Chan -> B.Rx -> Option (List ChatBroadcast)) (c : ConnId)
    (w w' : ChatWorld F B) : Prop where
  running : (w'.chats c).Running
  announces : Announces w'.admin
  ledger : exists lines, Ledger unread c w w' lines

theorem delivering_run (hlaws : B.Lawful broadcastCap unread) (h : ChatInv unread c w)
    (hrunning : (w.world.tasks c).Open -> (w.chats c).Running) (hannounces : Announces w.admin)
    (hreach : ChatReachable (fun w l => Attends unread c w l ∧ OtherName c w l) w w') :
    ChatInv unread c w' ∧ ((w'.world.tasks c).Open -> Delivering unread c w w') := by
  apply Reach.invariant (P := fun w' => ChatInv unread c w' ∧
    ((w'.world.tasks c).Open -> Delivering unread c w w')) hreach
  · exact ⟨h, fun hopen => ⟨hrunning hopen, hannounces, [], Ledger.silent rfl rfl⟩⟩
  · intro w1 w2 l h1 hcond hnext
    rcases hcond with ⟨hattends, hname⟩
    rcases h1 with ⟨hinv, hdelivering⟩
    have h1 := hdelivering hattends.authenticated.1
    refine ⟨chatInv_next hlaws hinv hnext, ?_⟩
    intro hopen
    rcases h1.ledger with ⟨lines, hledger⟩
    rcases ledger_next hlaws hinv h1.running h1.announces hattends hname hnext hopen with
      ⟨hannounces', lines', hledger'⟩
    refine ⟨?_, hannounces', lines ++ lines', hledger.trans hledger'⟩
    exact running_next hlaws hinv (fun _ => h1.running) hnext hattends.sends hopen

/-! # Anonymous connections -/

structure Untold (unread : B.Chan -> B.Rx -> Option (List ChatBroadcast)) (c : ConnId)
    (w : ChatWorld F B) : Prop where
  inv : ChatInv unread c w
  idle : forall rx msg, w.chats c ≠ .sending rx msg
  announces : Announces w.admin
  delivered : w.delivered c = []

theorem untold_next (hlaws : B.Lawful broadcastCap unread) (h : Untold unread c w)
    (huser : w.world.state.userState c = none) (hlines : OnlyAnnouncements l)
    (hnext : w.next l = some w') : Untold unread c w' := by
  have hinv := chatInv_next hlaws h.inv hnext
  cases l with
  | server l =>
      rcases server_of_next hnext with ⟨w1, hworld, rfl⟩
      have hdelivered : (w.afterServer w1 l).delivered c = [] := by
        rw [afterServer_delivered]
        exact h.delivered
      by_cases haccept : l = .accept c
      · subst haccept
        refine ⟨hinv, ?_, h.announces, hdelivered⟩
        simp [afterServer]
      · by_cases hrestart : l = .restart
        · subst hrestart
          refine ⟨hinv, ?_, trivial, hdelivered⟩
          intro rx msg
          simp only [afterServer]
          cases w.chats c with
          | _ => simp [ChatTask.killed]
        · rcases afterServer_other hrestart haccept w1 with ⟨hchats, _, hadmin⟩
          refine ⟨hinv, ?_, ?_, hdelivered⟩
          · rw [hchats]
            exact h.idle
          · rw [hadmin]
            exact h.announces
  | line item =>
      rcases line_of_next hnext with ⟨_, rfl⟩
      refine ⟨hinv, h.idle, ?_, h.delivered⟩
      cases item with
      | none => trivial
      | some line =>
          simp only [AdminTask.afterLine, adminCommand_announcement (hlines line rfl)]
          trivial
  | admin fails =>
      rcases admin_of_next hnext with ⟨admin, chan, out, hstep, rfl⟩
      rcases admin_step_announces h.announces hstep with ⟨rfl, hannounces⟩
      exact ⟨hinv, h.idle, hannounces, h.delivered⟩
  | chat c' fails =>
      rcases chat_of_next hnext with ⟨task, out, hstep, rfl⟩
      by_cases hc : c = c'
      · subst hc
        have hmoves := ChatTask.moves_of_step hlaws h.inv.sound hstep
        rw [huser] at hmoves
        rcases hmoves.anonymous h.idle with ⟨rfl, hidle⟩
        refine ⟨hinv, ?_, h.announces, h.delivered⟩
        simp only [Function.update_self]
        exact hidle
      · refine ⟨hinv, ?_, h.announces, ?_⟩
        · simp only [Function.update_of_ne hc]
          exact h.idle
        · simp only [deliver_of_ne w.delivered hc]
          exact h.delivered
  | abort c' =>
      rcases abort_of_next hnext with ⟨_, rfl⟩
      refine ⟨hinv, ?_, h.announces, h.delivered⟩
      by_cases hc : c = c'
      · subst hc
        simp
      · simp only [Function.update_of_ne hc]
        exact h.idle

/-! # Delivery -/

theorem broadcast_delivery (hlaws : B.Lawful broadcastCap unread) (users : Users) (trips : Trips)
    (positions : Positions F) (c : ConnId) :
    (forall w w' : ChatWorld F B,
      ChatReachable (SendsDelivered c) (boot users trips positions) w -> Announces w.admin ->
      ChatReachable (fun w l => Attends unread c w l ∧ OtherName c w l) w w' ->
      w'.Authenticated c ->
      exists lines, Ledger unread c w w' lines ∧
        ((w'.chats c).KeepsUp broadcastCap unread w'.chan ->
          w'.world.state.userState c ≠ some serverName ->
          exists w'', ChatReachable (Forwards c) w' w'' ∧ w''.outstanding unread c = [] ∧
            w''.delivered c = w.delivered c ++ w.outstanding unread c ++
              lines.map fun line => announcement (trim line))) ∧
    (forall w : ChatWorld F B,
      ChatReachable (fun w l => w.world.state.userState c = none ∧ OnlyAnnouncements l)
        (boot users trips positions) w ->
      w.delivered c = []) := by
  constructor
  · intro w w' hboot hannounces hreach hauth
    rcases reachable_running hlaws hboot with ⟨hinv, hrunning⟩
    rcases delivering_run hlaws hinv hrunning hannounces hreach with ⟨hinv', hdelivering⟩
    have h := hdelivering hauth.1
    rcases h.ledger with ⟨lines, hledger⟩
    refine ⟨lines, hledger, ?_⟩
    intro hkeeps hname
    have hattentive : Attentive unread c w' := ⟨hinv', h.running, hauth.2, hname, hkeeps⟩
    rcases hattentive.deliver hlaws with ⟨w'', hforwards, hnone, hdelivered⟩
    exact ⟨w'', hforwards, hnone, by rw [hdelivered, hledger.delivered]⟩
  · intro w hreach
    have h : Untold unread c w := by
      apply Reach.invariant hreach
      · exact ⟨chatInv_boot users trips positions, by simp [boot], trivial, rfl⟩
      · intro w1 w2 l h hcond hnext
        exact untold_next hlaws h hcond.1 hcond.2 hnext
    exact h.delivered

end

/-! # One line for one connection -/

section

attribute [local instance] plainBcrypt

/-- The worlds of the server over a channel that keeps its history. -/
abbrev ChatHistory : Type := ChatWorld ℝ (Broadcast.history ChatBroadcast broadcastCap)

def succeedsChat (_ : ChatHistory) : ChatLabel ℝ -> Bool
  | .chat _ fails => !fails
  | _ => true

noncomputable def listening (username : String) : ChatHistory :=
  Interleaving.after next succeedsChat (boot ∅ ∅ ∅)
    ((registerUntilReply 0 username "t1").map .server)

def hello : List (ChatLabel ℝ) :=
  [.line (some "hello"), .admin false, .admin false, .chat 0 false, .chat 0 false]

def keepsUpCheck (w : ChatHistory) : Bool :=
  match (w.chats 0).receiver with
  | some rx => decide (w.chan.length ≤ broadcastCap + rx)
  | none => true

def lineCheck : ChatLabel ℝ -> Bool
  | .chat _ fails => !fails
  | .line (some line) => decide (IsAnnouncement line)
  | _ => true

def attendsCheck (w : ChatHistory) (l : ChatLabel ℝ) : Bool :=
  (w.world.tasks 0).isOpen && (w.world.state.userState 0).isSome && keepsUpCheck w && lineCheck l

theorem attends_of_check {w : ChatHistory} {l : ChatLabel ℝ} (h : attendsCheck w l = true) :
    Attends Broadcast.historyUnread 0 w l := by
  simp only [attendsCheck, Bool.and_eq_true] at h
  rcases h with ⟨⟨⟨hopen, huser⟩, hkeeps⟩, hline⟩
  refine ⟨⟨Task.open_of_isOpen hopen, ?_⟩, ?_, ?_, ?_⟩
  · intro hnone
    rw [hnone] at huser
    cases huser
  · intro rx bcs hrx hbcs
    rw [Broadcast.historyUnread_eq_some] at hbcs
    simp only [keepsUpCheck, hrx, decide_eq_true_eq] at hkeeps
    rw [← hbcs.2, List.length_drop]
    omega
  · intro hl
    subst hl
    cases hline
  · intro line hl
    subst hl
    exact of_decide_eq_true hline

theorem listening_reachable (username : String) :
    ChatReachable (SendsDelivered 0) (boot ∅ ∅ ∅) (listening username) := by
  apply reach_after
  intro w l h hl
  subst hl
  cases h

noncomputable def greeted : ChatHistory :=
  Interleaving.after next
    (fun w l => attendsCheck w l && w.world.state.userState 0 != some serverName)
    (listening "u") (hello ++ [.chat 0 false])

theorem greeted_reachable : ChatReachable
    (fun w l => Attends Broadcast.historyUnread 0 w l ∧ OtherName 0 w l)
    (listening "u") greeted := by
  apply reach_after
  intro w l h
  rw [Bool.and_eq_true] at h
  refine ⟨attends_of_check h.1, ?_⟩
  intro fails _ heq
  simp [heq] at h

theorem broadcast_delivery_hello : exists lines,
    Ledger Broadcast.historyUnread 0 (listening "u") greeted lines ∧ lines = ["hello"] ∧
      greeted.delivered 0 = [announcement "hello"] := by
  have hauth : greeted.Authenticated 0 := ⟨True.intro, by decide⟩
  have hdelivery := (broadcast_delivery (Broadcast.history_lawful broadcastCap) ∅ ∅ ∅ 0).1
    (listening "u") greeted (listening_reachable "u") True.intro greeted_reachable hauth
  rcases hdelivery with ⟨lines, hledger, _⟩
  have hlines : [] ++ ["hello"] = [] ++ lines := hledger.entered
  exact ⟨lines, hledger, (List.append_cancel_left hlines).symm, rfl⟩

/-! # A user named like the sender -/

noncomputable def ignored : ChatHistory :=
  Interleaving.after next attendsCheck (listening serverName) hello

theorem ignored_reachable :
    ChatReachable (Attends Broadcast.historyUnread 0) (listening serverName) ignored := by
  apply reach_after
  intro w l h
  exact attends_of_check h

theorem broadcast_filtered :
    validateUsername serverName = .ok () ∧
      ChatReachable (SendsDelivered 0) (boot ∅ ∅ ∅) (listening serverName) ∧
      Announces (listening serverName).admin ∧
      ChatReachable (Attends Broadcast.historyUnread 0) (listening serverName) ignored ∧
      ignored.Authenticated 0 ∧ ignored.lines = (listening serverName).lines ++ ["hello"] ∧
      (listening serverName).outstanding Broadcast.historyUnread 0 = [] ∧
      ignored.outstanding Broadcast.historyUnread 0 = [] ∧ ignored.delivered 0 = [] := by
  have hauth : ignored.Authenticated 0 := ⟨True.intro, by decide⟩
  exact ⟨by rfl, listening_reachable serverName, True.intro, ignored_reachable, hauth, rfl, rfl,
    rfl, rfl⟩

end

end ChatWorld

end Wanderust
