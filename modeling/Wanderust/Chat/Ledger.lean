import Wanderust.Chat.Steps

/-!
# Delivery of announcements

What the admin has announced for a connection is either delivered or still on its
way: with the admin task, in the channel, or in the hands of the chat task.
-/

namespace Wanderust

open Interleaving

variable {F : Type}

/-- What a connection is sent for a line of the admin. -/
def announcement (text : String) : Message F :=
  .chatFromServer (some serverName) text

namespace ChatWorld

variable {B : Broadcast ChatBroadcast} {cap : Nat}
variable {unread : B.Chan -> B.Rx -> Option (List ChatBroadcast)}
variable {c : ConnId} {w w' : ChatWorld F B} {l : ChatLabel F}

/-! # The ledger -/

def outstandingAdmin : AdminTask F -> List (Message F)
  | .counting text | .announcing text => [announcement text]
  | _ => []

/-- The task is not busy with a message for a single user. -/
def Announces : AdminTask F -> Prop
  | .lookingUp _ _ | .sendingDirect _ _ => False
  | _ => True

/-- The announcements that have not reached the connection yet. -/
def outstanding (unread : B.Chan -> B.Rx -> Option (List ChatBroadcast)) (w : ChatWorld F B)
    (c : ConnId) : List (Message F) :=
  (w.chats c).backlog unread w.chan ++ outstandingAdmin w.admin

/-- The lines entered between the two worlds have been delivered, or are on their way. -/
structure Ledger (unread : B.Chan -> B.Rx -> Option (List ChatBroadcast)) (c : ConnId)
    (w w' : ChatWorld F B) (lines : List String) : Prop where
  entered : w'.lines = w.lines ++ lines
  delivered : w'.delivered c ++ w'.outstanding unread c =
    w.delivered c ++ w.outstanding unread c ++ lines.map fun line => announcement (trim line)

theorem Ledger.silent (hlines : w'.lines = w.lines)
    (hdelivered : w'.delivered c ++ w'.outstanding unread c =
      w.delivered c ++ w.outstanding unread c) : Ledger unread c w w' [] :=
  ⟨by simpa using hlines, by simpa using hdelivered⟩

theorem Ledger.trans {w'' : ChatWorld F B} {lines lines' : List String}
    (h : Ledger unread c w w' lines) (h' : Ledger unread c w' w'' lines') :
    Ledger unread c w w'' (lines ++ lines') where
  entered := by rw [h'.entered, h.entered, List.append_assoc]
  delivered := by rw [h'.delivered, h.delivered, List.map_append, List.append_assoc]

section

variable [Geo F] [Bcrypt]

def Authenticated (w : ChatWorld F B) (c : ConnId) : Prop :=
  (w.world.tasks c).Open ∧ w.world.state.userState c ≠ none

/-- A line of the admin is one for everybody. -/
def OnlyAnnouncements (l : ChatLabel F) : Prop :=
  forall line, l = .line (some line) -> IsAnnouncement line

structure Attends (unread : B.Chan -> B.Rx -> Option (List ChatBroadcast)) (c : ConnId)
    (w : ChatWorld F B) (l : ChatLabel F) : Prop where
  authenticated : w.Authenticated c
  keepsUp : (w.chats c).KeepsUp broadcastCap unread w.chan
  sends : l ≠ .chat c true
  lines : OnlyAnnouncements l

def OtherName (c : ConnId) (w : ChatWorld F B) (l : ChatLabel F) : Prop :=
  forall fails, l = .chat c fails -> w.world.state.userState c ≠ some serverName

theorem ledger_next (hlaws : B.Lawful broadcastCap unread) (h : ChatInv unread c w)
    (hrunning : (w.chats c).Running) (hannounces : Announces w.admin)
    (hattends : Attends unread c w l) (hname : OtherName c w l) (hnext : w.next l = some w')
    (hopen : (w'.world.tasks c).Open) :
    Announces w'.admin ∧ exists lines, Ledger unread c w w' lines := by
  cases l with
  | server l =>
      rcases server_of_next hnext with ⟨w1, hworld, rfl⟩
      rw [afterServer_world] at hopen
      rcases open_of_next hworld hopen with ⟨hrestart, _⟩ | ⟨_, hunopened⟩
      · have haccept : l ≠ .accept c := by
          intro hl
          subst hl
          have hbefore := hattends.authenticated.1
          rw [(accept_of_next hworld).1] at hbefore
          exact hbefore.elim
        rcases afterServer_other hrestart haccept w1 with ⟨hchats, hchan, hadmin⟩
        rw [hadmin]
        refine ⟨hannounces, [], Ledger.silent (afterServer_lines w w1 l) ?_⟩
        rw [afterServer_delivered, outstanding, hchats, hchan, hadmin]
        rfl
      · have hbefore := hattends.authenticated.1
        rw [hunopened] at hbefore
        exact hbefore.elim
  | line item =>
      rcases line_of_next hnext with ⟨hadmin, rfl⟩
      cases item with
      | none =>
          refine ⟨trivial, [], Ledger.silent (by simp) ?_⟩
          simp [outstanding, outstandingAdmin, AdminTask.afterLine, hadmin]
      | some line =>
          have hline := adminCommand_announcement (hattends.lines line rfl)
          simp only [AdminTask.afterLine, hline]
          refine ⟨trivial, [line], rfl, ?_⟩
          simp [outstanding, outstandingAdmin, hadmin]
  | admin fails =>
      rcases admin_of_next hnext with ⟨admin, chan, out, hstep, rfl⟩
      cases hadmin : w.admin with
      | counting text =>
          rw [hadmin] at hstep
          cases hstep
          refine ⟨trivial, [], Ledger.silent rfl ?_⟩
          simp [outstanding, outstandingAdmin, deliver, hadmin]
      | announcing text =>
          rw [hadmin] at hstep
          cases hstep
          refine ⟨trivial, [], Ledger.silent rfl ?_⟩
          simp only [outstanding, outstandingAdmin, deliver, hadmin,
            ChatTask.backlog_send hlaws h.sound hrunning, List.append_nil]
          rfl
      | listing =>
          rw [hadmin] at hstep
          cases hstep
          refine ⟨trivial, [], Ledger.silent rfl ?_⟩
          simp [outstanding, outstandingAdmin, deliver, hadmin]
      | reading =>
          rw [hadmin] at hstep
          cases hstep
      | ended =>
          rw [hadmin] at hstep
          cases hstep
      | lookingUp user text =>
          rw [hadmin] at hannounces
          exact hannounces.elim
      | sendingDirect sink msg =>
          rw [hadmin] at hannounces
          exact hannounces.elim
  | chat c' fails =>
      rcases chat_of_next hnext with ⟨task, out, hstep, rfl⟩
      refine ⟨hannounces, [], Ledger.silent rfl ?_⟩
      by_cases hc : c = c'
      · subst hc
        cases fails with
        | true => exact absurd rfl hattends.sends
        | false =>
            have hbacklog := (ChatTask.moves_of_step hlaws h.sound hstep).backlog h.sound
              hattends.authenticated.2 (hname false rfl) hattends.keepsUp
            simp only [outstanding, deliver_self, Function.update_self]
            rw [← hbacklog]
            simp only [List.append_assoc]
      · simp only [outstanding, deliver_of_ne w.delivered hc, Function.update_of_ne hc]
  | abort c' =>
      rcases abort_of_next hnext with ⟨haborted, rfl⟩
      refine ⟨hannounces, [], Ledger.silent rfl ?_⟩
      by_cases hc : c = c'
      · subst hc
        have hclosed := hattends.authenticated.1
        rw [h.aborted haborted] at hclosed
        exact hclosed.elim
      · simp only [outstanding, Function.update_of_ne hc]

/-! # The end of a delivery -/

/-- A connection whose chat task passes on every message that it has in hand. -/
structure Attentive (unread : B.Chan -> B.Rx -> Option (List ChatBroadcast)) (c : ConnId)
    (w : ChatWorld F B) : Prop where
  inv : ChatInv unread c w
  running : (w.chats c).Running
  user : w.world.state.userState c ≠ none
  name : w.world.state.userState c ≠ some serverName
  keepsUp : (w.chats c).KeepsUp broadcastCap unread w.chan

def Forwards (c : ConnId) (_ : ChatWorld F B) (l : ChatLabel F) : Prop :=
  l = .admin false ∨ l = .chat c false

theorem Attentive.step (hlaws : B.Lawful broadcastCap unread) (h : Attentive unread c w)
    (hbacklog : (w.chats c).backlog unread w.chan ≠ []) :
    exists w', w.next (.chat c false) = some w' ∧ Attentive unread c w' ∧
      w'.admin = w.admin ∧
      (w'.chats c).weight unread w'.chan < (w.chats c).weight unread w.chan ∧
      w'.delivered c ++ (w'.chats c).backlog unread w'.chan =
        w.delivered c ++ (w.chats c).backlog unread w.chan := by
  rcases ChatTask.step_of_backlog hlaws h.inv.sound hbacklog (w.world.state.userState c) false with
    ⟨task, out, hstep⟩
  have hmoves := ChatTask.moves_of_step hlaws h.inv.sound hstep
  have hnext : w.next (.chat c false) = some
      { w with
        chats := Function.update w.chats c task
        delivered := deliver w.delivered (out.map (Prod.mk c)) } := by
    simp only [next, hstep]
  refine ⟨_, hnext, ⟨chatInv_next hlaws h.inv hnext, ?_, h.user, h.name, ?_⟩, rfl, ?_, ?_⟩
  · simp only [Function.update_self]
    exact hmoves.running
  · simp only [Function.update_self]
    exact hmoves.keepsUp h.keepsUp
  · simp only [Function.update_self]
    exact hmoves.weight h.keepsUp
  · simp only [Function.update_self, deliver_self]
    rw [← hmoves.backlog h.inv.sound h.user h.name h.keepsUp, List.append_assoc]

theorem Attentive.drain (hlaws : B.Lawful broadcastCap unread) (h : Attentive unread c w) :
    exists w', ChatReachable (Forwards c) w w' ∧ Attentive unread c w' ∧ w'.admin = w.admin ∧
      (w'.chats c).backlog unread w'.chan = [] ∧
      w'.delivered c = w.delivered c ++ (w.chats c).backlog unread w.chan := by
  induction hweight : (w.chats c).weight unread w.chan using Nat.strong_induction_on
    generalizing w with
  | _ n ih =>
      by_cases hbacklog : (w.chats c).backlog unread w.chan = []
      · exact ⟨w, Reach.refl, h, rfl, hbacklog, by rw [hbacklog, List.append_nil]⟩
      · rcases h.step hlaws hbacklog with ⟨w1, hnext, h1, hadmin1, hlt, hdelivered1⟩
        rw [hweight] at hlt
        rcases ih _ hlt h1 rfl with ⟨w2, hreach, h2, hadmin2, hempty, hdelivered2⟩
        have hfirst : ChatReachable (Forwards c) w w1 :=
          Reach.refl.tail (.chat c false) (Or.inr rfl) hnext
        refine ⟨w2, hfirst.trans hreach, h2, ?_, hempty, ?_⟩
        · rw [hadmin2, hadmin1]
        · rw [hdelivered2, hdelivered1]

/-- What the admin has in hand reaches the channel, for a connection without a backlog. -/
theorem Attentive.announcing (hlaws : B.Lawful broadcastCap unread) (h : Attentive unread c w)
    (hempty : (w.chats c).backlog unread w.chan = []) {text : String}
    (hadmin : w.admin = .announcing text) :
    exists w', ChatReachable (Forwards c) w w' ∧ Attentive unread c w' ∧
      outstandingAdmin w'.admin = [] ∧ w'.delivered c = w.delivered c ∧
      (w'.chats c).backlog unread w'.chan = [announcement text] := by
  have hnext : w.next (.admin false) = some
      { w with
        admin := .reading
        chan := B.send { sender := serverName, text } w.chan } := by
    simp only [next, hadmin, AdminTask.step, Wanderust.deliver]
  refine ⟨_, Reach.refl.tail (.admin false) (Or.inl rfl) hnext,
    ⟨chatInv_next hlaws h.inv hnext, h.running, h.user, h.name, ?_⟩, rfl, rfl, ?_⟩
  · intro rx bcs hrx hbcs
    rcases ChatTask.receiving_of_backlog_nil h.inv.sound h.running hempty with
      ⟨rx', hchat, hunread⟩
    simp only [hchat] at hrx
    cases hrx
    rw [hlaws.unread_send _ hunread] at hbcs
    cases hbcs
    exact Nat.succ_le_succ (Nat.zero_le _)
  · rw [ChatTask.backlog_send hlaws h.inv.sound h.running, hempty]
    rfl

theorem Attentive.announce (hlaws : B.Lawful broadcastCap unread) (h : Attentive unread c w)
    (hempty : (w.chats c).backlog unread w.chan = []) :
    exists w', ChatReachable (Forwards c) w w' ∧ Attentive unread c w' ∧
      outstandingAdmin w'.admin = [] ∧ w'.delivered c = w.delivered c ∧
      (w'.chats c).backlog unread w'.chan = outstandingAdmin w.admin := by
  cases hadmin : w.admin with
  | announcing text => exact h.announcing hlaws hempty hadmin
  | counting text =>
      have hnext : w.next (.admin false) = some { w with admin := .announcing text } := by
        simp only [next, hadmin, AdminTask.step, Wanderust.deliver]
      have hfirst : ChatReachable (Forwards c) w { w with admin := .announcing text } :=
        Reach.refl.tail (.admin false) (Or.inl rfl) hnext
      have h1 : Attentive unread c { w with admin := .announcing text } :=
        ⟨chatInv_next hlaws h.inv hnext, h.running, h.user, h.name, h.keepsUp⟩
      rcases h1.announcing hlaws hempty rfl with ⟨w2, hreach, hrest⟩
      exact ⟨w2, hfirst.trans hreach, hrest⟩
  | _ => exact ⟨w, Reach.refl, h, by rw [hadmin]; rfl, rfl, hempty⟩

theorem Attentive.deliver (hlaws : B.Lawful broadcastCap unread) (h : Attentive unread c w) :
    exists w', ChatReachable (Forwards c) w w' ∧ w'.outstanding unread c = [] ∧
      w'.delivered c = w.delivered c ++ w.outstanding unread c := by
  rcases h.drain hlaws with ⟨w1, hreach1, h1, hadmin1, hempty1, hdelivered1⟩
  rcases h1.announce hlaws hempty1 with ⟨w2, hreach2, h2, hnone, hdelivered2, hbacklog2⟩
  rcases h2.drain hlaws with ⟨w3, hreach3, h3, hadmin3, hempty3, hdelivered3⟩
  refine ⟨w3, (hreach1.trans hreach2).trans hreach3, ?_, ?_⟩
  · rw [outstanding, hempty3, hadmin3, hnone]
    rfl
  · rw [hdelivered3, hdelivered2, hdelivered1, hbacklog2, hadmin1, outstanding, List.append_assoc]

end

end ChatWorld

end Wanderust
