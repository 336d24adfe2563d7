import Wanderust.Chat.World

/-!
# Steps of the chat tasks

What a step does to the messages that a chat task has in hand or still has to
read, and what holds of chat tasks in every reachable world.
-/

namespace Wanderust

open Interleaving

variable {F : Type}

/-! # Open connections -/

def Task.Open : Task F -> Prop
  | .unopened | .closed => False
  | _ => True

def Task.isOpen : Task F -> Bool
  | .unopened | .closed => false
  | _ => true

theorem Task.open_of_isOpen {t : Task F} (h : t.isOpen = true) : t.Open := by
  cases t with
  | unopened => cases h
  | closed => cases h
  | _ => trivial

section

variable [Geo F] [Bcrypt] {w w' : World F} {l : Label F} {c : ConnId}

theorem next_tasks (hnext : w.next l = some w') :
    l = .restart ∨ (l ≠ .restart ∧ exists c s t, w' = w.setTask c s t ∧
      ((l = .accept c ∧ w.tasks c = .unopened) ∨ (w.tasks c).Open)) := by
  cases l with
  | accept c =>
      rcases accept_of_next hnext with ⟨htask, rfl⟩
      exact Or.inr ⟨by simp, c, _, _, rfl, Or.inl ⟨rfl, htask⟩⟩
  | receive c item =>
      rcases receive_of_next hnext with ⟨htask, rfl⟩
      refine Or.inr ⟨by simp, c, _, _, rfl, Or.inr ?_⟩
      rw [htask]
      trivial
  | step c ch =>
      rcases step_of_next hnext with ⟨_, _, _, _, _, htask, _, rfl⟩ | ⟨_, _, _, _, htask, _, rfl⟩
      all_goals
        refine Or.inr ⟨by simp, c, _, _, rfl, Or.inr ?_⟩
        rw [htask]
        trivial
  | restart => exact Or.inl rfl

theorem open_of_next (hnext : w.next l = some w') (hopen : (w'.tasks c).Open) :
    (l ≠ .restart ∧ (w.tasks c).Open) ∨ (l = .accept c ∧ w.tasks c = .unopened) := by
  rcases next_tasks hnext with rfl | ⟨hrestart, c', s, t, rfl, hcase⟩
  · cases hnext
    cases htask : w.tasks c with
    | _ => simp [htask, Task.killed, Task.Open] at hopen
  · by_cases hc : c = c'
    · subst hc
      rcases hcase with hcase | hcase
      · exact Or.inr hcase
      · exact Or.inl ⟨hrestart, hcase⟩
    · simp only [World.setTask, Function.update_of_ne hc] at hopen
      exact Or.inl ⟨hrestart, hopen⟩

theorem closed_of_next (hnext : w.next l = some w') (hclosed : w.tasks c = .closed) :
    w'.tasks c = .closed := by
  rcases next_tasks hnext with rfl | ⟨hrestart, c', s, t, rfl, hcase⟩
  · cases hnext
    simp [hclosed, Task.killed]
  · by_cases hc : c = c'
    · subst hc
      rw [hclosed] at hcase
      rcases hcase with ⟨_, htask⟩ | hopen
      · cases htask
      · exact hopen.elim
    · simp only [World.setTask, Function.update_of_ne hc]
      exact hclosed

end

/-! # The chat task -/

namespace ChatTask

variable {B : Broadcast ChatBroadcast} {cap : Nat}
variable {unread : B.Chan -> B.Rx -> Option (List ChatBroadcast)} {chan : B.Chan}
variable {t t' : ChatTask F B.Rx} {out : Option (Message F)} {user : Option String} {fails : Bool}

def Running : ChatTask F B.Rx -> Prop
  | .receiving _ | .received _ _ | .sending _ _ => True
  | _ => False

def receiver {Rx : Type} : ChatTask F Rx -> Option Rx
  | .receiving rx | .received rx _ | .sending rx _ => some rx
  | _ => none

/-- The receiver is one of the channel, and it has only messages of the admin to read. -/
def Queued (unread : B.Chan -> B.Rx -> Option (List ChatBroadcast)) (chan : B.Chan)
    (rx : B.Rx) : Prop :=
  exists bcs, unread chan rx = some bcs ∧ forall bc, bc ∈ bcs -> bc.sender = serverName

def Sound (unread : B.Chan -> B.Rx -> Option (List ChatBroadcast)) (chan : B.Chan) :
    ChatTask F B.Rx -> Prop
  | .receiving rx => Queued unread chan rx
  | .received rx bc => bc.sender = serverName ∧ Queued unread chan rx
  | .sending rx _ => Queued unread chan rx
  | _ => True

def queue (unread : B.Chan -> B.Rx -> Option (List ChatBroadcast)) (chan : B.Chan)
    (rx : B.Rx) : List (Message F) :=
  ((unread chan rx).getD []).map ChatBroadcast.toMessage

/-- The messages that the task has in hand or still has to read. -/
def backlog (unread : B.Chan -> B.Rx -> Option (List ChatBroadcast)) (chan : B.Chan) :
    ChatTask F B.Rx -> List (Message F)
  | .receiving rx => queue unread chan rx
  | .received rx bc => bc.toMessage :: queue unread chan rx
  | .sending rx msg => msg :: queue unread chan rx
  | _ => []

/-- The receiver is not more messages behind than the channel keeps. -/
def KeepsUp (cap : Nat) (unread : B.Chan -> B.Rx -> Option (List ChatBroadcast))
    (chan : B.Chan) (t : ChatTask F B.Rx) : Prop :=
  forall rx bcs, t.receiver = some rx -> unread chan rx = some bcs -> bcs.length ≤ cap

/-- The steps of the task, by what happens to the messages. -/
inductive Moves (cap : Nat) (unread : B.Chan -> B.Rx -> Option (List ChatBroadcast))
    (chan : B.Chan) (user : Option String) :
    Bool -> ChatTask F B.Rx -> ChatTask F B.Rx -> Option (Message F) -> Prop where
  | read {fails : Bool} {rx rx' : B.Rx} {bc : ChatBroadcast} {bcs : List ChatBroadcast} :
      unread chan rx = some (bc :: bcs) ->
      unread chan rx' = some bcs ->
      Moves cap unread chan user fails (.receiving rx) (.received rx' bc) none
  | lagged {fails : Bool} {rx rx' : B.Rx} {bcs : List ChatBroadcast} :
      unread chan rx = some bcs ->
      cap < bcs.length ->
      unread chan rx' = some (bcs.drop (bcs.length - cap)) ->
      Moves cap unread chan user fails (.receiving rx) (.receiving rx') none
  | filtered {fails : Bool} {rx : B.Rx} {bc : ChatBroadcast} :
      (user = none ∨ user = some bc.sender) ->
      Moves cap unread chan user fails (.received rx bc) (.receiving rx) none
  | passed {fails : Bool} {rx : B.Rx} {bc : ChatBroadcast} :
      user ≠ none ->
      Moves cap unread chan user fails (.received rx bc) (.sending rx bc.toMessage) none
  | failed {rx : B.Rx} {msg : Message F} :
      Moves cap unread chan user true (.sending rx msg) .ended none
  | sent {rx : B.Rx} {msg : Message F} :
      Moves cap unread chan user false (.sending rx msg) (.receiving rx) (some msg)

theorem moves_of_step (hlaws : B.Lawful cap unread) (hsound : t.Sound unread chan)
    (hstep : t.step chan user fails = some (t', out)) :
    Moves cap unread chan user fails t t' out := by
  cases t with
  | unspawned => cases hstep
  | ended => cases hstep
  | receiving rx =>
      rcases hsound with ⟨bcs, hunread, _⟩
      rcases hlaws.recv_cases hunread with
        ⟨_, hrecv⟩ | ⟨bc, rest, rx', rfl, hrecv, hrest⟩ | ⟨hlag, n, rx', hrecv, hrest⟩
      · simp [step, hrecv] at hstep
      · simp only [step, hrecv, Option.some.injEq, Prod.mk.injEq] at hstep
        rcases hstep with ⟨rfl, rfl⟩
        exact Moves.read hunread hrest
      · simp only [step, hrecv, Option.some.injEq, Prod.mk.injEq] at hstep
        rcases hstep with ⟨rfl, rfl⟩
        exact Moves.lagged hunread hlag hrest
  | received rx bc =>
      cases user with
      | none =>
          cases hstep
          exact Moves.filtered (Or.inl rfl)
      | some me =>
          simp only [step] at hstep
          split at hstep
          · rename_i hsender
            cases hstep
            exact Moves.filtered (Or.inr (congrArg some hsender.symm))
          · cases hstep
            exact Moves.passed (by simp)
  | sending rx msg =>
      cases fails with
      | true =>
          cases hstep
          exact Moves.failed
      | false =>
          cases hstep
          exact Moves.sent

theorem Moves.sound (h : Moves cap unread chan user fails t t' out)
    (hsound : t.Sound unread chan) : t'.Sound unread chan := by
  cases h with
  | read hunread hrest =>
      rcases hsound with ⟨bcs, hbcs, hserver⟩
      rw [hunread] at hbcs
      cases hbcs
      exact ⟨hserver _ List.mem_cons_self, _, hrest,
        fun bc hbc => hserver bc (List.mem_cons_of_mem _ hbc)⟩
  | lagged hunread _ hrest =>
      rcases hsound with ⟨bcs, hbcs, hserver⟩
      rw [hunread] at hbcs
      cases hbcs
      exact ⟨_, hrest, fun bc hbc => hserver bc (List.mem_of_mem_drop hbc)⟩
  | filtered _ => exact hsound.2
  | passed _ => exact hsound.2
  | failed => trivial
  | sent => exact hsound

theorem Moves.running (h : Moves cap unread chan user false t t' out) : t'.Running := by
  cases h with
  | _ => trivial

theorem Moves.backlog (h : Moves cap unread chan user false t t' out)
    (hsound : t.Sound unread chan) (huser : user ≠ none) (hname : user ≠ some serverName)
    (hkeeps : t.KeepsUp cap unread chan) :
    out.toList ++ t'.backlog unread chan = t.backlog unread chan := by
  cases h with
  | read hunread hrest => simp [ChatTask.backlog, queue, hunread, hrest]
  | lagged hunread hlag _ => exact absurd (hkeeps _ _ rfl hunread) (Nat.not_le.mpr hlag)
  | filtered hfiltered =>
      rcases hfiltered with hnone | hsender
      · exact absurd hnone huser
      · rw [hsound.1] at hsender
        exact absurd hsender hname
  | passed _ => rfl
  | sent => rfl

theorem Moves.keepsUp (h : Moves cap unread chan user fails t t' out)
    (hkeeps : t.KeepsUp cap unread chan) : t'.KeepsUp cap unread chan := by
  intro rx bcs hrx hbcs
  cases h with
  | read hunread hrest =>
      cases hrx
      rw [hrest] at hbcs
      cases hbcs
      have hlen := hkeeps _ _ rfl hunread
      rw [List.length_cons] at hlen
      exact Nat.le_of_succ_le hlen
  | lagged hunread hlag _ => exact absurd (hkeeps _ _ rfl hunread) (Nat.not_le.mpr hlag)
  | filtered _ => exact hkeeps rx bcs hrx hbcs
  | passed _ => exact hkeeps rx bcs hrx hbcs
  | failed => cases hrx
  | sent => exact hkeeps rx bcs hrx hbcs

def weight (unread : B.Chan -> B.Rx -> Option (List ChatBroadcast)) (chan : B.Chan) :
    ChatTask F B.Rx -> Nat
  | .receiving rx => 3 * ((unread chan rx).getD []).length
  | .received rx _ => 3 * ((unread chan rx).getD []).length + 2
  | .sending rx _ => 3 * ((unread chan rx).getD []).length + 1
  | _ => 0

theorem Moves.weight (h : Moves cap unread chan user fails t t' out)
    (hkeeps : t.KeepsUp cap unread chan) : t'.weight unread chan < t.weight unread chan := by
  cases h with
  | read hunread hrest =>
      simp only [ChatTask.weight, hunread, hrest, Option.getD_some, List.length_cons]
      omega
  | lagged hunread hlag _ => exact absurd (hkeeps _ _ rfl hunread) (Nat.not_le.mpr hlag)
  | filtered _ => exact Nat.lt_add_of_pos_right (by decide)
  | passed _ => exact Nat.lt_succ_self _
  | failed => exact Nat.succ_pos _
  | sent => exact Nat.lt_succ_self _

theorem step_of_backlog (hlaws : B.Lawful cap unread) (hsound : t.Sound unread chan)
    (hbacklog : t.backlog unread chan ≠ []) (user : Option String) (fails : Bool) :
    exists t' out, t.step chan user fails = some (t', out) := by
  cases t with
  | unspawned => exact absurd rfl hbacklog
  | ended => exact absurd rfl hbacklog
  | receiving rx =>
      rcases hsound with ⟨bcs, hunread, _⟩
      rcases hlaws.recv_cases hunread with
        ⟨rfl, _⟩ | ⟨bc, rest, rx', _, hrecv, _⟩ | ⟨_, n, rx', hrecv, _⟩
      · simp [backlog, queue, hunread] at hbacklog
      · exact ⟨.received rx' bc, none, by simp only [step, hrecv]⟩
      · exact ⟨.receiving rx', none, by simp only [step, hrecv]⟩
  | received rx bc =>
      cases user with
      | none => exact ⟨_, _, rfl⟩
      | some me =>
          simp only [step]
          split
          · exact ⟨_, _, rfl⟩
          · exact ⟨_, _, rfl⟩
  | sending rx msg =>
      cases fails with
      | true => exact ⟨_, _, rfl⟩
      | false => exact ⟨_, _, rfl⟩

theorem Moves.anonymous (h : Moves cap unread chan none fails t t' out)
    (hidle : forall rx msg, t ≠ .sending rx msg) :
    out = none ∧ forall rx msg, t' ≠ .sending rx msg := by
  cases h with
  | read _ _ => exact ⟨rfl, by simp⟩
  | lagged _ _ _ => exact ⟨rfl, by simp⟩
  | filtered _ => exact ⟨rfl, by simp⟩
  | passed huser => exact absurd rfl huser
  | failed => exact absurd rfl (hidle _ _)
  | sent => exact absurd rfl (hidle _ _)

theorem receiving_of_backlog_nil (hsound : t.Sound unread chan) (hrunning : t.Running)
    (hempty : t.backlog unread chan = []) :
    exists rx, t = .receiving rx ∧ unread chan rx = some [] := by
  cases t with
  | unspawned => exact hrunning.elim
  | ended => exact hrunning.elim
  | received rx bc => cases hempty
  | sending rx msg => cases hempty
  | receiving rx =>
      rcases hsound with ⟨bcs, hunread, _⟩
      simp only [backlog, queue, hunread, Option.getD_some, List.map_eq_nil_iff] at hempty
      rw [hempty] at hunread
      exact ⟨rx, rfl, hunread⟩

theorem backlog_send (hlaws : B.Lawful cap unread) (hsound : t.Sound unread chan)
    (hrunning : t.Running) (bc : ChatBroadcast) :
    t.backlog unread (B.send bc chan) = t.backlog unread chan ++ [bc.toMessage] := by
  have hqueue : forall rx, Queued unread chan rx ->
      (queue unread (B.send bc chan) rx : List (Message F)) =
        queue unread chan rx ++ [bc.toMessage] := by
    intro rx hqueued
    rcases hqueued with ⟨bcs, hunread, _⟩
    simp [queue, hunread, hlaws.unread_send bc hunread]
  cases t with
  | receiving rx => exact hqueue rx hsound
  | received rx bc' => exact congrArg (_ :: ·) (hqueue rx hsound.2)
  | sending rx msg => exact congrArg (_ :: ·) (hqueue rx hsound)
  | unspawned => exact hrunning.elim
  | ended => exact hrunning.elim

theorem Sound.send (hlaws : B.Lawful cap unread) (hsound : t.Sound unread chan) (text : String) :
    t.Sound unread (B.send { sender := serverName, text } chan) := by
  have hqueue : forall rx, Queued unread chan rx ->
      Queued unread (B.send { sender := serverName, text } chan) rx := by
    intro rx hqueued
    rcases hqueued with ⟨bcs, hunread, hserver⟩
    refine ⟨_, hlaws.unread_send _ hunread, ?_⟩
    intro bc hbc
    rcases List.mem_append.mp hbc with hbc | hbc
    · exact hserver bc hbc
    · rw [List.mem_singleton.mp hbc]
  cases t with
  | receiving rx => exact hqueue rx hsound
  | received rx bc => exact ⟨hsound.1, hqueue rx hsound.2⟩
  | sending rx msg => exact hqueue rx hsound
  | unspawned => trivial
  | ended => trivial

end ChatTask

/-! # Steps of the chat world -/

theorem deliver_self (delivered : ConnId -> List (Message F)) (c : ConnId)
    (out : Option (Message F)) :
    deliver delivered (out.map (Prod.mk c)) c = delivered c ++ out.toList := by
  cases out with
  | none => simp [deliver]
  | some msg => simp [deliver]

theorem deliver_of_ne (delivered : ConnId -> List (Message F)) {c c' : ConnId} (hne : c ≠ c')
    (out : Option (Message F)) : deliver delivered (out.map (Prod.mk c')) c = delivered c := by
  cases out with
  | none => rfl
  | some msg => simp [deliver, hne]

namespace ChatWorld

variable {B : Broadcast ChatBroadcast} {cap : Nat}
variable {unread : B.Chan -> B.Rx -> Option (List ChatBroadcast)}
variable {c : ConnId} {w w' : ChatWorld F B} {l : ChatLabel F}

@[simp] theorem afterServer_world (w : ChatWorld F B) (w1 : World F) (l : Label F) :
    (w.afterServer w1 l).world = w1 := by
  cases l with
  | _ => rfl

@[simp] theorem afterServer_lines (w : ChatWorld F B) (w1 : World F) (l : Label F) :
    (w.afterServer w1 l).lines = w.lines := by
  cases l with
  | _ => rfl

@[simp] theorem afterServer_delivered (w : ChatWorld F B) (w1 : World F) (l : Label F) :
    (w.afterServer w1 l).delivered = w.delivered := by
  cases l with
  | _ => rfl

/-- Only an accept starts a chat task, and only a restart touches the channel. -/
theorem afterServer_other {l : Label F} (hrestart : l ≠ .restart) (haccept : l ≠ .accept c)
    (w1 : World F) :
    (w.afterServer w1 l).chats c = w.chats c ∧ (w.afterServer w1 l).chan = w.chan ∧
      (w.afterServer w1 l).admin = w.admin := by
  cases l with
  | accept c' =>
      have hne : c ≠ c' := by
        intro hc
        exact haccept (by rw [hc])
      exact ⟨Function.update_of_ne hne _ _, rfl, rfl⟩
  | receive c' item => exact ⟨rfl, rfl, rfl⟩
  | step c' ch => exact ⟨rfl, rfl, rfl⟩
  | restart => exact absurd rfl hrestart

/-! # Reachable worlds -/

structure ChatInv (unread : B.Chan -> B.Rx -> Option (List ChatBroadcast)) (c : ConnId)
    (w : ChatWorld F B) : Prop where
  sound : (w.chats c).Sound unread w.chan
  aborted : w.aborted c = true -> w.world.tasks c = .closed

theorem chatInv_boot (users : Users) (trips : Trips) (positions : Positions F) :
    ChatInv unread c (boot users trips positions) :=
  ⟨trivial, by simp [boot]⟩

/-- The admin task sends nothing on the channel but what the admin says himself. -/
theorem admin_step_sound (hlaws : B.Lawful cap unread) {t : ChatTask F B.Rx}
    (hsound : t.Sound unread w.chan) {sinks : Table String ConnId} {fails : Bool}
    {admin : AdminTask F} {chan : B.Chan} {out : Option (ConnId × Message F)}
    (hstep : w.admin.step w.chan sinks fails = some (admin, chan, out)) :
    t.Sound unread chan := by
  cases hadmin : w.admin with
  | announcing text =>
      rw [hadmin] at hstep
      cases hstep
      exact hsound.send hlaws text
  | lookingUp user text =>
      simp only [hadmin, AdminTask.step] at hstep
      split at hstep
      all_goals
        cases hstep
        exact hsound
  | _ =>
      rw [hadmin] at hstep
      cases hstep
      all_goals exact hsound

section

variable [Geo F] [Bcrypt]

theorem afterServer_aborted {l : Label F} {w1 : World F} (hnext : w.world.next l = some w1)
    (h : w.aborted c = true -> w.world.tasks c = .closed)
    (haborted : (w.afterServer w1 l).aborted c = true) : w1.tasks c = .closed := by
  have hold : w.aborted c = true -> w1.tasks c = .closed :=
    fun hc => closed_of_next hnext (h hc)
  cases l with
  | step c' ch =>
      cases htask : w.world.tasks c' with
      | cleaning start p =>
          cases htask' : w1.tasks c' with
          | closed =>
              simp only [afterServer, abortedAfter, htask, htask'] at haborted
              by_cases hc : c = c'
              · rw [hc]
                exact htask'
              · rw [Function.update_of_ne hc] at haborted
                exact hold haborted
          | _ =>
              simp only [afterServer, abortedAfter, htask, htask'] at haborted
              exact hold haborted
      | _ =>
          simp only [afterServer, abortedAfter, htask] at haborted
          exact hold haborted
  | _ => exact hold haborted

theorem chatInv_server (hlaws : B.Lawful cap unread) (h : ChatInv unread c w) {l : Label F}
    {w1 : World F} (hnext : w.world.next l = some w1) :
    ChatInv unread c (w.afterServer w1 l) := by
  refine ⟨?_, ?_⟩
  · by_cases haccept : l = .accept c
    · subst haccept
      simp only [afterServer, Function.update_self]
      exact ⟨[], hlaws.unread_subscribe _, by simp⟩
    · by_cases hrestart : l = .restart
      · subst hrestart
        simp only [afterServer]
        cases w.chats c with
        | _ => trivial
      · rcases afterServer_other hrestart haccept w1 with ⟨hchats, hchan, _⟩
        rw [hchats, hchan]
        exact h.sound
  · intro haborted
    rw [afterServer_world]
    exact afterServer_aborted hnext h.aborted haborted

theorem chatInv_next (hlaws : B.Lawful cap unread) (h : ChatInv unread c w)
    (hnext : w.next l = some w') : ChatInv unread c w' := by
  cases l with
  | server l =>
      rcases server_of_next hnext with ⟨w1, hworld, rfl⟩
      exact chatInv_server hlaws h hworld
  | line item =>
      rcases line_of_next hnext with ⟨_, rfl⟩
      exact ⟨h.sound, h.aborted⟩
  | admin fails =>
      rcases admin_of_next hnext with ⟨admin, chan, out, hstep, rfl⟩
      exact ⟨admin_step_sound hlaws h.sound hstep, h.aborted⟩
  | chat c' fails =>
      rcases chat_of_next hnext with ⟨task, out, hstep, rfl⟩
      refine ⟨?_, h.aborted⟩
      by_cases hc : c = c'
      · subst hc
        simp only [Function.update_self]
        exact (ChatTask.moves_of_step hlaws h.sound hstep).sound h.sound
      · simp only [Function.update_of_ne hc]
        exact h.sound
  | abort c' =>
      rcases abort_of_next hnext with ⟨_, rfl⟩
      refine ⟨?_, h.aborted⟩
      by_cases hc : c = c'
      · subst hc
        simp only [Function.update_self]
        trivial
      · simp only [Function.update_of_ne hc]
        exact h.sound

/-- As long as its sends succeed, an open connection has a chat task that runs. -/
theorem running_next (hlaws : B.Lawful cap unread) (h : ChatInv unread c w)
    (hrunning : (w.world.tasks c).Open -> (w.chats c).Running) (hnext : w.next l = some w')
    (hsends : l ≠ .chat c true) (hopen : (w'.world.tasks c).Open) : (w'.chats c).Running := by
  cases l with
  | server l =>
      rcases server_of_next hnext with ⟨w1, hworld, rfl⟩
      rw [afterServer_world] at hopen
      by_cases haccept : l = .accept c
      · subst haccept
        simp only [afterServer, Function.update_self]
        trivial
      · rcases open_of_next hworld hopen with ⟨hrestart, hbefore⟩ | ⟨haccept', _⟩
        · rw [(afterServer_other hrestart haccept w1).1]
          exact hrunning hbefore
        · exact absurd haccept' haccept
  | line item =>
      rcases line_of_next hnext with ⟨_, rfl⟩
      exact hrunning hopen
  | admin fails =>
      rcases admin_of_next hnext with ⟨_, _, _, _, rfl⟩
      exact hrunning hopen
  | chat c' fails =>
      rcases chat_of_next hnext with ⟨task, out, hstep, rfl⟩
      by_cases hc : c = c'
      · subst hc
        simp only [Function.update_self]
        cases fails with
        | true => exact absurd rfl hsends
        | false => exact (ChatTask.moves_of_step hlaws h.sound hstep).running
      · simp only [Function.update_of_ne hc]
        exact hrunning hopen
  | abort c' =>
      rcases abort_of_next hnext with ⟨haborted, rfl⟩
      by_cases hc : c = c'
      · subst hc
        rw [h.aborted haborted] at hopen
        exact hopen.elim
      · simp only [Function.update_of_ne hc]
        exact hrunning hopen

end

end ChatWorld

end Wanderust
