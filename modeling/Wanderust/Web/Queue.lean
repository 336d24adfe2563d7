import Wanderust.Web.Page

/-!
# The queue of requests

A request that is made while the socket is not open waits until it is.  In every
run the requests that were written to a socket, and then those that wait, are
the ones that were made, in this order.
-/

namespace Wanderust.Page

open Sim

variable {F : Type}

def Event.made : Event F -> Option (Message F)
  | .queued msg => some msg
  | _ => none

def Event.written : Event F -> Option (Message F)
  | .transmitted (.request msg) => some msg
  | _ => none

namespace State

def made (s : State F) : List (Message F) := s.history.filterMap Event.made

def written (s : State F) : List (Message F) := s.history.filterMap Event.written

theorem made_log (s : State F) (e : Event F) : (s.log e).made = s.made ++ e.made.toList := by
  show (s.history ++ [e]).filterMap Event.made = _
  rw [List.filterMap_append]
  cases e with
  | _ => rfl

theorem written_log (s : State F) (e : Event F) :
    (s.log e).written = s.written ++ e.written.toList := by
  show (s.history ++ [e]).filterMap Event.written = _
  rw [List.filterMap_append]
  cases e with
  | transmitted frame =>
      cases frame with
      | _ => rfl
  | _ => rfl

end State

structure QueueInv (s : State F) : Prop where
  order : s.written ++ s.pending = s.made
  empty : s.ws = some .opened -> s.pending = []

/-! # What leaves the queue alone -/

structure SameQueue (s s' : State F) : Prop where
  ws : s'.ws = s.ws
  pending : s'.pending = s.pending
  history : s'.history = s.history

variable {s s' s'' : State F} {e : Event F}

theorem SameQueue.refl (s : State F) : SameQueue s s := ⟨rfl, rfl, rfl⟩

theorem SameQueue.trans (h : SameQueue s s') (h' : SameQueue s' s'') : SameQueue s s'' :=
  ⟨h'.ws.trans h.ws, h'.pending.trans h.pending, h'.history.trans h.history⟩

theorem QueueInv.same (h : QueueInv s) (hs : SameQueue s s') : QueueInv s' where
  order := by
    have horder := h.order
    unfold State.written State.made at *
    rw [hs.history, hs.pending]
    exact horder
  empty := by
    intro hopen
    rw [hs.ws] at hopen
    rw [hs.pending]
    exact h.empty hopen

theorem QueueInv.log (h : QueueInv s) (hmade : e.made = none) (hwritten : e.written = none) :
    QueueInv (s.log e) where
  order := by
    rw [State.written_log, State.made_log, hmade, hwritten, Option.toList_none, List.append_nil,
      List.append_nil]
    exact h.order
  empty := h.empty

theorem QueueInv.ofWs (h : QueueInv s) (ws : Option ReadyState) (hws : ws ≠ some .opened) :
    QueueInv { s with ws } where
  order := h.order
  empty := fun hopen => absurd hopen hws

theorem sameQueue_persistSession (s : State F) (token : String) (user : Option String) :
    SameQueue s (s.persistSession token user) := by
  unfold State.persistSession
  split
  all_goals exact ⟨rfl, rfl, rfl⟩

theorem sameQueue_clearStoredSession (s : State F) : SameQueue s s.clearStoredSession := by
  unfold State.clearStoredSession
  split
  all_goals exact ⟨rfl, rfl, rfl⟩

theorem sameQueue_despawn (s : State F) : SameQueue s s.despawn := by
  unfold State.despawn
  split
  all_goals exact ⟨rfl, rfl, rfl⟩

theorem sameQueue_appendChatMessage (s : State F) (sender : Option String) (text : String) :
    SameQueue s (s.appendChatMessage sender text) := by
  unfold State.appendChatMessage
  split
  · exact ⟨rfl, rfl, rfl⟩
  · split
    all_goals exact ⟨rfl, rfl, rfl⟩

theorem sameQueue_error (s : State F) (code message : String) :
    SameQueue s (s.error code message) := by
  unfold State.error
  split
  · refine SameQueue.trans ?_ (sameQueue_clearStoredSession _)
    exact ⟨rfl, rfl, rfl⟩
  · split
    all_goals exact ⟨rfl, rfl, rfl⟩

/-! # The socket -/

theorem QueueInv.connect (h : QueueInv s) : QueueInv s.connect := by
  have hconnecting : some ReadyState.connecting ≠ some .opened := fun hsame => by cases hsame
  unfold State.connect
  split
  · exact h
  · exact h
  all_goals exact (h.ofWs _ hconnecting).same ⟨rfl, rfl, rfl⟩

theorem QueueInv.send (h : QueueInv s) (msg : Message F) : QueueInv (s.send msg) := by
  have hmade : (s.log (.queued msg)).made = s.written ++ s.pending ++ [msg] := by
    rw [State.made_log, h.order]
    rfl
  have hwritten : (s.log (.queued msg)).written = s.written := by
    rw [State.written_log]
    exact List.append_nil _
  -- the request is put at the end of the queue
  have hwaits (hws : s.ws ≠ some .opened) :
      QueueInv { s.log (.queued msg) with pending := s.pending ++ [msg] } := by
    refine ⟨?_, fun hopen => absurd hopen hws⟩
    show (s.log (.queued msg)).written ++ (s.pending ++ [msg]) = (s.log (.queued msg)).made
    rw [hmade, hwritten, List.append_assoc]
  unfold State.send
  dsimp only
  split
  case h_1 hopen =>
    have hempty := h.empty hopen
    refine ⟨?_, h.empty⟩
    unfold State.transmit
    rw [State.written_log, State.made_log, hmade, hwritten]
    show s.written ++ [msg] ++ s.pending = s.written ++ s.pending ++ [msg] ++ []
    rw [hempty, List.append_nil, List.append_nil, List.append_nil]
  case h_2 hws =>
    apply hwaits
    rw [show s.ws = some .connecting from hws]
    intro hsame
    cases hsame
  case h_3 hopened hconnecting =>
    exact (hwaits hopened).connect

theorem order_transmits (s : State F) (msgs : List (Message F)) :
    (msgs.foldl (fun s msg => s.transmit (.request msg)) s).written = s.written ++ msgs ∧
      (msgs.foldl (fun s msg => s.transmit (.request msg)) s).made = s.made ∧
      (msgs.foldl (fun s msg => s.transmit (.request msg)) s).pending = s.pending := by
  induction msgs generalizing s with
  | nil => simp
  | cons msg msgs ih =>
      rcases ih (s.transmit (.request msg)) with ⟨hwritten, hmade, hpending⟩
      refine ⟨?_, ?_, hpending⟩
      · rw [List.foldl_cons, hwritten, State.transmit, State.written_log]
        simp [Event.written]
      · rw [List.foldl_cons, hmade, State.transmit, State.made_log]
        simp [Event.made]

theorem QueueInv.flush (horder : s.written ++ s.pending = s.made) : QueueInv s.flush := by
  rcases order_transmits { s with pending := [] } s.pending with ⟨hwritten, hmade, hpending⟩
  refine ⟨?_, fun _ => hpending⟩
  unfold State.flush
  rw [hwritten, hmade, hpending, List.append_nil]
  exact horder

theorem QueueInv.onOpen (h : QueueInv s) : QueueInv s.onOpen := by
  apply QueueInv.flush
  unfold State.resume
  split
  · split
    · unfold State.transmit
      rw [State.written_log, State.made_log]
      simp only [Event.written, Event.made, Option.toList_none, List.append_nil]
      exact h.order
    · exact h.order
  · exact h.order

theorem QueueInv.onClose (h : QueueInv s) : QueueInv s.onClose := by
  have hclosed : QueueInv { s.log .closed with tripActive := false } :=
    (h.log rfl rfl).same ⟨rfl, rfl, rfl⟩
  have hdespawn := hclosed.same (sameQueue_despawn _)
  unfold State.onClose
  dsimp only
  split
  · exact hdespawn.same ⟨rfl, rfl, rfl⟩
  · exact hdespawn

/-! # Requests of the user -/

theorem QueueInv.toggleTrip (h : QueueInv s) (now : Int) : QueueInv (s.toggleTrip now) := by
  unfold State.toggleTrip
  split
  · unfold State.doStart
    split
    · exact h
    · split
      · exact h
      · exact h.same ⟨rfl, rfl, rfl⟩
      · apply QueueInv.send
        exact h.same ⟨rfl, rfl, rfl⟩
  · unfold State.doEnd
    split
    · exact (h.send _).same ⟨rfl, rfl, rfl⟩
    · exact h

theorem QueueInv.doChat (h : QueueInv s) (chat : String) : QueueInv (s.doChat chat) := by
  unfold State.doChat
  split
  · exact h
  · split
    · exact h
    · apply QueueInv.send
      exact h.same ⟨rfl, rfl, rfl⟩

theorem QueueInv.doQuit (h : QueueInv s) : QueueInv s.doQuit := by
  have hforget (s1 : State F) (h1 : QueueInv s1) : QueueInv
      (State.despawn (State.clearStoredSession { s1.log .quit with
        tripActive := false, token := none, tripId := none, username := none })) := by
    have hquit : QueueInv { s1.log .quit with
        tripActive := false, token := none, tripId := none, username := none } :=
      (h1.log rfl rfl).same ⟨rfl, rfl, rfl⟩
    exact hquit.same ((sameQueue_clearStoredSession _).trans (sameQueue_despawn _))
  unfold State.doQuit
  dsimp only
  refine QueueInv.same (hforget _ ?_) ⟨rfl, rfl, rfl⟩
  split
  · apply QueueInv.send
    exact h.same ⟨rfl, rfl, rfl⟩
  · exact h

/-! # Steps -/

section

variable [Arith F] {fromStr : String -> Except String (Graph F)}

theorem sameQueue_respawn (s : State F) (seed : F) : SameQueue s (s.respawn fromStr seed) := by
  unfold State.respawn
  split
  · exact SameQueue.refl s
  · split
    all_goals exact ⟨rfl, rfl, rfl⟩

theorem sameQueue_authOk (s : State F) (token user : String) (seed : F) :
    SameQueue s (s.authOk fromStr token user seed) := by
  have hopened (s1 : State F) (h : SameQueue s s1) :
      SameQueue s (State.respawn fromStr
        { State.persistSession { s1 with token := some token, resuming := false } token
            s1.username with dashboard := true } seed) := by
    refine SameQueue.trans ?_ (sameQueue_respawn _ _)
    have hpersist := sameQueue_persistSession { s1 with token := some token, resuming := false }
      token s1.username
    exact ⟨hpersist.ws.trans h.ws, hpersist.pending.trans h.pending,
      hpersist.history.trans h.history⟩
  unfold State.authOk
  dsimp only
  split
  · exact hopened s (SameQueue.refl s)
  · split
    case h_1 formUser _ => exact hopened { s with username := some formUser } ⟨rfl, rfl, rfl⟩
    case h_2 => exact hopened s (SameQueue.refl s)

theorem sameQueue_handleMessage (s : State F) (m : Message F) (user : String) (seed : F) :
    SameQueue s (s.handleMessage fromStr m user seed) := by
  unfold State.handleMessage
  split
  · exact sameQueue_authOk _ _ _ _
  · exact ⟨rfl, rfl, rfl⟩
  · exact sameQueue_appendChatMessage _ _ _
  · exact sameQueue_error _ _ _
  · exact SameQueue.refl s

theorem QueueInv.counted (h : QueueInv s) : QueueInv s.counted := by
  have hlog : QueueInv (s.log (.ticked true)) := h.log rfl rfl
  unfold State.counted
  dsimp only
  split
  all_goals exact hlog.same ⟨rfl, rfl, rfl⟩

theorem QueueInv.driven (h : QueueInv s) (sim : Simulator F) : QueueInv (s.driven sim) := by
  unfold State.driven
  split
  · dsimp only
    split
    · unfold State.sendPosition
      dsimp only
      split
      · apply QueueInv.send
        exact h.counted.same ⟨rfl, rfl, rfl⟩
      · exact h.counted.same ⟨rfl, rfl, rfl⟩
    · exact h.counted
  · have hlog : QueueInv (s.log (.ticked false)) := h.log rfl rfl
    exact hlog.same ⟨rfl, rfl, rfl⟩

theorem QueueInv.tick (h : QueueInv s) : QueueInv s.tick := by
  unfold State.tick
  split
  · split
    · apply QueueInv.driven
      exact h.same ⟨rfl, rfl, rfl⟩
    · exact h.same ⟨rfl, rfl, rfl⟩
  · exact h

theorem QueueInv.next {l : Label F} (h : QueueInv s) (hnext : next fromStr s l = some s') :
    QueueInv s' := by
  have hnotOpened (ws : ReadyState) (hws : ws ≠ .opened) : some ws ≠ some .opened :=
    fun hsame => hws (Option.some.inj hsame)
  cases l with
  | loaded graphJson =>
      simp only [Page.next] at hnext
      split at hnext
      · cases hnext
        exact h.same ⟨rfl, rfl, rfl⟩
      · cases hnext
  | opened =>
      simp only [Page.next] at hnext
      split at hnext
      · cases hnext
        exact h.onOpen
      · cases hnext
  | closing =>
      simp only [Page.next] at hnext
      split at hnext
      · cases hnext
        exact h.ofWs _ (hnotOpened .closing ReadyState.noConfusion)
      · cases hnext
        exact h.ofWs _ (hnotOpened .closing ReadyState.noConfusion)
      · cases hnext
  | closed =>
      simp only [Page.next] at hnext
      split at hnext
      · cases hnext
      · cases hnext
      · cases hnext
        exact (h.ofWs _ (hnotOpened .closed ReadyState.noConfusion)).onClose
  | earlierClosed =>
      simp only [Page.next] at hnext
      split at hnext
      · cases hnext
      · cases hnext
        apply QueueInv.onClose
        exact h.same ⟨rfl, rfl, rfl⟩
  | message data user seed =>
      simp only [Page.next] at hnext
      split at hnext
      · cases hnext
        unfold onMessage
        split
        · exact (h.log rfl rfl).same (sameQueue_handleMessage _ _ _ _)
        · exact h
      · cases hnext
  | reconnect =>
      simp only [Page.next] at hnext
      split at hnext
      · cases hnext
      · cases hnext
        apply QueueInv.connect
        exact h.same ⟨rfl, rfl, rfl⟩
  | register user pass =>
      cases hnext
      unfold State.doRegister
      split
      · exact h.send _
      · exact h
  | login user pass =>
      cases hnext
      unfold State.doLogin
      split
      · exact h.send _
      · exact h
  | toggleTrip now =>
      cases hnext
      exact h.toggleTrip now
  | chat text =>
      cases hnext
      exact h.doChat text
  | stats interval =>
      cases hnext
      unfold State.doStats
      split
      · exact h.send _
      · exact h
  | quit =>
      cases hnext
      exact h.doQuit
  | tick =>
      cases hnext
      exact h.tick

end

end Wanderust.Page
