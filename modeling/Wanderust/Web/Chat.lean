import Wanderust.Web.Page

/-!
# The chat log of the page

The log shows the messages that the user has written, and of the messages that
have come in those that name another sender than the user of the moment.
-/

namespace Wanderust.Page

open Sim

variable {F : Type}

def Event.said : Event F -> Option String
  | .queued (.chatToServer _ text) => some text
  | _ => none

def Event.heard : Event F -> Option (Option String × String)
  | .received (.chatFromServer sender text) => some (sender, text)
  | _ => none

/-- A chat message that comes in, and the user of the moment. -/
structure Heard where
  user : Option String
  sender : Option String
  text : String
deriving DecidableEq

namespace Heard

def message (chat : Heard) : Option String × String := (chat.sender, chat.text)

def fromOther (chat : Heard) : Option (String × String) :=
  match truthy chat.sender with
  | none => none
  | some sender => if some sender = chat.user then none else some (sender, chat.text)

end Heard

def State.hears (s : State F) : Label F -> Option Heard
  | .message (some (.chatFromServer sender text)) _ _ =>
      some { user := s.username, sender, text }
  | _ => none

/-- What has been heard in a run is a history that the page does not read. -/
def recordHeard (s : State F) (l : Label F) (heard : List Heard) : List Heard :=
  heard ++ (s.hears l).toList

namespace ChatEntry

def own? : ChatEntry -> Option String
  | .own text => some text
  | _ => none

def html? : ChatEntry -> Option String
  | .incoming html => some html
  | _ => none

end ChatEntry

/-- What is shown and what has happened, both without all that is no chat. -/
structure Chats where
  own : List String
  html : List String
  said : List String
  received : List (Option String × String)

def State.chats (s : State F) : Chats :=
  { own := s.chatLog.filterMap ChatEntry.own?
    html := s.chatLog.filterMap ChatEntry.html?
    said := s.history.filterMap Event.said
    received := s.history.filterMap Event.heard }

/-- Every message of the user is shown, and every one of another user, in their orders. -/
structure ChatInv (c : Chats) (heard : List Heard) : Prop where
  own : c.own = c.said
  html : c.html =
    (heard.filterMap Heard.fromOther).map fun chat => State.chatHtml chat.1 chat.2
  received : c.received = heard.map Heard.message

/-! # What leaves the chat alone -/

section

variable (s : State F)

theorem chats_log {e : Event F} (hsaid : e.said = none) (hheard : e.heard = none) :
    (s.log e).chats = s.chats := by
  unfold State.chats State.log
  simp [hsaid, hheard]

theorem chats_sys (text : String) : (s.appendSysMessage text).chats = s.chats := by
  unfold State.chats State.appendSysMessage
  simp [ChatEntry.own?, ChatEntry.html?]

@[simp] theorem chats_connect : s.connect.chats = s.chats := by
  unfold State.connect
  split
  all_goals rfl

@[simp] theorem chats_clearStoredSession : s.clearStoredSession.chats = s.chats := by
  unfold State.clearStoredSession
  split
  all_goals rfl

@[simp] theorem chats_persistSession (token : String) (user : Option String) :
    (s.persistSession token user).chats = s.chats := by
  unfold State.persistSession
  split
  all_goals rfl

@[simp] theorem chats_despawn : s.despawn.chats = s.chats := by
  unfold State.despawn
  split
  all_goals rfl

@[simp] theorem chats_transmit (frame : Frame F) : (s.transmit frame).chats = s.chats :=
  chats_log s rfl rfl

theorem chats_send (msg : Message F) : (s.send msg).chats = (s.log (.queued msg)).chats := by
  unfold State.send
  dsimp only
  split
  · exact chats_transmit _ _
  · rfl
  · exact chats_connect _

theorem chats_send_other {msg : Message F} (h : Event.said (.queued msg) = none) :
    (s.send msg).chats = s.chats := by
  rw [chats_send]
  exact chats_log s h rfl

theorem chats_resume : s.resume.chats = s.chats := by
  unfold State.resume
  split
  · split
    · exact chats_transmit _ _
    · rfl
  · rfl

theorem chats_transmits (msgs : List (Message F)) :
    (msgs.foldl (fun s msg => s.transmit (.request msg)) s).chats = s.chats := by
  induction msgs generalizing s with
  | nil => rfl
  | cons msg msgs ih => exact (ih _).trans (chats_transmit s _)

theorem chats_onOpen : s.onOpen.chats = s.chats :=
  (chats_transmits _ _).trans (chats_resume _)

theorem chats_onClose : s.onClose.chats = s.chats := by
  have hclosed : ({ s.log .closed with tripActive := false } : State F).despawn.chats = s.chats :=
    (chats_despawn _).trans (chats_log s rfl rfl)
  unfold State.onClose
  dsimp only
  split
  · exact hclosed
  · exact hclosed

theorem chats_error (code message : String) : (s.error code message).chats = s.chats := by
  unfold State.error
  split
  · exact chats_clearStoredSession _
  · split
    · exact chats_sys _ _
    · rfl

theorem chats_doStart (now : Int) : (s.doStart now).chats = s.chats := by
  unfold State.doStart
  split
  · rfl
  · split
    · rfl
    · rfl
    · exact chats_send_other _ rfl

theorem chats_doEnd (now : Int) : (s.doEnd now).chats = s.chats := by
  unfold State.doEnd
  split
  · exact chats_send_other s rfl
  · rfl

theorem chats_doStats (interval : Option (Int × Int)) : (s.doStats interval).chats = s.chats := by
  unfold State.doStats
  split
  · exact chats_send_other s rfl
  · rfl

theorem chats_doQuit : s.doQuit.chats = s.chats := by
  have hforget (s1 : State F) (h : s1.chats = s.chats) :
      ({ (State.despawn (State.clearStoredSession { s1.log .quit with
          tripActive := false, token := none, tripId := none, username := none })) with
        dashboard := false } : State F).chats = s.chats := by
    refine (chats_despawn _).trans ((chats_clearStoredSession _).trans ?_)
    exact (chats_log s1 rfl rfl).trans h
  unfold State.doQuit
  dsimp only
  apply hforget
  split
  · exact chats_send_other _ rfl
  · rfl

variable {s} {heard : List Heard}

theorem ChatInv.doChat (h : ChatInv s.chats heard) (chat : String) :
    ChatInv (s.doChat chat).chats heard := by
  have hown : s.chatLog.filterMap ChatEntry.own? = s.history.filterMap Event.said := h.own
  unfold State.doChat
  split
  · exact h
  · split
    · exact h
    case h_2 token _ _ text _ =>
      rw [chats_send]
      constructor
      · show (s.chatLog ++ [ChatEntry.own text]).filterMap ChatEntry.own? =
          (s.history ++ [Event.queued (.chatToServer token text)]).filterMap Event.said
        rw [List.filterMap_append, List.filterMap_append, hown]
        rfl
      · show (s.chatLog ++ [ChatEntry.own text]).filterMap ChatEntry.html? = _
        rw [List.filterMap_append, ← h.html]
        exact List.append_nil _
      · show (s.history ++ [Event.queued (.chatToServer token text)]).filterMap Event.heard = _
        rw [List.filterMap_append, ← h.received]
        exact List.append_nil _

theorem chats_received (sender : Option String) (text : String) :
    (s.log (.received (.chatFromServer sender text))).chats =
      { s.chats with received := s.chats.received ++ [(sender, text)] } := by
  unfold State.chats State.log
  simp [Event.said, Event.heard]

theorem chats_appendChatMessage (sender : Option String) (text : String) :
    (s.appendChatMessage sender text).chats = { s.chats with
      html := s.chats.html ++ (Heard.fromOther { user := s.username, sender, text }).toList.map
        fun chat => State.chatHtml chat.1 chat.2 } := by
  unfold State.appendChatMessage Heard.fromOther
  dsimp only
  cases truthy sender with
  | none =>
      dsimp only
      rw [chats_sys, Option.toList_none, List.map_nil, List.append_nil]
  | some sender =>
      dsimp only
      by_cases hown : some sender = s.username
      · rw [if_pos hown, if_pos hown, Option.toList_none, List.map_nil, List.append_nil]
      · rw [if_neg hown, if_neg hown]
        unfold State.chats
        simp [ChatEntry.own?, ChatEntry.html?]

theorem ChatInv.hear (h : ChatInv s.chats heard) (sender : Option String) (text : String) :
    ChatInv ((s.log (.received (.chatFromServer sender text))).appendChatMessage
      sender text).chats (heard ++ [{ user := s.username, sender, text }]) := by
  rw [chats_appendChatMessage, chats_received]
  constructor
  · exact h.own
  · show s.chats.html ++ _ = _
    rw [h.html, List.filterMap_append, List.map_append, List.filterMap_cons, List.filterMap_nil]
    cases hother : Heard.fromOther { user := s.username, sender, text } with
    | none => simp [State.log, hother]
    | some chat => simp [State.log, hother]
  · show s.chats.received ++ _ = _
    rw [h.received, List.map_append]
    rfl

end

/-! # Steps -/

section

variable [Arith F] {fromStr : String -> Except String (Graph F)} (s : State F)

theorem chats_respawn (seed : F) : (s.respawn fromStr seed).chats = s.chats := by
  unfold State.respawn
  split
  · rfl
  · split
    all_goals rfl

theorem chats_authOk (token user : String) (seed : F) :
    (s.authOk fromStr token user seed).chats = s.chats := by
  unfold State.authOk
  refine (chats_respawn _ seed).trans ?_
  dsimp only
  split
  · exact chats_persistSession _ _ _
  · split
    all_goals exact chats_persistSession _ _ _

theorem chats_driven (sim : Simulator F) : (s.driven sim).chats = s.chats := by
  have hcounted : s.counted.chats = s.chats := by
    unfold State.counted
    dsimp only
    split
    all_goals exact chats_log s rfl rfl
  unfold State.driven
  split
  · dsimp only
    split
    · unfold State.sendPosition
      dsimp only
      split
      · exact (chats_send_other _ rfl).trans hcounted
      · exact hcounted
    · exact hcounted
  · exact chats_log s rfl rfl

theorem chats_tick : s.tick.chats = s.chats := by
  unfold State.tick
  split
  · split
    · exact chats_driven _ _
    · rfl
  · rfl

variable {s} {heard : List Heard}

theorem ChatInv.message (h : ChatInv s.chats heard) (m : Message F) (user : String) (seed : F) :
    ChatInv ((s.log (.received m)).handleMessage fromStr m user seed).chats
      (recordHeard s (.message (some m) user seed) heard) := by
  have hsame {s1 : State F} (hheard : Event.heard (.received m) = none)
      (hhears : s.hears (.message (some m) user seed) = none)
      (h1 : s1.chats = (s.log (.received m)).chats) :
      ChatInv s1.chats (recordHeard s (.message (some m) user seed) heard) := by
    rw [h1, chats_log s rfl hheard, recordHeard, hhears, Option.toList_none, List.append_nil]
    exact h
  unfold State.handleMessage
  split
  · exact hsame rfl rfl (chats_authOk _ _ _ _)
  · exact hsame rfl rfl rfl
  · exact h.hear _ _
  · exact hsame rfl rfl (chats_error _ _ _)
  case h_5 hchat _ =>
    have hplain : Event.heard (.received m) = none ∧
        s.hears (.message (some m) user seed) = none := by
      cases m with
      | chatFromServer sender text => exact absurd rfl (hchat sender text)
      | _ => exact ⟨rfl, rfl⟩
    exact hsame hplain.1 hplain.2 rfl

theorem ChatInv.handler {s' : State F} {l : Label F} (h : ChatInv s.chats heard)
    (hnext : Page.next fromStr s l = some s')
    (hmessage : forall data user seed, l ≠ .message data user seed) :
    ChatInv s'.chats heard := by
  have hsame (hchats : s'.chats = s.chats) : ChatInv s'.chats heard := hchats ▸ h
  cases l with
  | loaded graphJson =>
      simp only [Page.next] at hnext
      split at hnext
      · cases hnext
        exact h
      · cases hnext
  | opened =>
      simp only [Page.next] at hnext
      split at hnext
      · cases hnext
        exact hsame (chats_onOpen s)
      · cases hnext
  | closing =>
      simp only [Page.next] at hnext
      split at hnext
      · cases hnext
        exact h
      · cases hnext
        exact h
      · cases hnext
  | closed =>
      simp only [Page.next] at hnext
      split at hnext
      · cases hnext
      · cases hnext
      · cases hnext
        exact hsame (chats_onClose { s with ws := some .closed })
  | earlierClosed =>
      simp only [Page.next] at hnext
      split at hnext
      · cases hnext
      case h_2 n _ =>
        cases hnext
        exact hsame (chats_onClose { s with closingSockets := n })
  | message data user seed => exact absurd rfl (hmessage data user seed)
  | reconnect =>
      simp only [Page.next] at hnext
      split at hnext
      · cases hnext
      case h_2 n _ =>
        cases hnext
        exact hsame (chats_connect { s with reconnects := n })
  | register user pass =>
      cases hnext
      unfold State.doRegister
      split
      · rw [chats_send_other s rfl]
        exact h
      · exact h
  | login user pass =>
      cases hnext
      unfold State.doLogin
      split
      · rw [chats_send_other s rfl]
        exact h
      · exact h
  | toggleTrip now =>
      cases hnext
      unfold State.toggleTrip
      split
      · rw [chats_doStart]
        exact h
      · rw [chats_doEnd]
        exact h
  | chat text =>
      cases hnext
      exact h.doChat text
  | stats interval =>
      cases hnext
      exact hsame (chats_doStats s interval)
  | quit =>
      cases hnext
      exact hsame (chats_doQuit s)
  | tick =>
      cases hnext
      exact hsame (chats_tick s)

theorem ChatInv.next {s' : State F} {l : Label F} (h : ChatInv s.chats heard)
    (hnext : Page.next fromStr s l = some s') : ChatInv s'.chats (recordHeard s l heard) := by
  have hquiet (hinv : ChatInv s'.chats heard) (hhears : s.hears l = none) :
      ChatInv s'.chats (recordHeard s l heard) := by
    rw [recordHeard, hhears, Option.toList_none, List.append_nil]
    exact hinv
  cases l with
  | message data user seed =>
      simp only [Page.next] at hnext
      split at hnext
      · cases hnext
        cases data with
        | none => exact hquiet h rfl
        | some m => exact h.message m user seed
      · cases hnext
  | _ => exact hquiet (h.handler hnext (by simp)) rfl

end

end Wanderust.Page
