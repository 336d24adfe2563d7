import Mathlib.Data.List.Basic

/-!
# Broadcast channels

A channel that keeps the latest messages for its receivers.  Each receiver reads
all messages sent after it subscribed, unless it falls too far behind.
-/

namespace Interleaving

inductive Received (Msg Rx : Type) where
  | waiting
  | message (m : Msg) (rx : Rx)
  | lagged (missed : Nat) (rx : Rx)
  | closed

structure Broadcast (Msg : Type) where
  Chan : Type
  Rx : Type
  channel : Chan
  send : Msg -> Chan -> Chan
  subscribe : Chan -> Rx
  recv : Chan -> Rx -> Received Msg Rx

namespace Broadcast

variable {Msg : Type}

/--
The behaviour of a channel of capacity `cap` one of whose senders is alive.  The
function `unread` gives what a receiver still has to read, and nothing for what
is no receiver of the channel.
-/
structure Lawful (B : Broadcast Msg) (cap : Nat) (unread : B.Chan -> B.Rx -> Option (List Msg)) :
    Prop where
  unread_subscribe : forall chan, unread chan (B.subscribe chan) = some []
  unread_send : forall {chan rx ms} m, unread chan rx = some ms ->
    unread (B.send m chan) rx = some (ms ++ [m])
  recv_nil : forall {chan rx}, unread chan rx = some [] -> B.recv chan rx = .waiting
  recv_cons : forall {chan rx m ms}, unread chan rx = some (m :: ms) -> ms.length < cap ->
    exists rx', B.recv chan rx = .message m rx' ∧ unread chan rx' = some ms
  recv_lagged : forall {chan rx ms}, unread chan rx = some ms -> cap < ms.length ->
    exists n rx', B.recv chan rx = .lagged n rx' ∧
      unread chan rx' = some (ms.drop (ms.length - cap))

section

variable {B : Broadcast Msg} {cap : Nat} {unread : B.Chan -> B.Rx -> Option (List Msg)}
variable {chan : B.Chan} {rx : B.Rx} {ms : List Msg}

/-- A receiver waits, reads its first message, or goes on with the last `cap` of them. -/
theorem Lawful.recv_cases (h : B.Lawful cap unread) (hunread : unread chan rx = some ms) :
    (ms = [] ∧ B.recv chan rx = .waiting) ∨
      (exists m rest rx', ms = m :: rest ∧ B.recv chan rx = .message m rx' ∧
        unread chan rx' = some rest) ∨
      (cap < ms.length ∧ exists n rx', B.recv chan rx = .lagged n rx' ∧
        unread chan rx' = some (ms.drop (ms.length - cap))) := by
  rcases Nat.lt_or_ge cap ms.length with hlag | hlag
  · exact Or.inr (Or.inr ⟨hlag, h.recv_lagged hunread hlag⟩)
  · cases ms with
    | nil => exact Or.inl ⟨rfl, h.recv_nil hunread⟩
    | cons m rest =>
        rcases h.recv_cons hunread hlag with ⟨rx', hrecv, hrest⟩
        exact Or.inr (Or.inl ⟨m, rest, rx', rfl, hrecv, hrest⟩)

end

/-! # A channel that keeps its history -/

/-- The channel keeps all messages, and a receiver is the number of those it has passed. -/
@[reducible] def history (Msg : Type) (cap : Nat) : Broadcast Msg where
  Chan := List Msg
  Rx := Nat
  channel := []
  send m chan := chan ++ [m]
  subscribe chan := chan.length
  recv chan rx :=
    if cap < chan.length - rx then .lagged (chan.length - cap - rx) (chan.length - cap)
    else
      match chan[rx]? with
      | some m => .message m (rx + 1)
      | none => .waiting

def historyUnread (chan : List Msg) (rx : Nat) : Option (List Msg) :=
  if rx ≤ chan.length then some (chan.drop rx) else none

theorem historyUnread_eq_some {chan ms : List Msg} {rx : Nat} :
    historyUnread chan rx = some ms <-> rx ≤ chan.length ∧ chan.drop rx = ms := by
  simp [historyUnread]

theorem history_lawful (cap : Nat) : (history Msg cap).Lawful cap historyUnread where
  unread_subscribe := by
    intro chan
    rw [historyUnread_eq_some]
    exact ⟨Nat.le_refl _, List.drop_length⟩
  unread_send := by
    intro chan rx ms m h
    rw [historyUnread_eq_some] at h ⊢
    rcases h with ⟨hle, rfl⟩
    refine ⟨?_, List.drop_append_of_le_length hle⟩
    rw [List.length_append]
    exact Nat.le_add_right_of_le hle
  recv_nil := by
    intro chan rx h
    rw [historyUnread_eq_some] at h
    rcases h with ⟨hle, hdrop⟩
    have hlen := List.drop_eq_nil_iff.mp hdrop
    simp [hlen]
  recv_cons := by
    intro chan rx m ms h hlen
    rw [historyUnread_eq_some] at h
    rcases h with ⟨hle, hdrop⟩
    have hlength := congrArg List.length hdrop
    rw [List.length_drop, List.length_cons] at hlength
    have hget : chan[rx]? = some m := by
      rw [← List.head?_drop, hdrop]
      rfl
    refine ⟨rx + 1, ?_, ?_⟩
    · simp only [hget, hlength, if_neg (Nat.not_lt.mpr hlen)]
    · rw [historyUnread_eq_some]
      refine ⟨by omega, ?_⟩
      rw [← List.drop_drop, hdrop]
      rfl
  recv_lagged := by
    intro chan rx ms h hlag
    rw [historyUnread_eq_some] at h
    rcases h with ⟨hle, rfl⟩
    rw [List.length_drop] at hlag ⊢
    refine ⟨_, _, if_pos hlag, ?_⟩
    rw [historyUnread_eq_some, List.drop_drop]
    refine ⟨Nat.sub_le _ _, ?_⟩
    congr 1
    omega

end Broadcast

end Interleaving
