import Wanderust.Session.TripRules

/-!
# Transcripts and settled views

What a connection looks like between two requests: nobody is logged in, or one
user is, with the session that was issued last.  The traffic up to that point
consists of complete exchanges.
-/

namespace Wanderust

open Interleaving

variable {F : Type}

/-! # Exchanges -/

/-- The kinds of reply that a request can have. -/
def Incoming.admits (item : Incoming F) : Message F -> Prop
  | .error _ _ => True
  | .authOk _ =>
      exists username password,
        item = .message (.login username password) ∨ item = .message (.register username password)
  | .tripStarted _ _ _ _ => exists token lat lon ts, item = .message (.startTrip token lat lon ts)
  | .statsResult .. => exists token fromTs toTs, item = .message (.stats token fromTs toTs)
  | .ack =>
      (exists token tripId lat lon ts, item = .message (.position token tripId lat lon ts)) ∨
      (exists token tripId ts, item = .message (.endTrip token tripId ts)) ∨
      (exists token text, item = .message (.chatToServer token text)) ∨
      exists token, item = .message (.disconnect token)
  | _ => False

/-- A reply of the right kind; a position of a trip lost from memory is refused. -/
structure Answers (A : Regime) (item : Incoming F) (msg : Message F) : Prop where
  admits : item.admits msg
  lost : forall token tripId lat lon ts, item = .message (.position token tripId lat lon ts) ->
    A.lost tripId -> exists code text, msg = .error code text

theorem answers_error (A : Regime) (item : Incoming F) (code text : String) :
    Answers A item (.error code text) where
  admits := trivial
  lost := fun _ _ _ _ _ _ _ => ⟨code, text, rfl⟩

theorem answers_of_admits {A : Regime} {item : Incoming F} {msg : Message F}
    (h : item.admits msg)
    (hne : forall token tripId lat lon ts, item ≠ .message (.position token tripId lat lon ts)) :
    Answers A item msg where
  admits := h
  lost := fun token tripId lat lon ts heq => absurd heq (hne token tripId lat lon ts)

/-- Items that the dispatcher skips without a reply. -/
def Incoming.silent (item : Incoming F) : Prop := item = .empty ∨ item = .pingPong

/-- The traffic of a connection that waits for its next frame. -/
inductive Transcript (A : Regime) : List (Event F) -> Prop where
  | nil : Transcript A []
  | silent {log : List (Event F)} {item : Incoming F} :
      Transcript A log -> item.silent -> Transcript A (log ++ [.received item])
  | answered {log : List (Event F)} {item : Incoming F} {msg : Message F} :
      Transcript A log -> Answers A item msg ->
      Transcript A (log ++ [.received item, .sent msg])

theorem Transcript.no_failure {A : Regime} {log : List (Event F)} (h : Transcript A log)
    (msg : Message F) : Event.sendFailed msg ∉ log := by
  induction h with
  | nil => exact List.not_mem_nil
  | silent _ _ ih => simpa using ih
  | answered _ _ ih => simpa using ih

/-! # Issued tokens -/

def Event.issued? : Event F -> Option String
  | .sent (.authOk token) => some token
  | _ => none

def lastIssued (log : List (Event F)) : Option String :=
  log.reverse.findSome? Event.issued?

theorem lastIssued_authOk (log : List (Event F)) (item : Incoming F) (token : String) :
    lastIssued (log ++ [.received item, .sent (.authOk token)]) = some token := by
  simp [lastIssued, Event.issued?, List.findSome?_cons]

theorem lastIssued_other (log : List (Event F)) (item : Incoming F) {msg : Message F}
    (hmsg : forall token, msg ≠ .authOk token) :
    lastIssued (log ++ [.received item, .sent msg]) = lastIssued log := by
  cases msg with
  | authOk token => exact absurd rfl (hmsg token)
  | _ => simp [lastIssued, Event.issued?, List.findSome?_cons]

theorem lastIssued_received (log : List (Event F)) (item : Incoming F) :
    lastIssued (log ++ [.received item]) = lastIssued log := by
  simp [lastIssued, Event.issued?, List.findSome?_cons]

/-! # Settled views -/

/-- Nobody is logged in, or one user with one session; no trip is half closed. -/
structure View.Settled (v : View F) : Prop where
  gap : v.gap = []
  shape :
    (v.user = none ∧ v.own = [] ∧ v.statuses = [] ∧ v.sinks = []) ∨
    exists username token, v.user = some username ∧ v.own = [(token, username)] ∧
      v.statuses = [username] ∧ v.sinks = [username]

def View.Issued (v : View F) : Prop :=
  forall token username, (token, username) ∈ v.own -> lastIssued v.log = some token

structure View.Idle (A : Regime) (v : View F) : Prop where
  settled : v.Settled
  issued : v.Issued
  transcript : Transcript A v.log

theorem settled_anonymous (log : List (Event F)) : (View.anonymous log).Settled where
  gap := rfl
  shape := Or.inl ⟨rfl, rfl, rfl, rfl⟩

theorem settled_loggedIn (username token : String) (log : List (Event F)) :
    (View.loggedIn username token log).Settled where
  gap := rfl
  shape := Or.inr ⟨username, token, rfl, rfl, rfl, rfl⟩

/-- The view without what a handler has found out in between. -/
def View.strip (v : View F) : View F :=
  { user := v.user, own := v.own, statuses := v.statuses, sinks := v.sinks, log := v.log,
    gap := v.gap }

theorem Local.strip {A : Regime} {c : ConnId} {v : View F} {s : State F}
    (h : Local A c v s) : Local A c v.strip s :=
  { h with
    fresh := fun _ ht => by cases ht
    known := fun _ hu => by cases hu
    openIn := fun _ hl => by cases hl
    mine := fun _ hid => by cases hid
    opened := fun _ hid => by cases hid
    untracked := fun _ hid => by cases hid }

/-- Everything but the session itself may be forgotten. -/
theorem Local.forget {A : Regime} {c : ConnId} {v : View F} {s : State F}
    (h : Local A c v s) (hsettled : v.Settled) :
    (v.user = none ∧ Local A c (View.anonymous v.log) s) ∨
      exists username token, v.own = [(token, username)] ∧
        Local A c (View.loggedIn username token v.log) s := by
  have hstrip := h.strip
  rcases hsettled.shape with ⟨hu, ho, hst, hsk⟩ | ⟨username, token, hu, ho, hst, hsk⟩
  · left
    rw [View.strip, hu, ho, hst, hsk, hsettled.gap] at hstrip
    exact ⟨hu, hstrip⟩
  · right
    rw [View.strip, hu, ho, hst, hsk, hsettled.gap] at hstrip
    exact ⟨username, token, ho, hstrip⟩

/-! # The end of a handler -/

/-- How the view and the traffic look when the handler of `item` ends. -/
def HandlerEnd (A : Regime) (c : ConnId) (item : Incoming F) (log : List (Event F))
    (flow : Flow) (v : View F) : Prop :=
  match flow with
  | .next => v.Idle A
  | .leave =>
      v.Settled ∧
        (v.log = log ++ [.received item] ∨
          exists msg close, Answers A item msg ∧ CloseTrace close ∧
            v.log = log ++ .received item :: .sent msg :: close)
  | .abort =>
      v.Settled ∧ ¬ A.sendOk c ∧
        exists msg, v.log = log ++ [.received item, .sendFailed msg]

end Wanderust
