import Wanderust.Session.Conditions

/-!
# The authorization frame

The steps of a handler or of the cleanup touch only the trips and the sessions
of the user who was logged in when it started.
-/

namespace Wanderust

open Interleaving

variable {F : Type} {c : ConnId} {s s' : State F}

/-- The change is confined to the trips and the sessions of the user. -/
structure ConfinedTo (user : Option String) (s s' : State F) : Prop where
  trips : forall id, s'.trips.lookup id ≠ s.trips.lookup id ->
    exists u, user = some u ∧ TripOf s' id u ∧
      forall row, s.trips.lookup id = some row -> row.username = u
  positions : forall id ts, s'.positions.lookup (id, ts) ≠ s.positions.lookup (id, ts) ->
    exists u, user = some u ∧ TripOf s id u
  coords : forall id, s'.lastCoordinates.lookup id ≠ s.lastCoordinates.lookup id ->
    exists u, user = some u ∧ TripOf s id u
  sessions : forall token u, s.sessions.lookup token = some u ->
    s'.sessions.lookup token ≠ some u -> user = some u

structure Unchanged (s s' : State F) : Prop where
  trips : s'.trips = s.trips
  positions : s'.positions = s.positions
  coords : s'.lastCoordinates = s.lastCoordinates
  statuses : s'.statuses = s.statuses
  sinks : s'.sinks = s.sinks

/-- The request carries a token, and it is not a token of the user of the connection. -/
def Unauthorized (c : ConnId) (start : State F) (item : Incoming F) : Prop :=
  exists token, item.token? = some token ∧
    (start.userState c = none ∨ start.sessions.lookup token ≠ start.userState c)

theorem Guar.confined {A : Regime} {e : Entry} (h : Guar A e s s') : ConfinedTo e.user s s' where
  trips := h.trips
  positions := by
    intro id ts hchanged
    rcases h.positions id ts hchanged with ⟨_, u, huser, hopen, _⟩
    exact ⟨u, huser, hopen.tripOf⟩
  coords := h.coords
  sessions := h.sessions

theorem Guar.unchanged {A : Regime} {e : Entry} (h : Guar A e s s') (hquiet : e.quiet) :
    Unchanged s s' := by
  rcases h.quiet hquiet with ⟨htrips, hpositions, hcoords, hstatuses, hsinks⟩
  exact ⟨htrips, hpositions, hcoords, hstatuses, hsinks⟩

theorem authorization_frame [Geo F] [Bcrypt] (users : Users) (trips : Trips)
    (positions : Positions F) (w w' : World F) (c : ConnId) (ch : Choice)
    (hreach : Reachable DistinctTokens (World.boot users trips positions) w)
    (htokens : DistinctTokens w (.step c ch)) (hnext : w.next (.step c ch) = some w') :
    (exists start item p, w.tasks c = .handling start item p ∧
      ConfinedTo (start.userState c) w.state w'.state ∧
      (Unauthorized c start item -> Unchanged w.state w'.state)) ∨
    (exists start p, w.tasks c = .cleaning start p ∧
      ConfinedTo (start.userState c) w.state w'.state) := by
  have hworld : WorldInv Regime.any w :=
    worldInv_reachable (worldInv_boot False.elim (fun _ => False.elim))
      (hreach.mono fun _ _ => permits_any)
  rcases (step_cases hworld (permits_any htokens) hnext).2 with ⟨e, hkeeps, he⟩
  rcases he with ⟨start, item, p, htask, rfl⟩ | ⟨start, p, htask, rfl⟩
  · exact Or.inl ⟨start, item, p, htask, hkeeps.own.confined, hkeeps.own.unchanged⟩
  · exact Or.inr ⟨start, p, htask, hkeeps.own.confined⟩

section

attribute [local instance] plainBcrypt

/-- A client who is not logged in uses the token of another connection. -/
noncomputable def forgedWorld : World ℝ :=
  (World.boot ∅ ∅ ∅).after freshCheck
    (registerUntilReply 0 "u" "t1" ++ stepsOf 0 1 ++
      [.accept 1, .receive 1 (.message (.endTrip "t1" 1 5))])

theorem authorization_frame_forged :
    exists w', forgedWorld.next (.step 1 (Choice.drawing "")) = some w' ∧
      ((exists start item p, forgedWorld.tasks 1 = .handling start item p ∧
        ConfinedTo (start.userState 1) forgedWorld.state w'.state ∧
        (Unauthorized 1 start item -> Unchanged forgedWorld.state w'.state)) ∨
      (exists start p, forgedWorld.tasks 1 = .cleaning start p ∧
        ConfinedTo (start.userState 1) forgedWorld.state w'.state)) :=
  ⟨_, rfl, authorization_frame ∅ ∅ ∅ forgedWorld _ 1 (Choice.drawing "")
    (reach_after (fun _ _ => distinctTokens_of_check) _ _)
    (distinctTokens_of_check rfl) rfl⟩

end

end Wanderust
