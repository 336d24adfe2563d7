import Wanderust.Session.Conditions

/-!
# A single session per user

Whatever fails and however the connections interleave, a user has at most one
token, and a connection that waits for its next frame holds the session that it
was told about last.
-/

namespace Wanderust

open Interleaving

variable {F : Type} {w : World F}

section

variable [Geo F] [Bcrypt]

theorem idle_settled {A : Regime} {c : ConnId} (h : WorldInv A w) (hidle : w.tasks c = .idle) :
    exists v : View F, v.Idle A ∧ Local A c v w.state := by
  have htask := h.tasks c
  rw [hidle] at htask
  exact htask

theorem idle_session {A : Regime} {c : ConnId} {username : String} (h : WorldInv A w)
    (hidle : w.tasks c = .idle) (huser : w.state.userState c = some username) :
    exists token, lastIssued (w.state.traffic c) = some token ∧
      Holds w.state c token username := by
  rcases idle_settled h hidle with ⟨v, hv, hlocal⟩
  rw [hlocal.user] at huser
  rcases hv.settled.own_of_user huser with ⟨token, hown, _, _⟩
  have hmem : (token, username) ∈ v.own := by
    rw [hown]
    exact List.mem_singleton_self _
  refine ⟨token, ?_, (hlocal.own token username).mpr hmem⟩
  rw [hlocal.log]
  exact hv.issued token username hmem

theorem single_session (users : Users) (trips : Trips) (positions : Positions F) (w : World F)
    (h : Reachable DistinctTokens (World.boot users trips positions) w) :
    (forall t t' u, w.state.sessions.lookup t = some u ->
      w.state.sessions.lookup t' = some u -> t = t') ∧
    (forall c c' u, w.tasks c = .idle -> w.tasks c' = .idle ->
      w.state.userState c = some u -> w.state.userState c' = some u -> c = c') ∧
    (forall c u, w.tasks c = .idle -> w.state.userState c = some u ->
      exists t, lastIssued (w.state.traffic c) = some t ∧
        w.state.sessions.lookup t = some u) := by
  have hworld : WorldInv Regime.any w :=
    worldInv_reachable (worldInv_boot False.elim (fun _ => False.elim))
      (h.mono fun _ _ => permits_any)
  refine ⟨?_, ?_, ?_⟩
  · intro t t' u ht ht'
    exact hworld.inv.one_token ht ht'
  · intro c c' u hidle hidle' huser huser'
    rcases idle_session hworld hidle huser with ⟨t, _, hheld⟩
    rcases idle_session hworld hidle' huser' with ⟨t', _, hheld'⟩
    exact hworld.inv.owner_unique ⟨t, hheld⟩ ⟨t', hheld'⟩
  · intro c u hidle huser
    rcases idle_session hworld hidle huser with ⟨t, hissued, hheld⟩
    exact ⟨t, hissued, hheld.1⟩

end

section

attribute [local instance] plainBcrypt

noncomputable def registeredWorld : World ℝ :=
  (World.boot ∅ ∅ ∅).after freshCheck (registerUntilReply 0 "u" "t1" ++ stepsOf 0 1)

theorem single_session_registered :
    registeredWorld.tasks 0 = .idle ∧ registeredWorld.state.userState 0 = some "u" ∧
      exists t, lastIssued (registeredWorld.state.traffic 0) = some t ∧
        registeredWorld.state.sessions.lookup t = some "u" :=
  ⟨rfl, rfl, (single_session ∅ ∅ ∅ registeredWorld
    (reach_after (fun _ _ => distinctTokens_of_check) _ _)).2.2 0 "u" rfl rfl⟩

end

end Wanderust
