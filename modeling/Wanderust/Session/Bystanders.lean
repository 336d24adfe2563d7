import Wanderust.Server.OwnSteps
import Wanderust.Session.StoreRules

/-!
# Bystanders

What a step of one connection leaves alone of the others: their task, their
traffic, their user, and the tokens that they have drawn.
-/

namespace Wanderust

open Interleaving Prog

variable {F : Type} [Geo F] [Bcrypt] {c c' : ConnId} {ch : Choice} {o : Op F} {s s' : State F}

theorem exec_traffic_again (h : exec c ch o s = .again s') : s'.traffic = s.traffic := by
  by_cases ho : o = .drawFreshToken
  · subst ho
    simp only [exec] at h
    split at h
    · cases h
    · cases h
      rfl
  · exact absurd h (exec_not_again ho)

theorem exec_traffic_of_ne {r : o.Ret} (h : exec c ch o s = .done r s') (hne : c' ≠ c) :
    s'.traffic c' = s.traffic c' := by
  cases o with
  | send msg =>
      simp only [exec] at h
      split at h
      · cases h
        exact s.log_traffic_of_ne _ hne
      · cases h
        exact s.log_traffic_of_ne _ hne
  | sendClose =>
      simp only [exec] at h
      split at h
      · cases h
        rfl
      · cases h
        exact s.log_traffic_of_ne _ hne
  | _ =>
      simp only [exec, answerQuery] at h
      repeat' split at h
      all_goals
        cases h
        try rfl

theorem next_step_of_ne {w w' : World F} (hne : c' ≠ c) (hnext : w.next (.step c ch) = some w') :
    w'.tasks c' = w.tasks c' ∧ w'.state.traffic c' = w.state.traffic c' := by
  constructor
  · rcases next_step_setTask hnext with ⟨s, t, rfl⟩
    exact setTask_tasks_of_ne _ _ _ hne
  · rcases executes_of_next hnext with ⟨o, _, ⟨r, hdone⟩ | hagain⟩
    · exact exec_traffic_of_ne hdone hne
    · rw [exec_traffic_again hagain]

theorem executes_drawn (h : Executes c ch o s s') {t : String × ConnId} (ht : t ∈ s.drawn) :
    t ∈ s'.drawn := by
  cases o with
  | drawFreshToken =>
      simp only [Executes, exec] at h
      split at h
      · rcases h with ⟨r, hdone⟩ | hagain
        · cases hdone
          exact List.mem_cons_of_mem _ ht
        · cases hagain
      · rcases h with ⟨r, hdone⟩ | hagain
        · cases hdone
        · cases hagain
          exact List.mem_cons_of_mem _ ht
  | _ =>
      have hsame : s'.drawn = s.drawn := by
        simp only [Executes, exec, answerQuery] at h
        grind [State.log]
      rw [hsame]
      exact ht

theorem executes_userState_of_ne (h : Executes c ch o s s') (hne : c' ≠ c) :
    s'.userState c' = s.userState c' := by
  cases o with
  | setUserState user =>
      rcases h with ⟨r, hdone⟩ | hagain
      · cases hdone
        exact Function.update_of_ne hne _ _
      · cases hagain
  | _ =>
      have hsame : s'.userState = s.userState := by
        simp only [Executes, exec, answerQuery] at h
        grind [State.log]
      rw [hsame]

theorem executes_traffic_of_ne (h : Executes c ch o s s') (hne : c' ≠ c) :
    s'.traffic c' = s.traffic c' := by
  rcases h with ⟨r, hdone⟩ | hagain
  · exact exec_traffic_of_ne hdone hne
  · rw [exec_traffic_again hagain]

/-- The state of a connection is as it was, as far as only the connection itself changes it. -/
structure StandsBy (c : ConnId) (s s' : State F) : Prop where
  user : s'.userState c = s.userState c
  traffic : s'.traffic c = s.traffic c
  drawn : forall t, t ∈ s.drawn -> t ∈ s'.drawn

theorem next_ofOther {w w' : World F} {l : Label F} (hl : l.ofOther c = true)
    (hnext : w.next l = some w') : w'.tasks c = w.tasks c ∧ StandsBy c w.state w'.state := by
  cases l with
  | accept c' =>
      rcases accept_of_next hnext with ⟨_, rfl⟩
      exact ⟨setTask_tasks_of_ne _ _ _ (ofOther_accept.mp hl), rfl, rfl, fun _ h => h⟩
  | receive c' item =>
      have hne := ofOther_receive.mp hl
      rcases receive_of_next hnext with ⟨_, rfl⟩
      exact ⟨setTask_tasks_of_ne _ _ _ hne, rfl, State.log_traffic_of_ne _ _ hne, fun _ h => h⟩
  | step c' ch =>
      have hne := ofOther_step.mp hl
      rcases executes_of_next hnext with ⟨o, _, hexec⟩
      exact ⟨(next_step_of_ne hne hnext).1, executes_userState_of_ne hexec hne,
        executes_traffic_of_ne hexec hne, fun _ => executes_drawn hexec⟩
  | restart => cases hl

end Wanderust
