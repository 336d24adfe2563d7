import Wanderust.Properties.SingleSession

/-!
# Agreement of the registries

The sessions, the statuses and the sinks name the same users, as long as no
account switch takes an entry from a connection that holds the session.
-/

namespace Wanderust

open Interleaving

variable {F : Type} {w : World F} {c : ConnId} {username : String}

def LiveUser (w : World F) (username : String) : Prop :=
  exists c, w.tasks c = .idle ∧ w.state.userState c = some username

structure RegistriesAgree (w : World F) : Prop where
  sessions : forall username, HasSession w.state username <-> LiveUser w username
  statuses : forall username, w.state.statuses.lookup username ≠ none <-> LiveUser w username
  sinks : forall username, w.state.sinks.lookup username ≠ none <-> LiveUser w username
  sink_of : forall c username, w.tasks c = .idle -> w.state.userState c = some username ->
    w.state.sinks.lookup username = some c

/-- Nothing fails, and no switch takes the entries of a session holder. -/
def Regime.orderly : Regime where
  sqlOk := fun _ => True
  sendOk := fun _ => True
  switchOk := True
  tripsOk := False
  tripsOk_sql := False.elim
  lost := fun _ => False

theorem permits_orderly {l : Label F} (h : NoFailure w l)
    (hswitch : OnStep (fun c _ o s => SwitchRemoves s c o) w l) :
    Regime.orderly.Permits w l := by
  refine permits_of_step ?_ (fun _ => not_false)
  intro c ch hl o ho
  exact ⟨h.tokens c ch hl o ho, fun _ => h.sql c c ch hl o ho rfl,
    fun _ => h.send c c ch hl o ho rfl, fun _ => hswitch c ch hl o ho, False.elim⟩

/-- Only an account switch can violate the condition: elsewhere the session is still held. -/
theorem switchRemoves_of_owns {A : Regime} {s : State F} (hinv : Inv A s)
    (hown : Owns s c username) :
    SwitchRemoves s c (.statusRemove username) ∧ SwitchRemoves s c (.sinksRemove username) := by
  constructor
  · intro u c' hne hown'
    have hother := hinv.owned_ne hne hown hown'
    refine ⟨?_, fun h => by cases h⟩
    intro h
    cases h
    exact absurd rfl hother
  · intro u c' hne hown'
    have hother := hinv.owned_ne hne hown hown'
    refine ⟨fun h => (by cases h), ?_⟩
    intro h
    cases h
    exact absurd rfl hother

section

variable [Geo F] [Bcrypt]

theorem quiescent_cases (h : WorldInv Regime.orderly w) (hquiet : w.Quiescent) (c : ConnId) :
    exists v : View F, Local Regime.orderly c v w.state ∧
      ((v.own = [] ∧ v.statuses = [] ∧ v.sinks = []) ∨
        exists username token, w.tasks c = .idle ∧ v.user = some username ∧
          v.own = [(token, username)] ∧ v.statuses = [username] ∧ v.sinks = [username]) := by
  have htask := h.tasks c
  rcases hquiet c with hc | hc | hc
  · rw [hc] at htask
    exact ⟨_, htask, Or.inl ⟨rfl, rfl, rfl⟩⟩
  · rw [hc] at htask
    rcases htask with ⟨v, hidle, hlocal⟩
    rcases hidle.settled.shape with ⟨_, hown, hstatuses, hsinks⟩ | ⟨u, t, hv⟩
    · exact ⟨v, hlocal, Or.inl ⟨hown, hstatuses, hsinks⟩⟩
    · exact ⟨v, hlocal, Or.inr ⟨u, t, hc, hv⟩⟩
  · rw [hc] at htask
    rcases htask with ⟨v, hlocal, _, hv⟩
    exact ⟨v, hlocal, Or.inl (hv trivial)⟩

theorem liveUser_of_trace (h : WorldInv Regime.orderly w) (hquiet : w.Quiescent)
    (htrace : Owns w.state c username ∨ w.state.statusBy username = some c ∨
      w.state.sinks.lookup username = some c) :
    w.tasks c = .idle ∧ w.state.userState c = some username := by
  rcases quiescent_cases h hquiet c with ⟨v, hlocal, hv⟩
  have hmem : (exists t, (t, username) ∈ v.own) ∨ username ∈ v.statuses ∨ username ∈ v.sinks := by
    rcases htrace with hown | hstatus | hsink
    · exact Or.inl ((hlocal.owns_iff username).mp hown)
    · exact Or.inr (Or.inl (hlocal.statuses_le username hstatus))
    · exact Or.inr (Or.inr (hlocal.sinks_le username hsink))
  rcases hv with ⟨hown, hstatuses, hsinks⟩ | ⟨u, t, hidle, huser, hown, hstatuses, hsinks⟩
  · rw [hown, hstatuses, hsinks] at hmem
    rcases hmem with ⟨t, ht⟩ | hmem | hmem
    · cases ht
    · cases hmem
    · cases hmem
  · have heq : username = u := by
      rw [hown, hstatuses, hsinks] at hmem
      rcases hmem with ⟨t', ht'⟩ | hmem | hmem
      · cases List.mem_singleton.mp ht'
        rfl
      · exact List.mem_singleton.mp hmem
      · exact List.mem_singleton.mp hmem
    rw [hlocal.user, heq]
    exact ⟨hidle, huser⟩

theorem entries_of_live (h : WorldInv Regime.orderly w) (hidle : w.tasks c = .idle)
    (huser : w.state.userState c = some username) :
    Owns w.state c username ∧ Shown w.state c username ∧
      w.state.sinks.lookup username = some c := by
  rcases idle_settled h hidle with ⟨v, hv, hlocal⟩
  rcases hv.settled.own_of_user (hlocal.user.symm.trans huser) with
    ⟨t, hown, hstatuses, hsinks⟩
  have howns : Owns w.state c username :=
    hlocal.owns (by rw [hown]; exact List.mem_singleton_self _)
  exact ⟨howns, hlocal.statuses_ge trivial username (by simp [hstatuses]) howns,
    hlocal.sinks_ge trivial username (by simp [hsinks]) howns⟩

theorem agree_of_worldInv (h : WorldInv Regime.orderly w) (hquiet : w.Quiescent) :
    RegistriesAgree w := by
  constructor
  · intro u
    constructor
    · intro h
      rcases h with ⟨t, ht⟩
      rcases h.inv.session_drawn ht with ⟨c, hdrawn⟩
      exact ⟨c, liveUser_of_trace h hquiet (Or.inl ⟨t, ht, hdrawn⟩)⟩
    · intro h
      rcases h with ⟨c, hidle, huser⟩
      exact (entries_of_live h hidle huser).1.hasSession
  · intro u
    constructor
    · intro hstatus
      rcases h.inv.status_written hstatus with ⟨c, hc⟩
      exact ⟨c, liveUser_of_trace h hquiet (Or.inr (Or.inl hc))⟩
    · intro h
      rcases h with ⟨c, hidle, huser⟩
      exact (entries_of_live h hidle huser).2.1.2
  · intro u
    constructor
    · intro hsink
      rcases Option.ne_none_iff_exists'.mp hsink with ⟨c, hc⟩
      exact ⟨c, liveUser_of_trace h hquiet (Or.inr (Or.inr hc))⟩
    · intro h
      rcases h with ⟨c, hidle, huser⟩
      rw [(entries_of_live h hidle huser).2.2]
      exact Option.some_ne_none c
  · intro c u hidle huser
    exact (entries_of_live h hidle huser).2.2

theorem registries_agree (users : Users) (trips : Trips) (positions : Positions F)
    (w : World F)
    (hreach : Reachable
      (fun w l => NoFailure w l ∧ OnStep (fun c _ o s => SwitchRemoves s c o) w l)
      (World.boot users trips positions) w)
    (hquiet : w.Quiescent) : RegistriesAgree w := by
  refine agree_of_worldInv (worldInv_reachable
    (worldInv_boot False.elim (fun _ => False.elim)) (hreach.mono ?_)) hquiet
  intro w l h
  exact permits_orderly h.1 h.2

end

/-! # Account switches -/

/-- Statuses and sinks are removed by the connection that wrote them. -/
def ownEntriesCheck (w : World F) : Label F -> Bool
  | .step c _ =>
      match (w.tasks c).nextOp with
      | some (.statusRemove username) => decide (w.state.statusBy username = some c)
      | some (.sinksRemove username) => decide (w.state.sinks.lookup username = some c)
      | _ => true
  | _ => true

theorem switchRemoves_of_check {l : Label F} (h : ownEntriesCheck w l = true) :
    OnStep (fun c _ o s => SwitchRemoves s c o) w l := by
  intro c ch hl o ho username c' hne _
  rw [hl] at h
  constructor
  · intro hremove
    rw [hremove] at ho
    simp only [ownEntriesCheck, ho, decide_eq_true_eq] at h
    intro hshown
    exact hne (Option.some.inj (hshown.1.symm.trans h))
  · intro hremove
    rw [hremove] at ho
    simp only [ownEntriesCheck, ho, decide_eq_true_eq] at h
    intro hsink
    exact hne (Option.some.inj (hsink.symm.trans h))

section

attribute [local instance] plainBcrypt

/-- The first connection registers `u`, and then switches to `v`. -/
def undisturbedSwitch : List (Label ℝ) :=
  registerUntilReply 0 "u" "t1" ++ stepsOf 0 1 ++
    [.receive 0 (.message (.register "v" "pass"))] ++ stepsOf 0 5 ++
    [.step 0 (Choice.drawing "t2")] ++ stepsOf 0 8

noncomputable def switchedWorld : World ℝ :=
  (World.boot ∅ ∅ ∅).after (fun w l => calmCheck w l && ownEntriesCheck w l) undisturbedSwitch

theorem registries_agree_after_switch :
    switchedWorld.state.userState 0 = some "v" ∧ RegistriesAgree switchedWorld := by
  refine ⟨rfl, registries_agree ∅ ∅ ∅ switchedWorld (reach_after ?_ _ _) ?_⟩
  · intro w l h
    rw [Bool.and_eq_true] at h
    exact ⟨noFailure_of_check h.1, switchRemoves_of_check h.2⟩
  · intro c
    rcases c with _ | c
    · have hidle : switchedWorld.tasks 0 = .idle := by rfl
      exact Or.inr (Or.inl hidle)
    · have hunopened : switchedWorld.tasks (c + 1) = .unopened := by rfl
      exact Or.inl hunopened

/--
The first connection switches from `u` to `v`; after it has dropped the session
of `u` and before it removes his entries, `u` logs in on the second connection.
-/
def lateRemoval : List (Label ℝ) :=
  registerUntilReply 0 "u" "t1" ++ stepsOf 0 1 ++
    [.receive 0 (.message (.register "v" "pass"))] ++ stepsOf 0 5 ++
    [.step 0 (Choice.drawing "t2")] ++ stepsOf 0 2 ++
    [.accept 1, .receive 1 (.message (.login "u" "pass"))] ++ stepsOf 1 3 ++
    [.step 1 (Choice.drawing "t3")] ++ stepsOf 1 5 ++ stepsOf 0 6

noncomputable def lateRemovalWorld : World ℝ :=
  (World.boot ∅ ∅ ∅).after calmCheck lateRemoval

theorem registries_disagree :
    Reachable NoFailure (World.boot ∅ ∅ ∅) lateRemovalWorld ∧ lateRemovalWorld.Quiescent ∧
      ¬ RegistriesAgree lateRemovalWorld := by
  refine ⟨reach_after (fun _ _ => noFailure_of_check) _ _, ?_, ?_⟩
  · intro c
    rcases c with _ | _ | c
    · have hidle : lateRemovalWorld.tasks 0 = .idle := by rfl
      exact Or.inr (Or.inl hidle)
    · have hidle : lateRemovalWorld.tasks 1 = .idle := by rfl
      exact Or.inr (Or.inl hidle)
    · have hunopened : lateRemovalWorld.tasks (c + 2) = .unopened := by rfl
      exact Or.inl hunopened
  · intro hagree
    have hlookup : lateRemovalWorld.state.sessions.lookup "t3" = some "u" := by rfl
    have hstatus : lateRemovalWorld.state.statuses.lookup "u" = none := by rfl
    exact (hagree.statuses "u").mpr ((hagree.sessions "u").mp ⟨"t3", hlookup⟩) hstatus

end

end Wanderust
