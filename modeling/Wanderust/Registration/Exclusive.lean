import Wanderust.Registration.Rules
import Wanderust.Session.Conditions

/-!
# Exclusive registration

Over any run of calls at most one registration of a user succeeds, and his row
is never changed.  When only registrations are called for a new user, exactly
one of them succeeds.
-/

namespace Wanderust

open Interleaving

variable {F : Type}

section

variable [Geo F] [Bcrypt]

/-! # Runs of calls -/

/-- The pools that a run of calls can reach, without a failure of the database if `strict`. -/
abbrev CallsReach (conn : CallId -> ConnId) (calls : CallId -> Call) (strict : Prop)
    (s : State F) (pool : Calls F) : Prop :=
  Reach (Calls.next conn calls)
    (Pool.Allowed fun _ ch o _ => strict -> o.isSql = true -> ch.fails = false)
    (Calls.start s) pool

theorem calls_verified (conn : CallId -> ConnId) (R : CallRegime) :
    (callSetting (F := F) conn R).Verified
      { guar := fun _ _ _ => True, before := NotCreator, post := CallEnd R }
      (fun i => (R.calls i).program) where
  triple := by
    intro i
    cases hcall : R.calls i with
    | register username password => exact call_register hcall
    | login username password => exact call_login hcall
  stable_before := fun _ _ _ h _ hrely => h.env hrely
  stable_post := fun _ _ _ _ h _ hrely => h.env hrely

theorem calls_inv {conn : CallId -> ConnId} {R : CallRegime} {s : State F} {pool : Calls F}
    (hrow : forall u, R.exclusive u -> s.users.lookup u = none)
    (hsession : forall u, R.exclusive u -> ¬ HasSession s u)
    (hreach : CallsReach conn R.calls R.strict s pool) :
    (callSetting conn R).PoolInv
      { guar := fun _ _ _ => True, before := NotCreator, post := CallEnd R } pool := by
  refine Setting.poolInv_reach (calls_verified conn R) ?_ (fun i u h => by cases h) hreach
  constructor
  · intro u i hu
    cases hu
  · intro u hexclusive h
    rcases h with ⟨row, hlookup⟩
    rw [hrow u hexclusive] at hlookup
    cases hlookup
  · intro u hexclusive hu
    exact absurd hu (hsession u hexclusive)

/-! # Rows of users -/

theorem exec_users_kept {c : ConnId} {ch : Choice} {o : Op F} {s s' : State F}
    (h : (exists r, exec c ch o s = .done r s') ∨ exec c ch o s = .again s') {u : String}
    {row : User} (hrow : s.users.lookup u = some row) : s'.users.lookup u = some row := by
  cases o with
  | insertUser username passwordHash createdAt =>
      rcases h with ⟨r, hexec⟩ | hagain
      · rcases exec_insertUser hexec with ⟨rfl, _⟩ | ⟨hlookup, _, rfl⟩
        · exact hrow
        · have hne : u ≠ username := by
            intro heq
            rw [heq, hlookup] at hrow
            cases hrow
          simpa [hne] using hrow
      · exact absurd hagain (exec_not_again (by simp))
  | _ =>
      have husers : s'.users = s.users := by
        simp only [exec, answerQuery] at h
        grind [State.log]
      rw [husers]
      exact hrow

theorem calls_next_users {conn : CallId -> ConnId} {calls : CallId -> Call}
    {pool pool' : Calls F} {l : PoolLabel CallId Choice}
    (hnext : Calls.next conn calls pool l = some pool') {u : String} {row : User}
    (hrow : pool.state.state.users.lookup u = some row) :
    pool'.state.state.users.lookup u = some row := by
  cases l with
  | start i =>
      rcases Pool.start_of_next hnext with ⟨_, rfl⟩
      exact hrow
  | step i ch =>
      rcases Pool.step_of_next hnext with ⟨p, p', s, _, hstep, rfl⟩
      rcases Prog.step_eq_some.mp hstep with ⟨o, next, rfl, ⟨hexec, rfl⟩ | ⟨r, hexec, rfl⟩⟩
      · exact exec_users_kept (Or.inr (execCall_again hexec).1) hrow
      · exact exec_users_kept (Or.inl ⟨r, (execCall_done hexec).1⟩) hrow

/-! # The result of registrations -/

theorem creator_of_returned {conn : CallId -> ConnId} {R : CallRegime} {pool : Calls F}
    (h : (callSetting conn R).PoolInv
      { guar := fun _ _ _ => True, before := NotCreator, post := CallEnd R } pool)
    {i : CallId} {username password : String} {r : Except String (String × String)}
    (hcall : R.calls i = .register username password) (hreturned : pool.tasks i = .returned r) :
    RegisterEnd R i username r pool.state := by
  have htask := h.tasks i
  rw [hreturned] at htask
  have hend : CallEnd R i r pool.state := htask
  rw [CallEnd, hcall] at hend
  exact hend

def CallRegime.any (calls : CallId -> Call) : CallRegime where
  calls
  exclusive := fun _ => False
  strict := False
  valid := fun _ h => h.elim

theorem register_once {conn : CallId -> ConnId} {calls : CallId -> Call} {s : State F}
    {pool : Calls F} (hreach : CallsReach conn calls False s pool) {i j : CallId}
    {username password password' : String} {r r' : String × String}
    (hi : calls i = .register username password) (hj : calls j = .register username password')
    (hreturned : pool.tasks i = .returned (.ok r))
    (hreturned' : pool.tasks j = .returned (.ok r')) : i = j := by
  have hinv := calls_inv (R := CallRegime.any calls) (fun _ h => h.elim) (fun _ h => h.elim) hreach
  have hcreator := (creator_of_returned hinv hi hreturned).2
  have hcreator' := (creator_of_returned hinv hj hreturned').2
  rw [hcreator] at hcreator'
  exact Option.some.inj hcreator'

/-- The calls for the user are registrations with valid credentials, and nothing fails. -/
structure OnlyRegistrations (calls : CallId -> Call) (username : String) : Prop where
  username_ok : validateUsername username = .ok ()
  calls_ok : forall i, (calls i).username = username ->
    exists password, calls i = .register username password ∧
      validatePassword password = .ok ()

def OnlyRegistrations.regime {calls : CallId -> Call} {username : String}
    (h : OnlyRegistrations calls username) : CallRegime where
  calls
  exclusive := fun u => u = username
  strict := True
  valid := by
    intro i hi
    rcases h.calls_ok i hi with ⟨password, hcall, hpassword⟩
    rw [hi]
    exact ⟨password, hcall, h.username_ok, hpassword⟩

def CallsReturned (calls : CallId -> Call) (username : String) (pool : Calls F) : Prop :=
  forall i, (calls i).username = username ->
    (exists r, pool.tasks i = .returned r) ∨ pool.tasks i = .waiting

structure OnlyWinner (calls : CallId -> Call) (username : String) (pool : Calls F)
    (i : CallId) : Prop where
  call : (calls i).username = username
  ok : exists token, pool.tasks i = .returned (.ok (username, token))
  others : forall j, j ≠ i -> (calls j).username = username ->
    (exists e, pool.tasks j = .returned (.error e)) ∨ pool.tasks j = .waiting

theorem register_one_wins {conn : CallId -> ConnId} {calls : CallId -> Call} {s : State F}
    {pool : Calls F} {username : String} (hreach : CallsReach conn calls True s pool)
    (hrow : s.users.lookup username = none) (hsession : ¬ HasSession s username)
    (honly : OnlyRegistrations calls username) (hreturned : CallsReturned calls username pool)
    (hcalled : exists i, (calls i).username = username ∧ pool.tasks i ≠ .waiting) :
    exists i, OnlyWinner calls username pool i := by
  have hinv : (callSetting conn honly.regime).PoolInv
      { guar := fun _ _ _ => True, before := NotCreator, post := CallEnd honly.regime } pool := by
    refine calls_inv ?_ ?_ hreach
    · intro u hu
      rw [show u = username from hu]
      exact hrow
    · intro u hu
      rw [show u = username from hu]
      exact hsession
  have hend : forall i r, (calls i).username = username -> pool.tasks i = .returned r ->
      RegisterEnd honly.regime i username r pool.state := by
    intro i r hi hr
    rcases honly.calls_ok i hi with ⟨password, hcall, _⟩
    exact creator_of_returned hinv (R := honly.regime) hcall hr
  -- whatever the first call returned, somebody has inserted the row
  have hcreator : exists j, pool.state.creator username = some j := by
    rcases hcalled with ⟨i, hi, hstarted⟩
    rcases hreturned i hi with ⟨r, hr⟩ | hwaiting
    · have hregister := hend i r hi hr
      cases r with
      | ok names => exact ⟨i, hregister.2⟩
      | error e =>
          have hcreated := hinv.inv.row rfl (hregister trivial rfl).1
          exact Option.ne_none_iff_exists'.mp hcreated
    · exact absurd hwaiting hstarted
  rcases hcreator with ⟨j, hj⟩
  have hcall : (calls j).username = username := (hinv.inv.created hj).2
  refine ⟨j, hcall, ?_, ?_⟩
  · rcases hreturned j hcall with ⟨r, hr⟩ | hwaiting
    · have hregister := hend j r hcall hr
      cases r with
      | ok names =>
          rcases names with ⟨name, token⟩
          rcases hregister with ⟨rfl, _⟩
          exact ⟨token, hr⟩
      | error e => exact absurd hj ((hregister trivial rfl).2 username)
    · have hbefore := hinv.tasks j
      rw [hwaiting] at hbefore
      exact absurd hj (hbefore username)
  · intro k hk hcallk
    rcases hreturned k hcallk with ⟨r, hr⟩ | hwaiting
    · have hregister := hend k r hcallk hr
      cases r with
      | ok names =>
          have hboth := hregister.2
          rw [hj] at hboth
          exact absurd (Option.some.inj hboth).symm hk
      | error e => exact Or.inl ⟨e, hr⟩
    · exact Or.inr hwaiting

theorem registration_exclusive (conn : CallId -> ConnId) (calls : CallId -> Call)
    (s : State F) :
    (forall pool, CallsReach conn calls False s pool ->
      (forall i j username password password' r r', calls i = .register username password ->
        calls j = .register username password' -> pool.tasks i = .returned (.ok r) ->
        pool.tasks j = .returned (.ok r') -> i = j) ∧
      pool.state.state.users.keys.Nodup ∧
      forall l pool', Calls.next conn calls pool l = some pool' -> forall username row,
        pool.state.state.users.lookup username = some row ->
        pool'.state.state.users.lookup username = some row) ∧
    (forall username pool, CallsReach conn calls True s pool ->
      s.users.lookup username = none -> ¬ HasSession s username ->
      OnlyRegistrations calls username -> CallsReturned calls username pool ->
      (exists i, (calls i).username = username ∧ pool.tasks i ≠ .waiting) ->
      exists i, OnlyWinner calls username pool i) := by
  constructor
  · intro pool hreach
    refine ⟨?_, AList.keys_nodup _, ?_⟩
    · intro i j username password password' r r' hi hj hr hr'
      exact register_once hreach hi hj hr hr'
    · intro l pool' hnext username row hrow
      exact calls_next_users hnext hrow
  · intro username pool hreach hrow hsession honly hreturned hcalled
    exact register_one_wins hreach hrow hsession honly hreturned hcalled

end

/-! # Two registrations at the same time -/

section

attribute [local instance] plainBcrypt

def twoRegistrations (i : CallId) : Call :=
  .register "u" (if i = 0 then "pass" else "word")

theorem twoRegistrations_only : OnlyRegistrations twoRegistrations "u" where
  username_ok := by rfl
  calls_ok := by
    intro i _
    cases i with
    | zero => exact ⟨"pass", rfl, by rfl⟩
    | succ n => exact ⟨"word", rfl, by rfl⟩

def succeedsCheck (_ : Calls ℝ) : PoolLabel CallId Choice -> Bool
  | .start _ => true
  | .step _ ch => !ch.fails

/-- Both calls look for the user before either of them inserts the row. -/
def race : List (PoolLabel CallId Choice) :=
  [.start 0, .start 1] ++ List.replicate 3 (.step 0 (Choice.drawing "")) ++
    List.replicate 3 (.step 1 (Choice.drawing "")) ++
    [.step 0 (Choice.drawing ""), .step 1 (Choice.drawing ""), .step 0 (Choice.drawing "t1"),
      .step 0 (Choice.drawing "")]

noncomputable def racedCalls : Calls ℝ :=
  Interleaving.after (Calls.next id twoRegistrations) succeedsCheck
    (Calls.start (World.boot ∅ ∅ ∅).state) race

theorem racedCalls_reach :
    CallsReach id twoRegistrations True (World.boot ∅ ∅ ∅).state racedCalls := by
  refine reach_after ?_ _ _
  intro pool l h i ch hl o next _ _ _
  rw [hl] at h
  simpa [succeedsCheck] using h

theorem registration_race : exists i, OnlyWinner twoRegistrations "u" racedCalls i := by
  have hwinner : exists r, racedCalls.tasks 0 = .returned r := ⟨_, rfl⟩
  have hloser : exists r, racedCalls.tasks 1 = .returned r := ⟨_, rfl⟩
  have hempty : ¬ HasSession (World.boot ∅ ∅ ∅ : World ℝ).state "u" := by
    intro h
    rcases h with ⟨t, ht⟩
    simp [World.boot] at ht
  refine (registration_exclusive id twoRegistrations (World.boot ∅ ∅ ∅).state).2 "u" racedCalls
    racedCalls_reach rfl hempty twoRegistrations_only ?_ ⟨0, rfl, ?_⟩
  · intro i _
    rcases i with _ | _ | i
    · exact Or.inl hwinner
    · exact Or.inl hloser
    · have hwaiting : racedCalls.tasks (i + 2) = .waiting := by rfl
      exact Or.inr hwaiting
  · rcases hwinner with ⟨r, hr⟩
    rw [hr]
    intro h
    cases h

end

end Wanderust
