import Wanderust.Registration.Refused
import Wanderust.Session.Conditions

/-!
# Registrations that are refused

A registration that fails leaves the accounts and the sessions alone, unless the
user has got a session between the two writes of the call: then the session is
refused and the account that the call has stored stays.
-/

namespace Wanderust

open Interleaving Prog

section

variable {F : Type} [Geo F] [Bcrypt] {env : State F -> State F -> Prop} {c : ConnId}
variable {s s' : State F} {trace : List (OwnStep F)} {u p : String}
variable {r : Except String (String × String)}

/-- What the steps of a registration have done when it ends. -/
inductive RegisterTrace (u : String) (r : Except String (String × String)) :
    List (OwnStep F) -> Prop where
  | early {trace : List (OwnStep F)} {e : String} :
      r = .error e -> Prepares u trace -> RegisterTrace u r trace
  | granted {trace : List (OwnStep F)} {x : OwnStep F} {names : String × String} :
      r = .ok names -> (forall y, y ∈ trace -> ¬ AsksForSession u y) -> WithoutSession u x ->
      RegisterTrace u r (trace ++ [x])
  | refused {trace : List (OwnStep F)} {x : OwnStep F} {e : String} :
      r = .error e -> (exists y, y ∈ trace ∧ CreatesAccount u y) -> AsksForSession u x ->
      ¬ WithoutSession u x -> RegisterTrace u r (trace ++ [x])

/-- From the row on, only the request for the session decides. -/
theorem registerTrace_stored {stored drawn asked : List (OwnStep F)} {token : String}
    {s1 s2 s3 : State F}
    (hasks : forall x, x ∈ stored -> ¬ AsksForSession u x)
    (hcreates : exists x, x ∈ stored ∧ CreatesAccount u x)
    (hdraw : Traced exec env c createToken s1 drawn token s2)
    (hask : Traced exec env c
      (bindOk (tryInsertTokenProg u token) fun _ => .pure (.ok (u, token))) s2 asked r s3) :
    RegisterTrace u r (stored ++ (drawn ++ asked)) := by
  have hdrawn : Prepares u drawn := prepares_perform rfl hdraw
  rcases hcreates with ⟨y, hy, hcreates⟩
  rcases traced_bindOk.mp hask with ⟨e, rfl, htry⟩ | ⟨_, s', asked, rest, rfl, htry, hend⟩
  · rcases traced_tryInsertToken htry with ⟨x, rfl, hx, ⟨hok, _⟩ | ⟨_, hsession⟩⟩
    · cases hok
    · rw [← List.append_assoc]
      exact RegisterTrace.refused rfl ⟨y, List.mem_append_left _ hy, hcreates⟩ hx hsession
  · rcases traced_pure_iff.mp hend with ⟨rfl, rfl, _⟩
    rcases traced_tryInsertToken htry with ⟨x, rfl, _, ⟨_, hwithout⟩ | ⟨⟨e, herror⟩, _⟩⟩
    · rw [List.append_nil, ← List.append_assoc]
      refine RegisterTrace.granted rfl ?_ hwithout
      intro z hz
      rcases List.mem_append.mp hz with hz | hz
      · exact hasks z hz
      · exact (hdrawn z hz).2
    · cases herror

theorem traced_register
    (h : Traced exec env c (register (.register u p)) s trace r s') : RegisterTrace u r trace := by
  simp only [register] at h
  rcases traced_bindOk.mp h with ⟨e, rfl, hname⟩ | ⟨_, s1, t1, t2, rfl, hname, h1⟩
  · rcases traced_pure_iff.mp hname with ⟨rfl, _, _⟩
    exact RegisterTrace.early rfl (prepares_nil u)
  rcases traced_pure_iff.mp hname with ⟨rfl, _, _⟩
  rcases traced_bindOk.mp h1 with ⟨e, rfl, hpassword⟩ | ⟨_, s2, t3, t4, rfl, hpassword, h2⟩
  · rcases traced_pure_iff.mp hpassword with ⟨rfl, _, _⟩
    exact RegisterTrace.early rfl (prepares_nil u)
  rcases traced_pure_iff.mp hpassword with ⟨rfl, _, _⟩
  rw [List.nil_append, List.nil_append]
  rcases traced_bindOk.mp h2 with ⟨e, rfl, hknown⟩ | ⟨known, s3, t5, t6, rfl, hknown, h3⟩
  · exact RegisterTrace.early rfl (prepares_keyExists hknown)
  have hprepares : Prepares u t5 := prepares_keyExists hknown
  split at h3
  · rcases traced_pure_iff.mp h3 with ⟨rfl, rfl, _⟩
    exact RegisterTrace.early rfl (hprepares.append (prepares_nil u))
  rcases traced_bindOk.mp h3 with ⟨e, rfl, hsave⟩ | ⟨_, s4, t7, t8, rfl, hsave, h4⟩
  · rcases traced_saveRegister hsave with ⟨hsaved, _⟩ | ⟨hok, _⟩
    · exact RegisterTrace.early rfl (hprepares.append hsaved)
    · cases hok
  · rcases traced_saveRegister hsave with ⟨_, e, herror⟩ | ⟨_, hasks, x, hx, hcreates⟩
    · cases herror
    · rcases traced_bind.mp h4 with ⟨token, s5, t9, t10, rfl, hdraw, hask⟩
      rw [← List.append_assoc]
      apply registerTrace_stored ?_ ⟨x, List.mem_append_right _ hx, hcreates⟩ hdraw hask
      intro y hy
      rcases List.mem_append.mp hy with hy | hy
      · exact (hprepares y hy).2
      · exact hasks y hy

/-- A failed call has created nothing exactly when it could not be refused a session. -/
theorem refused_registration_creates_nothing
    (h : Traced exec env c (register (.register u p)) s trace r s') :
    ((exists e, r = .error e) -> forall x, x ∈ trace -> KeepsAccounts x) <->
      forall x, x ∈ trace -> AsksForSession u x -> WithoutSession u x := by
  cases traced_register h with
  | early hr hprepares =>
      apply iff_of_true
      · intro _ x hx
        exact (hprepares x hx).1
      · intro x hx hasks
        exact absurd hasks (hprepares x hx).2
  | granted hr hasks hwithout =>
      apply iff_of_true
      · intro hfailed
        rcases hfailed with ⟨e, rfl⟩
        cases hr
      · intro y hy hask
        rcases List.mem_append.mp hy with hy | hy
        · exact absurd hask (hasks y hy)
        · rw [List.mem_singleton.mp hy]
          exact hwithout
  | refused hr hcreates hask hsession =>
      rcases hcreates with ⟨y, hy, hcreates⟩
      apply iff_of_false
      · intro hkeeps
        exact hcreates.changes (hkeeps ⟨_, hr⟩ y (List.mem_append_left _ hy))
      · intro hwithout
        exact hsession (hwithout _ (List.mem_append_right _ (List.mem_singleton_self _)) hask)

/-- Some run of the other connections leads from the one state to the other. -/
def OthersMeanwhile (c : ConnId) (s s' : State F) : Prop :=
  exists w w' : World F, w.state = s ∧ w'.state = s' ∧
    Reachable (fun _ l => l.ofOther c = true) w w'

theorem OthersMeanwhile.refl (c : ConnId) (s : State F) : OthersMeanwhile c s s :=
  ⟨{ state := s, tasks := fun _ => .unopened }, _, rfl, rfl, Reach.refl⟩

theorem othersMeanwhile_after (c : ConnId) (s : State F) (labels : List (Label F)) :
    OthersMeanwhile c s
      (({ state := s, tasks := fun _ => .unopened } : World F).after (fun _ l => l.ofOther c)
        labels).state :=
  ⟨_, _, rfl, rfl, reach_after (fun _ _ h => h) _ _⟩

end

/-! # A login between the two writes -/

section

attribute [local instance] plainBcrypt

/-- Another connection logs in as the user, up to the reply. -/
def loginMeanwhile : List (Label ℝ) :=
  [.accept 1, .receive 1 (.message (.login "u" "pass"))] ++ stepsOf 1 3 ++
    [.step 1 (Choice.drawing "t1")] ++ stepsOf 1 4

structure RefusedRun (trace : List (OwnStep ℝ)) (e : String) (s : State ℝ) : Prop where
  runs : Traced exec (OthersMeanwhile 0) 0 (register (.register "u" "pass"))
    (World.boot ∅ ∅ ∅ : World ℝ).state trace (.error e) s
  creates : exists x, x ∈ trace ∧ CreatesAccount "u" x

theorem refusedRun : exists trace e s, RefusedRun trace e s := by
  have husername : validateUsername "u" = .ok () := by rfl
  have hpassword : validatePassword "pass" = .ok () := by rfl
  apply Exists.intro
  apply Exists.intro
  apply Exists.intro
  constructor
  case runs =>
    simp only [register, husername, hpassword, bindOk, pure_bind]
    apply Traced.done (Choice.drawing "t2") (OthersMeanwhile.refl _ _) rfl
    apply Traced.done (Choice.drawing "t2") (OthersMeanwhile.refl _ _) rfl
    apply Traced.done (Choice.drawing "t2") (OthersMeanwhile.refl _ _) rfl
    apply Traced.done (Choice.drawing "t2") (OthersMeanwhile.refl _ _) rfl
    -- the account is stored, and its user logs in on the other connection
    apply Traced.done (Choice.drawing "t2") (othersMeanwhile_after _ _ loginMeanwhile) rfl
    apply Traced.done (Choice.drawing "t2") (OthersMeanwhile.refl _ _) rfl
    exact Traced.pure _ _
  case creates =>
    have hinsert : forall (x y z stored : OwnStep ℝ) rest,
        stored ∈ x :: y :: z :: stored :: rest := by
      simp
    exact ⟨_, hinsert _ _ _ _ _, rfl, _, rfl⟩

/-- A registration that is told of a failure and has created the account. -/
theorem refused_registration_creates_account : exists trace e s,
    Traced exec (OthersMeanwhile 0) 0 (register (.register "u" "pass"))
      (World.boot ∅ ∅ ∅ : World ℝ).state trace (.error e) s ∧
      exists x, x ∈ trace ∧ CreatesAccount "u" x ∧ ¬ KeepsAccounts x := by
  rcases refusedRun with ⟨trace, e, s, hruns, x, hx, hcreates⟩
  exact ⟨trace, e, s, hruns, x, hx, hcreates, hcreates.changes⟩

theorem refused_registration_creates_nothing_login : exists trace e s,
    RefusedRun trace e s ∧
      (((exists e', (.error e : Except String (String × String)) = .error e') ->
        forall x, x ∈ trace -> KeepsAccounts x) <->
        forall x, x ∈ trace -> AsksForSession "u" x -> WithoutSession "u" x) := by
  rcases refusedRun with ⟨trace, e, s, h⟩
  exact ⟨trace, e, s, h, refused_registration_creates_nothing h.runs⟩

end

end Wanderust
