import Wanderust.Server.Effects
import Wanderust.Server.OwnSteps

/-!
# What a registration itself does

The steps of `auth::register` on the accounts and the sessions, whatever the
other connections do in between: the account is stored before the session is
asked for, and the answer to that request decides about the result.
-/

namespace Wanderust

open Interleaving Prog

variable {F : Type}

def KeepsAccounts (x : OwnStep F) : Prop :=
  x.after.users = x.before.users ∧ x.after.sessions = x.before.sessions

def AsksForSession (u : String) (x : OwnStep F) : Prop :=
  exists token, x.op = .tryInsertToken u token

def WithoutSession (u : String) (x : OwnStep F) : Prop := hasSession x.before.sessions u = false

def CreatesAccount (u : String) (x : OwnStep F) : Prop :=
  x.before.users.lookup u = none ∧ exists row, x.after.users = x.before.users.insert u row

theorem CreatesAccount.changes {u : String} {x : OwnStep F} (h : CreatesAccount u x) :
    ¬ KeepsAccounts x := by
  rcases h with ⟨hnone, row, hinsert⟩
  intro hkeeps
  exact Table.insert_ne hnone row (hinsert.symm.trans hkeeps.1)

/-- The operations of a registration that neither store an account nor ask for a session. -/
def Op.preparesAccount : Op F -> Bool
  | .selectUser _ | .bcryptHash _ | .nowSecs | .drawFreshToken => true
  | _ => false

def Prepares (u : String) (trace : List (OwnStep F)) : Prop :=
  forall x, x ∈ trace -> KeepsAccounts x ∧ ¬ AsksForSession u x

theorem Prepares.append {u : String} {trace trace' : List (OwnStep F)} (h : Prepares u trace)
    (h' : Prepares u trace') : Prepares u (trace ++ trace') := by
  intro x hx
  rcases List.mem_append.mp hx with hx | hx
  · exact h x hx
  · exact h' x hx

theorem prepares_nil (u : String) : Prepares u ([] : List (OwnStep F)) := by
  intro x hx
  cases hx

variable [Geo F] [Bcrypt] {env : State F -> State F -> Prop} {c : ConnId}
variable {s s' : State F} {trace : List (OwnStep F)} {u p : String}

omit [Geo F] [Bcrypt] in
theorem not_asks_of_op {x : OwnStep F} (hop : x.op.preparesAccount = true) :
    ¬ AsksForSession u x := by
  intro hasks
  rcases hasks with ⟨token, hasked⟩
  rw [hasked] at hop
  cases hop

theorem keeps_of_op {x : OwnStep F} (hexec : Performed.Executed exec c x)
    (hop : x.op.preparesAccount = true) : KeepsAccounts x := by
  rcases x with ⟨o, ch, before, after⟩
  cases o with
  | selectUser username =>
      rcases hexec with hagain | ⟨r, hdone⟩
      · exact absurd hagain (exec_not_again (by simp))
      · rcases answerQuery_done hdone with ⟨hsame, _⟩
        dsimp only at hsame
        rw [hsame]
        exact ⟨rfl, rfl⟩
  | bcryptHash password =>
      rcases hexec with hagain | ⟨r, hdone⟩
      · cases hagain
      · cases hdone
        exact ⟨rfl, rfl⟩
  | nowSecs =>
      rcases hexec with hagain | ⟨r, hdone⟩
      · cases hagain
      · cases hdone
        exact ⟨rfl, rfl⟩
  | drawFreshToken =>
      rcases hexec with hagain | ⟨r, hdone⟩
      · simp only [exec] at hagain
        split at hagain
        · cases hagain
        · cases hagain
          exact ⟨rfl, rfl⟩
      · have hafter := (exec_drawFreshToken hdone).2.2
        dsimp only at hafter
        rw [hafter]
        exact ⟨rfl, rfl⟩
  | _ => cases hop

theorem prepares_perform {o : Op F} {r : o.Ret} (hop : o.preparesAccount = true)
    (h : Traced exec env c (act o) s trace r s') : Prepares u trace := by
  intro x hx
  have hx' : x.op.preparesAccount = true := by
    rw [h.perform x hx]
    exact hop
  exact ⟨keeps_of_op (h.executed x hx) hx', not_asks_of_op hx'⟩

theorem prepares_keyExists {username : String} {r : Except String Bool}
    (h : Traced exec env c (keyExists username) s trace r s') : Prepares u trace := by
  rcases traced_mapError.mp h with ⟨r', _, hselect⟩
  exact prepares_perform rfl hselect

theorem traced_saveRegister {r : Except String Unit}
    (h : Traced exec env c (saveRegister (.register u p)) s trace r s') :
    (Prepares u trace ∧ exists e, r = .error e) ∨
      (r = .ok () ∧ (forall x, x ∈ trace -> ¬ AsksForSession u x) ∧
        exists x, x ∈ trace ∧ CreatesAccount u x) := by
  simp only [saveRegister, bind_def] at h
  rcases traced_bind.mp h with ⟨passwordHash, s1, t1, t2, rfl, hhash, h⟩
  rcases traced_bind.mp h with ⟨now, s2, t3, t4, rfl, hnow, h⟩
  have hfirst : Prepares u t1 := prepares_perform rfl hhash
  have hsecond : Prepares u t3 := prepares_perform rfl hnow
  simp only [act, perform_bind] at h
  rw [traced_op_iff (fun _ _ _ => exec_not_again (by simp))] at h
  rcases h with ⟨ch, answer, s3, s4, rest, _, hinsert, rfl, h⟩
  have hnot : ¬ AsksForSession u
      { op := Op.insertUser u passwordHash now, choice := ch, before := s3, after := s4 } := by
    intro hasks
    rcases hasks with ⟨token, hop⟩
    cases hop
  rcases exec_insertUser hinsert with ⟨rfl, ⟨e, rfl⟩, _⟩ | ⟨hnone, rfl, rfl⟩
  · left
    have hlast : Prepares u
        [{ op := Op.insertUser u passwordHash now, choice := ch, before := s4, after := s4 }] := by
      intro x hx
      rw [List.mem_singleton.mp hx]
      exact ⟨⟨rfl, rfl⟩, hnot⟩
    dsimp only at h
    split at h
    · rcases traced_pure_iff.mp h with ⟨rfl, rfl, _⟩
      exact ⟨hfirst.append (hsecond.append hlast), _, rfl⟩
    · rcases traced_pure_iff.mp h with ⟨rfl, rfl, _⟩
      exact ⟨hfirst.append (hsecond.append hlast), _, rfl⟩
  · right
    rcases traced_pure_iff.mp h with ⟨rfl, rfl, _⟩
    refine ⟨rfl, ?_, _,
      List.mem_append_right _ (List.mem_append_right _ (List.mem_singleton_self _)), hnone, _, rfl⟩
    intro x hx
    rcases List.mem_append.mp hx with hx | hx
    · exact (hfirst x hx).2
    · rcases List.mem_append.mp hx with hx | hx
      · exact (hsecond x hx).2
      · rw [List.mem_singleton.mp hx]
        exact hnot

theorem traced_tryInsertToken {token : String} {r : Except String Unit}
    (h : Traced exec env c (tryInsertTokenProg u token) s trace r s') :
    exists x, trace = [x] ∧ AsksForSession u x ∧
      ((r = .ok () ∧ WithoutSession u x) ∨ ((exists e, r = .error e) ∧ ¬ WithoutSession u x)) := by
  simp only [tryInsertTokenProg, act, bind_def, perform_bind] at h
  rw [traced_op_iff (fun _ _ _ => exec_not_again (by simp))] at h
  rcases h with ⟨ch, inserted, s1, s2, rest, _, hexec, rfl, h⟩
  simp only [exec, tryInsertToken] at hexec
  split at hexec
  case isTrue hsession =>
    cases hexec
    rcases traced_pure_iff.mp h with ⟨rfl, rfl, _⟩
    refine ⟨_, rfl, ⟨token, rfl⟩, Or.inr ⟨⟨_, rfl⟩, ?_⟩⟩
    intro hwithout
    exact absurd hsession (Bool.eq_false_iff.mp hwithout)
  case isFalse hsession =>
    cases hexec
    rcases traced_pure_iff.mp h with ⟨rfl, rfl, _⟩
    exact ⟨_, rfl, ⟨token, rfl⟩, Or.inl ⟨rfl, Bool.eq_false_iff.mpr hsession⟩⟩

end Wanderust
