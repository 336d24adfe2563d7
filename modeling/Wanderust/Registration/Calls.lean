import Wanderust.Interleaving.Pool
import Wanderust.Session.Invariant

/-!
# Calls of the auth module

Any number of calls of `auth::register` and `auth::login` run at the same time,
each on behalf of some connection.  The module sets up their verification: what
holds of users and sessions, and what one call may rely on.
-/

namespace Wanderust

open Interleaving Prog

variable {F : Type}

/-! # Calls -/

abbrev CallId := Nat

inductive Call where
  | register (username password : String)
  | login (username password : String)

def Call.username : Call -> String
  | .register username _ => username
  | .login username _ => username

def Call.program [Bcrypt] : Call -> Program F (Except String (String × String))
  | .register username password => Wanderust.register (.register username password)
  | .login username password => Wanderust.login (.login username password)

/-- The shared state, and as history the call that inserted the row of a user. -/
structure CallState (F : Type) where
  state : State F
  creator : String -> Option CallId

def recordCreator (i : CallId) : (o : Op F) -> o.Ret -> (String -> Option CallId) ->
    String -> Option CallId
  | .insertUser username _ _, .ok (), creator => Function.update creator username (some i)
  | _, _, creator => creator

def execCall [Geo F] [Bcrypt] (conn : CallId -> ConnId) :
    Exec (@Op.Ret F) CallId Choice (CallState F) :=
  fun i ch o s =>
    match exec (conn i) ch o s.state with
    | .blocked => .blocked
    | .again s' => .again { s with state := s' }
    | .done r s' => .done r { state := s', creator := recordCreator i o r s.creator }

abbrev Calls (F : Type) :=
  Pool (@Op.Ret F) CallId (CallState F) (Except String (String × String))

def Calls.next [Geo F] [Bcrypt] (conn : CallId -> ConnId) (calls : CallId -> Call) :
    Calls F -> PoolLabel CallId Choice -> Option (Calls F) :=
  Pool.next (execCall conn) fun i => (calls i).program

def Calls.start (s : State F) : Calls F :=
  Pool.initial { state := s, creator := fun _ => none }

/-! # The setting -/

/--
The users in `exclusive` are those for whom only registrations are called, with
valid credentials.  When `strict` holds, no statement fails.
-/
structure CallRegime where
  calls : CallId -> Call
  exclusive : String -> Prop
  strict : Prop
  valid : forall i, exclusive (calls i).username ->
    exists password, calls i = .register (calls i).username password ∧
      validateUsername (calls i).username = .ok () ∧ validatePassword password = .ok ()

variable {R : CallRegime} {i : CallId} {s s' : CallState F} {username : String}

def HasRow (s : CallState F) (username : String) : Prop :=
  exists row, s.state.users.lookup username = some row

structure CallInv (R : CallRegime) (s : CallState F) : Prop where
  created : forall {u i}, s.creator u = some i -> HasRow s u ∧ (R.calls i).username = u
  row : forall {u}, R.exclusive u -> HasRow s u -> s.creator u ≠ none
  session : forall {u}, R.exclusive u -> HasSession s.state u -> s.creator u ≠ none

structure CallRely (R : CallRegime) (i : CallId) (s s' : CallState F) : Prop where
  creator : forall u, s'.creator u = some i <-> s.creator u = some i
  users : forall u row, s.state.users.lookup u = some row -> s'.state.users.lookup u = some row
  sessions : forall u, R.exclusive u -> s.creator u = some i ->
    HasSession s'.state u -> HasSession s.state u

def callSetting [Geo F] [Bcrypt] (conn : CallId -> ConnId) (R : CallRegime) :
    Setting (@Op.Ret F) CallId Choice (CallState F) where
  exec := execCall conn
  allowed := fun _ ch o _ => R.strict -> o.isSql = true -> ch.fails = false
  inv := CallInv R
  rely := CallRely R
  rely_refl := fun _ _ => ⟨fun _ => Iff.rfl, fun _ _ h => h, fun _ _ _ h => h⟩
  rely_trans := fun h h' =>
    { creator := fun u => (h'.creator u).trans (h.creator u)
      users := fun u row hrow => h'.users u row (h.users u row hrow)
      sessions := fun u hu hc hs =>
        h.sessions u hu hc (h'.sessions u hu ((h.creator u).mpr hc) hs) }

/-! # Assertions of a call -/

def NotCreator (i : CallId) (s : CallState F) : Prop :=
  forall u, s.creator u ≠ some i

/-- The call has inserted the row, and the user has no session yet. -/
def Creator (R : CallRegime) (i : CallId) (username : String) (s : CallState F) : Prop :=
  s.creator username = some i ∧ (R.exclusive username -> ¬ HasSession s.state username)

def RegisterEnd (R : CallRegime) (i : CallId) (username : String)
    (r : Except String (String × String)) (s : CallState F) : Prop :=
  match r with
  | .ok (name, _) => name = username ∧ s.creator username = some i
  | .error _ => R.strict -> R.exclusive username -> HasRow s username ∧ NotCreator i s

def CallEnd (R : CallRegime) (i : CallId) (r : Except String (String × String))
    (s : CallState F) : Prop :=
  match R.calls i with
  | .login _ _ => True
  | .register username _ => RegisterEnd R i username r s

theorem HasRow.env (h : HasRow s username) (hrely : CallRely R i s s') : HasRow s' username := by
  rcases h with ⟨row, hrow⟩
  exact ⟨row, hrely.users username row hrow⟩

theorem NotCreator.env (h : NotCreator i s) (hrely : CallRely R i s s') : NotCreator i s' := by
  intro u hu
  exact h u ((hrely.creator u).mp hu)

theorem Creator.env (h : Creator R i username s) (hrely : CallRely R i s s') :
    Creator R i username s' := by
  refine ⟨(hrely.creator username).mpr h.1, ?_⟩
  intro hu hsession
  exact h.2 hu (hrely.sessions username hu h.1 hsession)

theorem CallEnd.env {r : Except String (String × String)} (h : CallEnd R i r s)
    (hrely : CallRely R i s s') : CallEnd R i r s' := by
  unfold CallEnd at h ⊢
  cases hcall : R.calls i with
  | login username password => trivial
  | register username password =>
      rw [hcall] at h
      cases r with
      | ok names => exact ⟨h.1, (hrely.creator username).mpr h.2⟩
      | error e =>
          intro hstrict hexclusive
          rcases h hstrict hexclusive with ⟨hrow, hnot⟩
          exact ⟨hrow.env hrely, hnot.env hrely⟩

end Wanderust
