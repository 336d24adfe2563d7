import Wanderust.Session.Silent

/-!
# The phases of a login or a registration

A monitor follows the two arms that change the user of a connection: nothing is
changed before the session has been inserted, and a refusal is only sent then.
-/

namespace Wanderust

open Interleaving Prog Monitor

variable {F : Type}

/--
The handler asks for a session, with the tokens drawn so far; it has got one; it
has made its user the user of the connection.  It ends with a refusal, or with
the token, or with a send that fails.
-/
inductive SwitchPhase where
  | asking (drawn : List String)
  | gained (token : String)
  | installed (token : String)
  | refused
  | granted (token : String)
  | failed

def refusals : List String := ["ALREADY_AUTHENTICATED", "AUTH_FAILED", "REGISTER_FAILED"]

def IsRefusal (msg : Message F) : Prop :=
  exists code text, code ∈ refusals ∧ msg = .error code text

/-! # The monitor -/

/-- What a handler may do that is to make `username` the user instead of `user`. -/
def permitsSwitch (user : Option String) (username : String) : Op F -> SwitchPhase -> Prop
  | .drawFreshToken, phase => exists drawn, phase = .asking drawn
  | .tryInsertToken name token, phase =>
      name = username ∧ exists drawn, phase = .asking drawn ∧ token ∈ drawn
  | .invalidateUserSessions name, phase => user = some name ∧ exists token, phase = .gained token
  | .statusRemove _, phase | .sinksRemove _, phase => exists token, phase = .gained token
  | .setUserState name, phase => name = some username ∧ exists token, phase = .gained token
  | .statusSet _ _, phase | .sinksInsert _, phase => exists token, phase = .installed token
  | .send msg, phase =>
      (IsRefusal msg ∧ exists drawn, phase = .asking drawn) ∨
        exists token, msg = .authOk token ∧ phase = .installed token
  | .getUserState, _ | .selectUser _, _ | .selectPasswordHash _, _ | .insertUser .., _
  | .bcryptHash _, _ | .nowSecs, _ => True
  | _, _ => False

/-- The user that the handler reads is the one with whom it started. -/
def answersSwitch (user : Option String) : (o : Op F) -> o.Ret -> SwitchPhase -> Prop
  | .getUserState, r, .asking _ => r = user
  | _, _, _ => True

def SwitchPhase.advance : (o : Op F) -> o.Ret -> SwitchPhase -> SwitchPhase
  | .drawFreshToken, token, .asking drawn => .asking (token :: drawn)
  | .tryInsertToken _ token, true, _ => .gained token
  | .setUserState _, _, .gained token => .installed token
  | .send _, true, .asking _ => .refused
  | .send _, true, .installed token => .granted token
  | .send _, false, _ => .failed
  | _, _, phase => phase

def switchMonitor (user : Option String) (username : String) :
    Monitor (@Op.Ret F) SwitchPhase where
  permits := permitsSwitch user username
  moves o r phase phase' := answersSwitch user o r phase ∧ phase' = SwitchPhase.advance o r phase

def SwitchEnd (flow : Flow) (phase : SwitchPhase) : Prop :=
  flow = .next -> phase = .refused ∨ exists token, phase = .granted token

variable {user : Option String} {username : String} {phase : SwitchPhase} {beta : Type}

theorem switch_ignoresAccounts : IgnoresAccounts (switchMonitor (F := F) user username) := by
  intro o ho
  cases o with
  | selectUser _ | selectPasswordHash _ | insertUser _ _ _ | bcryptHash _ | nowSecs =>
      exact ⟨fun _ => trivial, fun r phase phase' hmoves => hmoves.2⟩
  | _ => cases ho

theorem switch_act {o : Op F} {f : o.Ret -> Program F beta} {post : beta -> SwitchPhase -> Prop}
    (hpermits : permitsSwitch user username o phase)
    (hnext : forall r, answersSwitch user o r phase ->
      (switchMonitor user username).Follows (f r) post (SwitchPhase.advance o r phase)) :
    (switchMonitor user username).Follows ((act o).bind f) post phase := by
  refine ⟨hpermits, ?_⟩
  intro r phase' h
  rcases h with ⟨hanswers, rfl⟩
  exact hnext r hanswers

/-! # The arms -/

theorem switch_refuse {code text : String} {drawn : List String} (hcode : code ∈ refusals) :
    (switchMonitor user username).Follows (replyError code text : Program F Flow) SwitchEnd
      (.asking drawn) := by
  apply switch_act
  case hpermits => exact Or.inl ⟨⟨code, text, hcode, rfl⟩, drawn, rfl⟩
  intro sent _
  cases sent with
  | true => exact fun _ => Or.inl rfl
  | false =>
      intro hflow
      cases hflow

theorem switch_dropPrevious {token : String} :
    (switchMonitor user username).Follows (dropPrevious user : Program F Unit)
      (fun _ phase' => phase' = .gained token) (.gained token) := by
  cases user with
  | none => rfl
  | some name =>
      apply switch_act
      case hpermits => exact ⟨rfl, token, rfl⟩
      intro _ _
      apply switch_act
      case hpermits => exact ⟨token, rfl⟩
      intro _ _
      refine ⟨⟨token, rfl⟩, ?_⟩
      intro _ phase' h
      rcases h with ⟨_, rfl⟩
      rfl

theorem switch_installUser {token : String} :
    (switchMonitor user username).Follows
      (installUser user username token : Program F Flow) SwitchEnd (.gained token) := by
  apply follows_bind
  apply follows_mono switch_dropPrevious
  intro _ phase' h
  subst h
  apply switch_act
  case hpermits => exact ⟨rfl, token, rfl⟩
  intro _ _
  apply switch_act
  case hpermits => exact ⟨token, rfl⟩
  intro _ _
  apply switch_act
  case hpermits => exact ⟨token, rfl⟩
  intro _ _
  apply switch_act
  case hpermits => exact Or.inr ⟨token, rfl, rfl⟩
  intro sent _
  cases sent with
  | true => exact fun _ => Or.inr ⟨token, rfl⟩
  | false =>
      intro hflow
      cases hflow

/-- A session has been gained for the user, or nothing but tokens has been drawn. -/
def SwitchOpened (username : String) (r : Except String (String × String))
    (phase : SwitchPhase) : Prop :=
  match r with
  | .ok (name, token) => name = username ∧ phase = .gained token
  | .error _ => exists drawn, phase = .asking drawn

theorem switch_openSession {drawn : List String} :
    (switchMonitor user username).Follows
      (openSession username : Program F (Except String (String × String)))
      (SwitchOpened username) (.asking drawn) := by
  apply switch_act
  case hpermits => exact ⟨drawn, rfl⟩
  intro token _
  have hinsert : (switchMonitor user username).Follows
      (tryInsertTokenProg username token : Program F (Except String Unit))
      (fun r phase' => match r with
        | .ok _ => phase' = .gained token
        | .error _ => exists drawn, phase' = .asking drawn)
      (.asking (token :: drawn)) := by
    apply switch_act
    case hpermits => exact ⟨rfl, _, rfl, List.mem_cons_self⟩
    intro inserted _
    cases inserted with
    | true => rfl
    | false => exact ⟨_, rfl⟩
  apply follows_bindOk hinsert
  · intro _ phase' hphase
    exact ⟨rfl, hphase⟩
  · intro e phase' hphase
    exact hphase

theorem switch_opened {code : String} {p : Program F (Except String (String × String))}
    (hcode : code ∈ refusals)
    (hp : (switchMonitor user username).Follows p (SwitchOpened username) phase) :
    (switchMonitor user username).Follows
      (p.bind fun r =>
        match r with
        | .ok (name, token) => installUser user name token
        | .error e => replyError code e : Program F Flow) SwitchEnd phase := by
  apply follows_bind
  apply follows_mono hp
  intro r phase' hr
  cases r with
  | ok names =>
      rcases names with ⟨name, token⟩
      rcases hr with ⟨rfl, rfl⟩
      exact switch_installUser
  | error e =>
      rcases hr with ⟨drawn, rfl⟩
      exact switch_refuse hcode

theorem switch_loginArm [Bcrypt] (password : String) :
    (switchMonitor user username).Follows (loginArm username password : Program F Flow) SwitchEnd
      (.asking []) := by
  apply switch_act
  case hpermits => exact trivial
  intro currentUser h
  subst h
  split
  · exact switch_refuse (by decide)
  · exact switch_opened (by decide) (follows_login switch_ignoresAccounts password
      switch_openSession fun _ => ⟨[], rfl⟩)

theorem switch_registerArm (password : String) :
    (switchMonitor user username).Follows (registerArm username password : Program F Flow)
      SwitchEnd (.asking []) := by
  apply switch_act
  case hpermits => exact trivial
  intro currentUser h
  subst h
  exact switch_opened (by decide) (follows_register switch_ignoresAccounts password
    switch_openSession fun _ => ⟨[], rfl⟩)

end Wanderust
