import Wanderust.Server.Exec

/-!
# Sessions and accounts

The programs of `server/src/auth/mod.rs` with the functions of the db crate that
they call.  An error is represented by its text.
-/

namespace Wanderust

open Interleaving Prog

variable {F : Type}

/-- A statement whose error is passed on as text. -/
def sql {alpha : Type} (p : Program F (Except SqlError alpha)) :
    Program F (Except String alpha) :=
  p.mapError SqlError.text

/-! # The db crate -/

def keyExists (username : String) : Program F (Except String Bool) :=
  sql (act (.selectUser username))

def checkCredentials [Bcrypt] (msg : Message F) : Program F (Except String Unit) :=
  match msg with
  | .login username password | .register username password =>
      bindOk (sql (act (.selectPasswordHash username))) fun row =>
        match row with
        | none => .pure (.error "user not found")
        | some stored =>
            if Bcrypt.verify password stored then .pure (.ok ())
            else .pure (.error "invalid credentials")
  | _ => .pure (.error "invalid message")

def saveRegister (msg : Message F) : Program F (Except String Unit) :=
  match msg with
  | .register username password => do
      let passwordHash ← act (.bcryptHash password)
      let now ← act .nowSecs
      match ← act (.insertUser username passwordHash now) with
      | .ok () => return .ok ()
      | .error e =>
          if e.uniqueViolation then return .error "user already exists"
          else return .error e.text
  | _ => .pure (.error "save_register: not a Register variant")

def tryInsertTokenProg (username token : String) : Program F (Except String Unit) := do
  if ← act (.tryInsertToken username token) then return .ok ()
  else return .error "user already logged in from another session"

/-! # The auth module -/

/--
The loop of `create_token`: each turn draws a token and looks it up under the
lock of the session store, and the loop ends with the first token not in use.
-/
def createToken : Program F String :=
  act .drawFreshToken

def login [Bcrypt] (msg : Message F) : Program F (Except String (String × String)) :=
  match msg with
  | .login username password =>
      bindOk (.pure (validateUsername username)) fun _ =>
      bindOk (.pure (validatePassword password)) fun _ =>
      bindOk (keyExists username) fun known =>
      if !known then .pure (.error "invalid credentials")
      else
        bindOk ((checkCredentials msg).mapError fun _ => "invalid credentials") fun _ =>
        createToken.bind fun token =>
        bindOk (tryInsertTokenProg username token) fun _ =>
        .pure (.ok (username, token))
  | _ => .pure (.error "invalid message")

def register (msg : Message F) : Program F (Except String (String × String)) :=
  match msg with
  | .register username password =>
      bindOk (.pure (validateUsername username)) fun _ =>
      bindOk (.pure (validatePassword password)) fun _ =>
      bindOk (keyExists username) fun known =>
      if known then .pure (.error "user already exists")
      else
        bindOk (saveRegister msg) fun _ =>
        createToken.bind fun token =>
        bindOk (tryInsertTokenProg username token) fun _ =>
        .pure (.ok (username, token))
  | _ => .pure (.error "invalid message")

/-- Proceeds only if the token maps to the user of this connection. -/
def validateToken (token : String) : Program F (Option String) := do
  match ← act (.getUserByToken token) with
  | none => return none
  | some user =>
      let stateUser ← act .getUserState
      if stateUser ≠ some user then return none
      else return some user

end Wanderust
