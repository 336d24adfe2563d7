import Mathlib.Data.Nat.Notation

/-!
# Wire messages and validators

The messages of the protocol and the checks of `common/src/lib.rs`.  The type
`F` stands for `f64`; an `i64` field is an integer.
-/

namespace Wanderust

def maxUsernameLen : Nat := 32
def maxPasswordLen : Nat := 128
def maxChatLen : Nat := 1024

inductive Message (F : Type) where
  | register (username password : String)
  | login (username password : String)
  | authOk (token : String)
  | startTrip (token : String) (lat lon : F) (ts : Int)
  | tripStarted (tripId : Int) (lat lon : F) (ts : Int)
  | position (token : String) (tripId : Int) (lat lon : F) (ts : Int)
  | endTrip (token : String) (tripId : Int) (ts : Int)
  | stats (token : String) (fromTs toTs : Int)
  | statsResult (username : String) (fromTs toTs : Int) (distanceM : F)
      (movementSecs pauseSecs totalSecs : Int) (avgSpeedMps avgSpeedKmh : F) (points : Int)
  | ack
  | error (code message : String)
  | chatToServer (token text : String)
  | chatFromServer (sender : Option String) (text : String)
  | disconnect (token : String)
deriving DecidableEq

/-- String lengths are byte lengths of the UTF-8 form, as `str::len` counts them. -/
def validateUsername (u : String) : Except String Unit :=
  if u.isEmpty then
    .error "empty username"
  else if maxUsernameLen < u.utf8ByteSize then
    .error "username too long"
  else if !(u.toList.all fun c => c.isAlphanum || c == '_' || c == '-') then
    .error "username: only alphanumeric characters, '_' or '-'"
  else
    .ok ()

def validatePassword (p : String) : Except String Unit :=
  if p.utf8ByteSize < 4 then
    .error "password too short (min 4)"
  else if maxPasswordLen < p.utf8ByteSize then
    .error "password too long"
  else
    .ok ()

def validateChat (t : String) : Except String Unit :=
  if t.isEmpty then
    .error "empty message"
  else if maxChatLen < t.utf8ByteSize then
    .error "message too long"
  else
    .ok ()

def Message.token? {F : Type} : Message F -> Option String
  | .startTrip token .. => some token
  | .position token .. => some token
  | .endTrip token .. => some token
  | .stats token .. => some token
  | .chatToServer token _ => some token
  | .disconnect token => some token
  | _ => none

def Message.tripId? {F : Type} : Message F -> Option Int
  | .position _ tripId .. => some tripId
  | .endTrip _ tripId _ => some tripId
  | _ => none

end Wanderust
