import Mathlib.Data.List.Basic
import Wanderust.Common.Message
import Wanderust.Json.Value

/-!
# The wire format

The JSON form that serde derives for `Message`: an object with the name of the
variant under `type` and the fields of the variant beside it.
-/

namespace Wanderust

open Json

variable {F : Type} [JsonFloat F]

/-! # Encoding -/

def Message.tag : Message F -> String
  | .register .. => "REGISTER"
  | .login .. => "LOGIN"
  | .authOk .. => "AUTH_OK"
  | .startTrip .. => "START_TRIP"
  | .tripStarted .. => "TRIP_STARTED"
  | .position .. => "POSITION"
  | .endTrip .. => "END_TRIP"
  | .stats .. => "STATS"
  | .statsResult .. => "STATS_RESULT"
  | .ack => "ACK"
  | .error .. => "ERROR"
  | .chatToServer .. => "CHAT"
  | .chatFromServer .. => "MESSAGE"
  | .disconnect .. => "DISCONNECT"

def Message.fields : Message F -> List (String × Value F)
  | .register username password =>
      [("username", .string username), ("password", .string password)]
  | .login username password =>
      [("username", .string username), ("password", .string password)]
  | .authOk token => [("token", .string token)]
  | .startTrip token lat lon ts =>
      [("token", .string token), ("lat", .ofFloat lat), ("lon", .ofFloat lon),
        ("ts", .integer ts)]
  | .tripStarted tripId lat lon ts =>
      [("trip_id", .integer tripId), ("lat", .ofFloat lat), ("lon", .ofFloat lon),
        ("ts", .integer ts)]
  | .position token tripId lat lon ts =>
      [("token", .string token), ("trip_id", .integer tripId), ("lat", .ofFloat lat),
        ("lon", .ofFloat lon), ("ts", .integer ts)]
  | .endTrip token tripId ts =>
      [("token", .string token), ("trip_id", .integer tripId), ("ts", .integer ts)]
  | .stats token fromTs toTs =>
      [("token", .string token), ("from_ts", .integer fromTs), ("to_ts", .integer toTs)]
  | .statsResult username fromTs toTs distanceM movementSecs pauseSecs totalSecs avgSpeedMps
      avgSpeedKmh points =>
      [("username", .string username), ("from_ts", .integer fromTs), ("to_ts", .integer toTs),
        ("distance_m", .ofFloat distanceM), ("movement_secs", .integer movementSecs),
        ("pause_secs", .integer pauseSecs), ("total_secs", .integer totalSecs),
        ("avg_speed_mps", .ofFloat avgSpeedMps), ("avg_speed_kmh", .ofFloat avgSpeedKmh),
        ("points", .integer points)]
  | .ack => []
  | .error code message => [("code", .string code), ("message", .string message)]
  | .chatToServer token text => [("token", .string token), ("text", .string text)]
  | .chatFromServer none text => [("text", .string text)]
  | .chatFromServer (some sender) text => [("from", .string sender), ("text", .string text)]
  | .disconnect token => [("token", .string token)]

def Message.toValue (m : Message F) : Value F := .object (("type", .string m.tag) :: m.fields)

def encode (text : TextFormat F) (m : Message F) : String := text.print m.toValue

/-! # Decoding -/

def asString : Value F -> Option String
  | .string s => some s
  | _ => none

def asI64 : Value F -> Option Int
  | .integer i => if -(2 ^ 63) ≤ i ∧ i < 2 ^ 63 then some i else none
  | _ => none

def asF64 : Value F -> Option F
  | .float x => some x.1
  | .integer i => some (JsonFloat.ofInt i)
  | _ => none

/-- An `Option` field may be `null`. -/
def asOptString : Value F -> Option (Option String)
  | .null => some none
  | .string s => some (some s)
  | _ => none

/-- The value of a field, if it is there; a field that is there twice is refused. -/
def lookupField (key : String) (members : List (String × Value F)) : Option (Option (Value F)) :=
  match members.filter fun m => m.1 == key with
  | [] => some none
  | [m] => some (some m.2)
  | _ => none

def field {alpha : Type} (read : Value F -> Option alpha) (key : String)
    (members : List (String × Value F)) : Option alpha := do
  match ← lookupField key members with
  | some v => read v
  | none => none

/-- A field of type `Option` is `None` where it is absent. -/
def optField {alpha : Type} (read : Value F -> Option (Option alpha)) (key : String)
    (members : List (String × Value F)) : Option (Option alpha) := do
  match ← lookupField key members with
  | some v => read v
  | none => return none

/-- The variant of the given name, from the members beside the tag. -/
def Message.ofFields (tag : String) (members : List (String × Value F)) : Option (Message F) :=
  match tag with
  | "REGISTER" => do
      let username ← field asString "username" members
      let password ← field asString "password" members
      return .register username password
  | "LOGIN" => do
      let username ← field asString "username" members
      let password ← field asString "password" members
      return .login username password
  | "AUTH_OK" => do
      let token ← field asString "token" members
      return .authOk token
  | "START_TRIP" => do
      let token ← field asString "token" members
      let lat ← field asF64 "lat" members
      let lon ← field asF64 "lon" members
      let ts ← field asI64 "ts" members
      return .startTrip token lat lon ts
  | "TRIP_STARTED" => do
      let tripId ← field asI64 "trip_id" members
      let lat ← field asF64 "lat" members
      let lon ← field asF64 "lon" members
      let ts ← field asI64 "ts" members
      return .tripStarted tripId lat lon ts
  | "POSITION" => do
      let token ← field asString "token" members
      let tripId ← field asI64 "trip_id" members
      let lat ← field asF64 "lat" members
      let lon ← field asF64 "lon" members
      let ts ← field asI64 "ts" members
      return .position token tripId lat lon ts
  | "END_TRIP" => do
      let token ← field asString "token" members
      let tripId ← field asI64 "trip_id" members
      let ts ← field asI64 "ts" members
      return .endTrip token tripId ts
  | "STATS" => do
      let token ← field asString "token" members
      let fromTs ← field asI64 "from_ts" members
      let toTs ← field asI64 "to_ts" members
      return .stats token fromTs toTs
  | "STATS_RESULT" => do
      let username ← field asString "username" members
      let fromTs ← field asI64 "from_ts" members
      let toTs ← field asI64 "to_ts" members
      let distanceM ← field asF64 "distance_m" members
      let movementSecs ← field asI64 "movement_secs" members
      let pauseSecs ← field asI64 "pause_secs" members
      let totalSecs ← field asI64 "total_secs" members
      let avgSpeedMps ← field asF64 "avg_speed_mps" members
      let avgSpeedKmh ← field asF64 "avg_speed_kmh" members
      let points ← field asI64 "points" members
      return .statsResult username fromTs toTs distanceM movementSecs pauseSecs totalSecs
        avgSpeedMps avgSpeedKmh points
  | "ACK" => return .ack
  | "ERROR" => do
      let code ← field asString "code" members
      let message ← field asString "message" members
      return .error code message
  | "CHAT" => do
      let token ← field asString "token" members
      let text ← field asString "text" members
      return .chatToServer token text
  | "MESSAGE" => do
      let sender ← optField asOptString "from" members
      let text ← field asString "text" members
      return .chatFromServer sender text
  | "DISCONNECT" => do
      let token ← field asString "token" members
      return .disconnect token
  | _ => none

def Message.ofValue : Value F -> Option (Message F)
  | .object members => do
      let tag ← field asString "type" members
      Message.ofFields tag (members.filter fun m => m.1 != "type")
  | _ => none

def decode (text : TextFormat F) (line : String) : Option (Message F) := do
  let v ← text.parse line
  Message.ofValue v

/-! # The numbers of a message -/

def Message.floats : Message F -> List F
  | .startTrip _ lat lon _ => [lat, lon]
  | .tripStarted _ lat lon _ => [lat, lon]
  | .position _ _ lat lon _ => [lat, lon]
  | .statsResult _ _ _ distanceM _ _ _ avgSpeedMps avgSpeedKmh _ =>
      [distanceM, avgSpeedMps, avgSpeedKmh]
  | _ => []

def Message.integers : Message F -> List Int
  | .startTrip _ _ _ ts => [ts]
  | .tripStarted tripId _ _ ts => [tripId, ts]
  | .position _ tripId _ _ ts => [tripId, ts]
  | .endTrip _ tripId ts => [tripId, ts]
  | .stats _ fromTs toTs => [fromTs, toTs]
  | .statsResult _ fromTs toTs _ movementSecs pauseSecs totalSecs _ _ points =>
      [fromTs, toTs, movementSecs, pauseSecs, totalSecs, points]
  | _ => []

def Message.InRange (m : Message F) : Prop :=
  forall i, i ∈ m.integers -> -(2 ^ 63) ≤ i ∧ i < 2 ^ 63

theorem asF64_ofFloat (x : F) :
    asF64 (Value.ofFloat x) = if JsonFloat.isFinite x = true then some x else none := by
  unfold Value.ofFloat
  split
  · rfl
  · rfl

/-! # Round trip -/

section

attribute [local simp] Message.ofFields Message.tag Message.fields Message.floats Message.InRange
  Message.integers field optField lookupField asString asOptString asI64 asF64_ofFloat

/-- Reading the fields back fails at the first number that was written as `null`. -/
theorem ofFields_fields (m : Message F) (h : m.InRange) :
    Message.ofFields m.tag m.fields =
      if forall x, x ∈ m.floats -> JsonFloat.isFinite x = true then some m else none := by
  cases m with
  | register username password => simp
  | login username password => simp
  | authOk token => simp
  | startTrip token lat lon ts =>
      simp at h
      cases hlat : JsonFloat.isFinite lat with
      | false => simp [hlat]
      | true =>
          cases hlon : JsonFloat.isFinite lon with
          | false => simp [hlat, hlon]
          | true => simp [hlat, hlon, h]
  | tripStarted tripId lat lon ts =>
      simp at h
      cases hlat : JsonFloat.isFinite lat with
      | false => simp [hlat, h]
      | true =>
          cases hlon : JsonFloat.isFinite lon with
          | false => simp [hlat, hlon, h]
          | true => simp [hlat, hlon, h]
  | position token tripId lat lon ts =>
      simp at h
      cases hlat : JsonFloat.isFinite lat with
      | false => simp [hlat, h]
      | true =>
          cases hlon : JsonFloat.isFinite lon with
          | false => simp [hlat, hlon, h]
          | true => simp [hlat, hlon, h]
  | endTrip token tripId ts =>
      simp at h
      simp [h]
  | stats token fromTs toTs =>
      simp at h
      simp [h]
  | statsResult username fromTs toTs distanceM movementSecs pauseSecs totalSecs avgSpeedMps
      avgSpeedKmh points =>
      simp at h
      cases hdistance : JsonFloat.isFinite distanceM with
      | false => simp [hdistance, h]
      | true =>
          cases hmps : JsonFloat.isFinite avgSpeedMps with
          | false => simp [hdistance, hmps, h]
          | true =>
              cases hkmh : JsonFloat.isFinite avgSpeedKmh with
              | false => simp [hdistance, hmps, hkmh, h]
              | true => simp [hdistance, hmps, hkmh, h]
  | ack => simp
  | error code message => simp
  | chatToServer token text => simp
  | chatFromServer sender text =>
      cases sender with
      | none => simp
      | some sender => simp
  | disconnect token => simp

/-- No field has the name of the tag. -/
theorem ofValue_toValue (m : Message F) :
    Message.ofValue m.toValue = Message.ofFields m.tag m.fields := by
  have hkeys : forall p, p ∈ m.fields -> p.1 ≠ "type" := by
    cases m with
    | chatFromServer sender text =>
        cases sender with
        | none => simp
        | some sender => simp
    | _ => simp
  have htag : m.fields.filter (fun p => p.1 == "type") = [] := by
    rw [List.filter_eq_nil_iff]
    intro p hp
    rw [beq_iff_eq]
    exact hkeys p hp
  have hrest : m.fields.filter (fun p => p.1 != "type") = m.fields := by
    rw [List.filter_eq_self]
    intro p hp
    rw [bne_iff_ne]
    exact hkeys p hp
  unfold Message.toValue Message.ofValue
  simp only [field, lookupField, List.filter_cons, htag, hrest]
  rfl

theorem integerInRange_of_i64 {i : Int} (h : -(2 ^ 63) ≤ i ∧ i < 2 ^ 63) :
    Value.IntegerInRange i := by
  unfold Value.IntegerInRange
  omega

theorem inRange_toValue {m : Message F} (h : m.InRange) : m.toValue.InRange := by
  have hintegers : forall i, i ∈ m.integers -> Value.IntegerInRange i := by
    intro i hi
    exact integerInRange_of_i64 (h i hi)
  have hfields : Value.MembersInRange m.fields := by
    cases m with
    | chatFromServer sender text =>
        cases sender with
        | none => simp [Value.MembersInRange, Value.InRange]
        | some sender => simp [Value.MembersInRange, Value.InRange]
    | _ =>
        simp at hintegers
        simp [Value.MembersInRange, Value.InRange, Value.inRange_ofFloat, hintegers]
  unfold Message.toValue Value.InRange Value.MembersInRange
  exact ⟨by simp [Value.InRange], hfields⟩

end

end Wanderust
