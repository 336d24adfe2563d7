import Wanderust.Client.State
import Wanderust.Client.StatsInterval
import Wanderust.Common.Strings

/-!
# Commands

`parse_cmd` of the client: what is made of a line that has been typed, one
definition for each command.  What the commands print is left out.
-/

namespace Wanderust.Cli

open Interleaving Prog

variable {F : Type}

/-- `str::parse::<f64>`. -/
class ParseF64 (F : Type) where
  parse : List Char -> Option F

/-- How `parse_cmd` ends: an overflow in `stats_interval` is a panic. -/
inductive Parsed (F : Type) where
  | message (msg : Message F)
  | nothing
  | panicked

/-! # Requirements -/

/-- `require_token(..).await?`, followed by `body`. -/
def requireToken (body : String -> Program F (Parsed F)) : Program F (Parsed F) := do
  match ← act .getToken with
  | some t => body t
  | none => return .nothing

/-- `require_trip(..).await?`, followed by `body`. -/
def requireTrip (body : Int -> Program F (Parsed F)) : Program F (Parsed F) := do
  match ← act .getTrip with
  | some tripId => body tripId
  | none => return .nothing

/-! # Arguments -/

/-- The argument at a position of the rest of the line, if it is there and can be read. -/
def argument {alpha : Type} (parse : List Char -> Option alpha) (rest : List Char) (k : Nat) :
    Option alpha :=
  ((splitWhitespace rest)[k]?).bind parse

/-- The first word of a line and the rest, trimmed. -/
def splitCommand (line : List Char) : List Char × List Char :=
  match splitOnce ' ' line with
  | some (cmd, rest) => (cmd, trimChars rest)
  | none => (line, [])

/-! # Commands -/

def credentials (rest : List Char) (message : (username password : String) -> Message F) :
    Parsed F :=
  match splitOnce ' ' rest with
  | some (u, p) => .message (message (String.ofList u) (String.ofList p))
  | none => .nothing

section

variable [Geo F] [ParseF64 F]

def startCommand (rest : List Char) : Program F (Parsed F) :=
  requireToken fun t => do
    let lat := (argument ParseF64.parse rest 0).getD 45
    let lon := (argument ParseF64.parse rest 1).getD 9
    act (.setPos lat lon)
    act (.setAutopos true)
    let ts ← act .nowSecs
    return .message (.startTrip t lat lon ts)

def posCommand (rest : List Char) : Program F (Parsed F) :=
  requireToken fun t =>
  requireTrip fun tripId =>
    match argument ParseF64.parse rest 0, argument ParseF64.parse rest 1,
      argument parseI64 rest 2 with
    | some lat, some lon, some ts => do
        act (.setPos lat lon)
        return .message (.position t tripId lat lon ts)
    | _, _, _ => return .nothing

def statsCommand (rest : List Char) : Program F (Parsed F) :=
  requireToken fun t => do
    let now ← act .nowSecs
    match statsInterval now (String.ofList rest) with
    | some (some (fromTs, toTs, _)) => return .message (.stats t fromTs toTs)
    | some none => return .nothing
    | none => return .panicked

def statsRangeCommand (rest : List Char) : Program F (Parsed F) :=
  requireToken fun t =>
    match argument parseI64 rest 0, argument parseI64 rest 1 with
    | some fromTs, some toTs => return .message (.stats t fromTs toTs)
    | _, _ => return .nothing

def endCommand : Program F (Parsed F) :=
  requireToken fun t =>
  requireTrip fun tripId => do
    let ts ← act .nowSecs
    return .message (.endTrip t tripId ts)

def chatCommand (rest : List Char) : Program F (Parsed F) :=
  if rest.isEmpty then return .nothing
  else requireToken fun t => return .message (.chatToServer t (String.ofList rest))

def quitCommand : Program F (Parsed F) := do
  let token ← act .getToken
  return .message (.disconnect (token.getD ""))

def parseCmd (line : List Char) : Program F (Parsed F) :=
  let (cmd, rest) := splitCommand line
  match String.ofList cmd with
  | "/register" => return credentials rest .register
  | "/login" => return credentials rest .login
  | "/start" => startCommand rest
  | "/pos" => posCommand rest
  | "/stats" => statsCommand rest
  | "/stats-range" => statsRangeCommand rest
  | "/end" => endCommand
  | "/chat" => chatCommand rest
  | "/quit" => quitCommand
  | _ => return .nothing

end

end Wanderust.Cli
