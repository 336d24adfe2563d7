import Wanderust.Session.Silent

/-!
# Handlers and the status of their user

A monitor follows what a handler knows about the trips of its user and whether
it still has to change his status.  Every handler follows the monitor, and none
ends while it owes a change of the status.
-/

namespace Wanderust

open Interleaving Prog Monitor

variable {F : Type}

/--
A token has been drawn that is not in use, or a trip of the user is known to be
open, or lost from memory, or to have moved, or to be ended.  While a stop is
stored, while a new trip is tracked and while his trips are closed, the handler
owes a change of the status.  After the session has been given up, only other
users are dealt with.
-/
inductive StatusPhase where
  | calm
  | drawn (token : String)
  | found (id : Int)
  | lost (id : Int)
  | moved (id : Int)
  | ended (id : Int)
  | owing (id : Int)
  | closing (ids : List Int)
  | switched
deriving DecidableEq

def StatusPhase.Owes : StatusPhase -> Prop
  | .owing _ | .closing _ => True
  | _ => False

/-- Between the parts of a handler: no trip is being dealt with. -/
def StatusPhase.Free (phase : StatusPhase) : Prop :=
  phase = .calm ∨ phase = .switched

theorem StatusPhase.Free.not_owes {phase : StatusPhase} (h : phase.Free) :
    ¬ phase.Owes := by
  rcases h with rfl | rfl
  · exact not_false
  · exact not_false

/-! # The monitor -/

/--
What a handler for `user` may do in a phase.  Only a handler of EndTrip closes a
trip just like that.
-/
def permitsStatus (user : Option String) (ending : Prop) : Op F -> StatusPhase -> Prop
  | .drawFreshToken, phase => phase = .calm
  | .tryInsertToken _ token, phase => phase = .drawn token
  | .setUserState _, phase | .invalidateToken _, phase | .invalidateUserSessions _, phase =>
      phase.Free
  | .statusSet name .stationary, phase =>
      phase.Free ∨ (user = some name ∧ exists id, phase = .owing id)
  | .statusSet name .moving, phase => user = some name ∧ exists id, phase = .moved id
  | .statusRemove name, phase =>
      phase.Free ∨ (user = some name ∧ exists ids, phase = .closing ids)
  | .trackTrip id _ _, phase => phase = .found id
  | .dropTrip id, phase => phase = .ended id ∨ exists ids, phase = .closing ids ∧ id ∈ ids
  | .observeCoord id _ _, phase => phase = .found id
  | .insertTrip name _, phase => user = some name ∧ phase = .calm
  | .insertPosition id _ _ _ stopped, phase =>
      phase.Owes -> phase = .owing id ∧ stopped = true
  | .updateTripEnded id name _, phase =>
      user = some name ∧ ((phase = .calm ∧ ending) ∨ phase = .lost id ∨
        exists ids, phase = .closing ids ∧ id ∈ ids)
  | .selectOpenTrip _ name, phase | .selectOpenTripIds name, phase =>
      user = some name ∧ phase = .calm
  | _, _ => True

def answersStatus (user : Option String) : (o : Op F) -> o.Ret -> StatusPhase -> Prop
  | .getUserState, r, phase => phase ≠ .switched -> r = user
  | .observeCoord _ _ _, r, _ => forall action, r = some (action, .toStationary) ->
      action = .insert true
  | _, _, _ => True

def StatusPhase.paid : StatusPhase -> StatusPhase
  | .owing _ | .closing _ => .calm
  | phase => phase

def afterSample (id : Int) : StatusTransition -> StatusPhase
  | .toMoving => .moved id
  | .toStationary => .owing id
  | .unchanged => .calm

def advance : (o : Op F) -> o.Ret -> StatusPhase -> StatusPhase
  | .drawFreshToken, token, _ => .drawn token
  | .tryInsertToken _ _, _, _ => .calm
  | .setUserState _, _, _ | .invalidateToken _, _, _ | .invalidateUserSessions _, _, _ => .switched
  | .statusSet _ .stationary, _, phase | .statusRemove _, _, phase => phase.paid
  | .statusSet _ .moving, _, _ => .calm
  | .trackTrip id _ _, _, _ => .owing id
  | .dropTrip _, _, .ended _ => .calm
  | .isTracked id, false, .found id' => if id = id' then .lost id else .found id'
  | .observeCoord id _ _, some (_, transition), _ => afterSample id transition
  | .observeCoord _ _ _, none, _ => .calm
  | .insertTrip _ _, .ok id, _ => .found id
  | .insertPosition _ _ _ _ _, .error _, .owing _ => .calm
  | .updateTripEnded id _ _, .ok n, .calm => if n = 0 then .calm else .ended id
  | .selectOpenTrip id _, .ok true, _ => .found id
  | .selectOpenTripIds _, .ok ids, _ => .closing ids
  | _, _, phase => phase

def Op.isUnwatched : Op F -> Bool
  | .selectUser _ | .selectPasswordHash _ | .insertUser .. | .bcryptHash _ | .nowSecs
  | .getUserByToken _ | .sinksInsert _ | .sinksRemove _ | .selectTrajectory .. | .send _
  | .sendClose => true
  | _ => false

def statusMonitor (user : Option String) (ending : Prop) : Monitor (@Op.Ret F) StatusPhase where
  permits := permitsStatus user ending
  moves o r phase phase' := answersStatus user o r phase ∧ phase' = advance o r phase

variable {user : Option String} {ending : Prop} {phase : StatusPhase} {alpha beta : Type}

def Clears (_ : alpha) (phase : StatusPhase) : Prop := ¬ phase.Owes

theorem follows_act {o : Op F} {f : o.Ret -> Program F beta} {post : beta -> StatusPhase -> Prop}
    (hpermits : permitsStatus user ending o phase)
    (hnext : forall r, answersStatus user o r phase ->
      (statusMonitor user ending).Follows (f r) post (advance o r phase)) :
    (statusMonitor user ending).Follows ((act o).bind f) post phase := by
  refine ⟨hpermits, ?_⟩
  intro r phase' hmoves
  rcases hmoves with ⟨hanswers, rfl⟩
  exact hnext r hanswers

end Wanderust
