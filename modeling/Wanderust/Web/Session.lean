import Wanderust.Logs.Histories
import Wanderust.Web.Moves

/-!
# Session and trip of the page

The token in use is that of the newest session that has been opened, and a trip
goes on as long as nothing has ended it.  Every request is in keeping with both.
-/

namespace Wanderust.Page

open Sim Logs

variable {F : Type}

/-! # Events -/

def Event.opensSession (token : String) : Event F -> Bool
  | .received (.authOk t) => t == token
  | _ => false

/-- The session is replaced, or it is over. -/
def Event.endsSession : Event F -> Bool
  | .received (.authOk _) => true
  | .quit => true
  | _ => false

def Event.startsTrip (tripId : Int) : Event F -> Bool
  | .received (.tripStarted i _ _ _) => i == tripId
  | _ => false

def Event.endsTrip : Event F -> Bool
  | .received (.tripStarted ..) => true
  | .queued (.endTrip ..) => true
  | .closed => true
  | .quit => true
  | _ => false

/-- The session and the trip of the request go on. -/
structure InKeeping (before : List (Event F)) (msg : Message F) : Prop where
  token : forall t, msg.token? = some t ->
    Newest (Event.opensSession t) Event.endsSession before
  trip : forall i, msg.tripId? = some i -> Newest (Event.startsTrip i) Event.endsTrip before

def Allowed (before : List (Event F)) : Event F -> Prop
  | .queued msg => InKeeping before msg
  | _ => True

structure CoreInv (c : Core F) : Prop where
  token : forall t, c.token = some t -> Newest (Event.opensSession t) Event.endsSession c.history
  trip : c.tripActive = true ->
    exists i, c.tripId = some i ∧ Newest (Event.startsTrip i) Event.endsTrip c.history
  /-- There is no vehicle without a session and a graph. -/
  vehicle : c.sim ≠ .absent -> c.token.isSome = true ∧ c.graphJson.isSome = true
  allowed : Justified Allowed c.history

/-! # Moves -/

variable {c c' : Core F} {e : Event F}

theorem CoreInv.log (h : CoreInv c) (hsession : e.endsSession = false) (htrip : e.endsTrip = false)
    (hallowed : Allowed c.history e) : CoreInv (c.log e) where
  token := fun t ht => (h.token t ht).snoc hsession
  trip := by
    intro hactive
    rcases h.trip hactive with ⟨i, hi, hnewest⟩
    exact ⟨i, hi, hnewest.snoc htrip⟩
  vehicle := h.vehicle
  allowed := h.allowed.snoc hallowed

theorem CoreInv.over (h : CoreInv c) (hsession : e.endsSession = false)
    (hallowed : Allowed c.history e) : CoreInv { c.log e with tripActive := false } where
  token := fun t ht => (h.token t ht).snoc hsession
  trip := fun hactive => absurd hactive Bool.false_ne_true
  vehicle := h.vehicle
  allowed := h.allowed.snoc hallowed

/-- Where no graph has been loaded there is no vehicle, so `despawn` may leave it alone. -/
theorem despawn_eq (h : c.sim ≠ .absent -> c.graphJson.isSome = true) :
    c.despawn = { c with sim := .absent } := by
  unfold Core.despawn
  split
  case isTrue => rfl
  case isFalse hgraph =>
    have hsim : c.sim = .absent := by
      by_contra hsim
      exact hgraph (h hsim)
    rw [← hsim]

theorem CoreInv.ofVehicle (h : CoreInv c) {sim : Simulator F} (hsim : c.sim = .present sim) :
    c.token.isSome = true ∧ c.graphJson.isSome = true := by
  apply h.vehicle
  rw [hsim]
  intro hsame
  cases hsame

variable [Arith F] {fromStr : String -> Except String (Graph F)} {graphs : String -> Prop}

theorem CoreInv.ticking (h : CoreInv c) {sim sim' : Simulator F} (hsim : c.sim = .present sim) :
    CoreInv (c.ticking sim') := by
  have hlog : CoreInv (c.log (.ticked true)) := h.log rfl rfl trivial
  exact ⟨hlog.token, hlog.trip, fun _ => h.ofVehicle hsim, hlog.allowed⟩

theorem CoreInv.move (h : CoreInv c) (hmove : Move fromStr graphs c c') : CoreInv c' := by
  cases hmove with
  | transmitted frame => exact h.log rfl rfl trivial
  | loaded graphJson _ _ => exact ⟨h.token, h.trip, fun hsim => absurd rfl hsim, h.allowed⟩
  | received msg hplain =>
      cases msg with
      | authOk token => cases hplain
      | tripStarted tripId lat lon ts => cases hplain
      | _ => exact h.log rfl rfl trivial
  | authOk token =>
      refine ⟨?_, ?_, fun hsim => ⟨rfl, (h.vehicle hsim).2⟩, h.allowed.snoc trivial⟩
      · intro t ht
        cases ht
        exact newest_snoc (by simp [Event.opensSession])
      · intro hactive
        rcases h.trip hactive with ⟨i, hi, hnewest⟩
        exact ⟨i, hi, hnewest.snoc rfl⟩
  | respawned hgraph htoken hbuild =>
      exact ⟨h.token, h.trip, fun _ => ⟨htoken, by rw [hgraph]; rfl⟩, h.allowed⟩
  | tripStarted tripId lat lon ts =>
      refine ⟨fun t ht => (h.token t ht).snoc rfl, ?_, h.vehicle, h.allowed.snoc trivial⟩
      intro _
      exact ⟨tripId, rfl, newest_snoc (by simp [Event.startsTrip])⟩
  | asked msg htoken htrip hstart =>
      have hend : (Event.queued msg).endsTrip = false := by
        cases msg with
        | endTrip token tripId ts => cases htrip
        | _ => rfl
      refine h.log rfl hend ⟨fun t ht => h.token t (htoken t ht), ?_⟩
      intro i hi
      rw [htrip] at hi
      cases hi
  | @start token sim now htoken hsim =>
      have hlog := h.log rfl rfl (e := .queued (.startTrip token sim.lat sim.lon now)) ⟨?_, ?_⟩
      · exact ⟨hlog.token, hlog.trip, hlog.vehicle, hlog.allowed⟩
      · intro t ht
        cases ht
        exact h.token _ htoken
      · intro i hi
        cases hi
  | brokenStart now hsim => exact ⟨h.token, h.trip, h.vehicle, h.allowed⟩
  | stop now htoken htrip hactive =>
      refine h.over rfl ⟨?_, ?_⟩
      · intro t ht
        cases ht
        exact h.token _ htoken
      · intro i hi
        cases hi
        rcases h.trip hactive with ⟨i, hi, hnewest⟩
        rw [htrip] at hi
        cases hi
        exact hnewest
  | closed =>
      have hover : CoreInv { c.log .closed with tripActive := false } := h.over rfl trivial
      rw [despawn_eq fun hsim => (hover.vehicle hsim).2]
      exact ⟨hover.token, hover.trip, fun hsim => absurd rfl hsim, hover.allowed⟩
  | quit =>
      rw [despawn_eq]
      · refine ⟨?_, ?_, fun hsim => absurd rfl hsim, h.allowed.snoc trivial⟩
        · intro t ht
          cases ht
        · exact fun hactive => absurd hactive Bool.false_ne_true
      · exact fun hsim => (h.vehicle hsim).2
  | broken hsim hadvance => exact ⟨h.token, h.trip, fun _ => h.ofVehicle hsim, h.allowed⟩
  | idle hsim hadvance htrip =>
      have hlog : CoreInv (c.log (.ticked false)) := h.log rfl rfl trivial
      exact ⟨hlog.token, hlog.trip, fun _ => h.ofVehicle hsim, hlog.allowed⟩
  | driven hsim hadvance hactive hwait => exact h.ticking hsim
  | @sampled sim sim' token tripId hsim hadvance hactive htrip htoken hdue =>
      have hticking : CoreInv (c.ticking sim') := h.ticking hsim
      have hlog := hticking.log rfl rfl
        (e := .queued (.position token tripId sim'.lat sim'.lon (c.tripTs + State.sendSecs)))
        ⟨?_, ?_⟩
      · exact ⟨hlog.token, hlog.trip, hlog.vehicle, hlog.allowed⟩
      · intro t ht
        cases ht
        exact hticking.token _ htoken
      · intro i hi
        cases hi
        rcases hticking.trip hactive with ⟨i, hi, hnewest⟩
        cases htrip.symm.trans hi
        exact hnewest

theorem CoreInv.moves (h : CoreInv c) (hmoves : Moves fromStr graphs c c') : CoreInv c' := by
  induction hmoves with
  | refl => exact h
  | tail _ hmove ih => exact ih.move hmove

/-! # Runs -/

theorem coreInv_load (storage : Storage) : CoreInv (State.load storage : State F).core where
  token := by
    intro t ht
    cases ht
  trip := fun hactive => absurd hactive Bool.false_ne_true
  vehicle := fun hsim => absurd rfl hsim
  allowed := justified_nil

theorem moves_of_reachable {page : State F} (h : ReachableOn fromStr graphs page) :
    exists storage, Moves fromStr graphs (State.load storage : State F).core page.core := by
  rcases h with ⟨storage, hreach⟩
  refine ⟨storage, ?_⟩
  induction hreach with
  | refl => exact Moves.refl _
  | tail l _ hl hnext ih =>
      have hinv := (coreInv_load storage).moves ih
      refine ih.trans (next_moves hnext ?_ hl)
      intro sim hsim
      exact (hinv.ofVehicle hsim).1

end Wanderust.Page
