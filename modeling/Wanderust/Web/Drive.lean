import Mathlib.Tactic.FieldSimp
import Wanderust.Sim.Road
import Wanderust.Web.Session

/-!
# The drive

Where the graph is well formed and the arithmetic exact, the vehicle of the page
stays on the road.  The positions of the page tell of places there.  Their times
are counted from the START_TRIP before them, whichever trip they belong to.
-/

namespace Wanderust.Page

open Sim Logs

variable {F : Type}

/-! # Events -/

def Event.startTs : Event F -> Option Int
  | .queued (.startTrip _ _ _ ts) => some ts
  | _ => none

def Event.positionTs : Event F -> Option Int
  | .queued (.position _ _ _ _ ts) => some ts
  | _ => none

def Event.isStart (e : Event F) : Bool := e.startTs.isSome

def Event.isPosition (e : Event F) : Bool := e.positionTs.isSome

def Event.isIdle : Event F -> Bool
  | .ticked false => true
  | _ => false

def Event.isDriving : Event F -> Bool
  | .ticked true => true
  | _ => false

/-- The times of the positions up to the next start. -/
def positionTimes (later : List (Event F)) : List Int :=
  (untilNext Event.isStart later).filterMap Event.positionTs

/-- The ticks since the last one on which no trip went on. -/
def ticks (h : List (Event F)) : Nat := (sinceLast Event.isIdle h).countP Event.isDriving

def positions (h : List (Event F)) : Nat := (sinceLast Event.isIdle h).countP Event.isPosition

section

variable {h : List (Event F)} {e : Event F}

theorem ticks_snoc (he : e.isIdle = false) :
    ticks (h ++ [e]) = ticks h + if e.isDriving then 1 else 0 := by
  rw [ticks, sinceLast_snoc, he, if_neg Bool.false_ne_true, List.countP_append,
    List.countP_singleton]
  rfl

theorem positions_snoc (he : e.isIdle = false) :
    positions (h ++ [e]) = positions h + if e.isPosition then 1 else 0 := by
  rw [positions, sinceLast_snoc, he, if_neg Bool.false_ne_true, List.countP_append,
    List.countP_singleton]
  rfl

end

/-! # Times -/

/-- The times of the first `n` positions after a start at `ts`. -/
def schedule (ts : Int) (n : Nat) : List Int :=
  (List.range n).map fun k : Nat => ts + (State.sendSecs : Int) * (k + 1)

theorem schedule_succ (ts : Int) (n : Nat) :
    schedule ts (n + 1) = schedule ts n ++ [ts + (State.sendSecs : Int) * (n + 1)] := by
  rw [schedule, List.range_succ, List.map_append]
  rfl

/-- After every start the positions follow its schedule, and `tripTs` is the time of the last. -/
def Scheduled (h : List (Event F)) (tripTs : Int) : Prop :=
  forall before e later ts, h = before ++ e :: later -> e.startTs = some ts -> exists n : Nat,
    positionTimes later = schedule ts n ∧
      ((forall e', e' ∈ later -> e'.isStart = false) -> tripTs = ts + (State.sendSecs : Int) * n)

/-- What one event does to the time of the next position. -/
def Reckons (e : Event F) (tripTs tripTs' : Int) : Prop :=
  match e.startTs with
  | some ts => tripTs' = ts
  | none =>
      match e.positionTs with
      | some ts => tripTs' = ts ∧ ts = tripTs + (State.sendSecs : Int)
      | none => tripTs' = tripTs

section

variable {h : List (Event F)} {e : Event F} {tripTs tripTs' : Int}

/-- An event that is no start adds its position to the latest schedule. -/
theorem positionTimes_snoc {later : List (Event F)}
    (hnone : forall e', e' ∈ later -> e'.isStart = false) (he : e.isStart = false) :
    positionTimes (later ++ [e]) = positionTimes later ++ e.positionTs.toList := by
  have hnone' : forall e', e' ∈ later ++ [e] -> e'.isStart = false := by
    intro e' he'
    rcases List.mem_append.mp he' with he' | he'
    · exact hnone e' he'
    · rw [List.mem_singleton.mp he']
      exact he
  rw [positionTimes, positionTimes, untilNext_of_none hnone, untilNext_of_none hnone',
    List.filterMap_append]
  cases hts : e.positionTs with
  | none => simp [hts]
  | some ts => simp [hts]

theorem Scheduled.snoc (hh : Scheduled h tripTs) (he : Reckons e tripTs tripTs') :
    Scheduled (h ++ [e]) tripTs' := by
  intro before e' later ts hsplit hts
  rcases split_snoc hsplit with ⟨rfl, rfl, rfl⟩ | ⟨init, rfl, hinit⟩
  · rw [Reckons, hts] at he
    exact ⟨0, rfl, fun _ => by simp [he]⟩
  · rcases hh before e' init ts hinit hts with ⟨n, htimes, htripTs⟩
    by_cases hsome : exists e', e' ∈ init ∧ e'.isStart = true
    · refine ⟨n, ?_, ?_⟩
      · rw [positionTimes, untilNext_append_of_some hsome]
        exact htimes
      · intro hnone
        rcases hsome with ⟨e', hmem, he'⟩
        rw [hnone e' (List.mem_append_left _ hmem)] at he'
        cases he'
    · have hnone : forall e', e' ∈ init -> e'.isStart = false := by
        intro e' hmem
        cases hstart : e'.isStart with
        | true => exact absurd ⟨e', hmem, hstart⟩ hsome
        | false => rfl
      cases hstart : e.startTs with
      | some ts' =>
          have hstarts : e.isStart = true := by rw [Event.isStart, hstart]; rfl
          refine ⟨n, ?_, ?_⟩
          · rw [← htimes, positionTimes, positionTimes, untilNext_of_none hnone, untilNext,
              List.takeWhile_append_of_pos (by simpa using hnone)]
            simp [hstarts]
          · intro hnone'
            rw [hnone' e (by simp)] at hstarts
            cases hstarts
      | none =>
          have hplain : e.isStart = false := by rw [Event.isStart, hstart]; rfl
          rw [positionTimes_snoc hnone hplain, htimes]
          rw [Reckons, hstart] at he
          cases hposition : e.positionTs with
          | none =>
              simp only [hposition] at he
              exact ⟨n, List.append_nil _, fun _ => he.trans (htripTs hnone)⟩
          | some ts' =>
              simp only [hposition] at he
              have hnext : ts' = ts + (State.sendSecs : Int) * (n + 1) := by
                rw [he.2, htripTs hnone]
                ring
              refine ⟨n + 1, ?_, fun _ => ?_⟩
              · rw [schedule_succ, ← hnext]
                rfl
              · rw [he.1, hnext]
                push_cast
                rfl

end

/-! # The invariant -/

variable [ExactArith F]

def AtRoad (g : Graph F) (lat lon : F) : Prop :=
  exists i j a b, g.Adjacent i j ∧ g.nodes[i]? = some a ∧ g.nodes[j]? = some b ∧
    InBox a b (lat, lon)

def Placed (g : Graph F) : Event F -> Prop
  | .queued (.startTrip _ lat lon _) => AtRoad g lat lon
  | .queued (.position _ _ lat lon _) => AtRoad g lat lon
  | _ => True

def sendTicks : Nat := 300

structure DriveInv (fromStr : String -> Except String (Graph F)) (g : Graph F) (c : Core F) :
    Prop where
  graph : forall graphJson, c.graphJson = some graphJson -> fromStr graphJson = .ok g
  sim : c.sim = .absent ∨ exists s, c.sim = .present s ∧ OnRoad g s
  placed : forall e, e ∈ c.history -> Placed g e
  scheduled : Scheduled c.history c.tripTs
  positions : positions c.history = ticks c.history / sendTicks
  since : (if c.wasActive then c.sinceSend else 0) =
    ((ticks c.history % sendTicks : Nat) : F) * State.tickSecs
  rest : c.wasActive = false -> ticks c.history = 0

/-! # Numbers -/

theorem tickSecs_eq : (State.tickSecs : F) = 1 / 10 := by
  unfold State.tickSecs State.animMs State.timeScale
  norm_num

theorem sendTicks_secs : (sendTicks : F) * State.tickSecs = (State.sendSecs : F) := by
  rw [tickSecs_eq]
  unfold sendTicks State.sendSecs
  norm_num

theorem due_iff (n : Nat) :
    (State.sendSecs : F) ≤ (n : F) * State.tickSecs + State.tickSecs <-> sendTicks ≤ n + 1 := by
  have hpos : (0 : F) < State.tickSecs := by
    rw [tickSecs_eq]
    norm_num
  rw [← sendTicks_secs, ← add_one_mul, mul_le_mul_iff_left₀ hpos]
  exact_mod_cast Iff.rfl

/-! # Moves -/

variable {fromStr : String -> Except String (Graph F)} {g : Graph F} {c c' : Core F} {e : Event F}

theorem atRoad_of_onRoad {s : Simulator F} (h : OnRoad g s) : AtRoad g s.lat s.lon := by
  rcases h.position with ⟨a, b, ha, hb, _, _, hbox⟩
  exact ⟨_, _, a, b, h.edge, ha, hb, hbox⟩

theorem DriveInv.same (h : DriveInv fromStr g c) (hgraph : c'.graphJson = c.graphJson)
    (hsim : c'.sim = c.sim ∨ c'.sim = .absent) (hhistory : c'.history = c.history)
    (hts : c'.tripTs = c.tripTs) (hsince : c'.sinceSend = c.sinceSend)
    (hactive : c'.wasActive = c.wasActive) : DriveInv fromStr g c' where
  graph := by
    rw [hgraph]
    exact h.graph
  sim := by
    rcases hsim with hsim | hsim
    · rw [hsim]
      exact h.sim
    · exact Or.inl hsim
  placed := by
    rw [hhistory]
    exact h.placed
  scheduled := by
    rw [hhistory, hts]
    exact h.scheduled
  positions := by
    rw [hhistory]
    exact h.positions
  since := by
    rw [hhistory, hsince, hactive]
    exact h.since
  rest := by
    rw [hhistory, hactive]
    exact h.rest

theorem DriveInv.despawn (h : DriveInv fromStr g c) : DriveInv fromStr g c.despawn := by
  unfold Core.despawn
  split
  · exact h.same rfl (Or.inr rfl) rfl rfl rfl rfl
  · exact h

theorem placed_snoc (h : forall e, e ∈ c.history -> Placed g e) (he : Placed g e) :
    forall e', e' ∈ (c.log e).history -> Placed g e' := by
  intro e' he'
  rcases List.mem_append.mp he' with he' | he'
  · exact h e' he'
  · rw [List.mem_singleton.mp he']
    exact he

theorem DriveInv.log (h : DriveInv fromStr g c) (hstart : e.startTs = none)
    (hposition : e.positionTs = none) (hidle : e.isIdle = false) (hdriving : e.isDriving = false) :
    DriveInv fromStr g (c.log e) := by
  have hnotPosition : e.isPosition = false := by rw [Event.isPosition, hposition]; rfl
  have hplaced : Placed g e := by
    cases e with
    | queued msg =>
        cases msg with
        | startTrip token lat lon ts => cases hstart
        | position token tripId lat lon ts => cases hposition
        | _ => trivial
    | _ => trivial
  have hreckons : Reckons e c.tripTs c.tripTs := by
    rw [Reckons, hstart, hposition]
  have hpositions : Page.positions (c.log e).history = Page.positions c.history := by
    show Page.positions (c.history ++ [e]) = _
    rw [positions_snoc hidle, hnotPosition]
    rfl
  have hticks : ticks (c.log e).history = ticks c.history := by
    show ticks (c.history ++ [e]) = _
    rw [ticks_snoc hidle, hdriving]
    rfl
  refine ⟨h.graph, h.sim, placed_snoc h.placed hplaced, h.scheduled.snoc hreckons, ?_, ?_, ?_⟩
  · rw [hpositions, hticks]
    exact h.positions
  · rw [hticks]
    exact h.since
  · rw [hticks]
    exact h.rest

theorem DriveInv.present (h : DriveInv fromStr g c) {sim : Simulator F}
    (hsim : c.sim = .present sim) : OnRoad g sim := by
  rcases h.sim with habsent | ⟨s, hpresent, hroad⟩
  · cases hsim.symm.trans habsent
  · cases hsim.symm.trans hpresent
    exact hroad

theorem DriveInv.advanced (h : DriveInv fromStr g c) (hg : g.WellFormed) {sim sim' : Simulator F}
    (hsim : c.sim = .present sim) (hadvance : sim.advance State.tickSecs = .ok sim') :
    OnRoad g sim' := by
  rcases (h.present hsim).advance hg State.tickSecs with ⟨s, hs, hroad⟩
  cases hadvance.symm.trans hs
  exact hroad

theorem DriveInv.start (h : DriveInv fromStr g c) {token : String} {sim : Simulator F} (now : Int)
    (hsim : c.sim = .present sim) :
    DriveInv fromStr g
      { c.log (.queued (.startTrip token sim.lat sim.lon now)) with tripTs := now } where
  graph := h.graph
  sim := h.sim
  placed := placed_snoc h.placed (atRoad_of_onRoad (h.present hsim))
  scheduled := h.scheduled.snoc rfl
  positions := by
    show Page.positions (c.history ++ [_]) = ticks (c.history ++ [_]) / _
    rw [positions_snoc rfl, ticks_snoc rfl]
    exact h.positions
  since := by
    show _ = ((ticks (c.history ++ [_]) % _ : Nat) : F) * _
    rw [ticks_snoc rfl]
    exact h.since
  rest := by
    show _ -> ticks (c.history ++ [_]) = 0
    rw [ticks_snoc rfl]
    exact h.rest

theorem DriveInv.idle (h : DriveInv fromStr g c) (hg : g.WellFormed) {sim sim' : Simulator F}
    (hsim : c.sim = .present sim) (hadvance : sim.advance State.tickSecs = .ok sim') :
    DriveInv fromStr g { c.log (.ticked false) with sim := .present sim', wasActive := false } := by
  have hticks : ticks (c.log (.ticked false)).history = 0 := by
    show (sinceLast _ (c.history ++ [_])).countP _ = 0
    rw [sinceLast_snoc]
    rfl
  have hpositions : Page.positions (c.log (.ticked false)).history = 0 := by
    show (sinceLast _ (c.history ++ [_])).countP _ = 0
    rw [sinceLast_snoc]
    rfl
  refine ⟨h.graph, Or.inr ⟨sim', rfl, h.advanced hg hsim hadvance⟩, placed_snoc h.placed trivial,
    h.scheduled.snoc rfl, ?_, ?_, fun _ => hticks⟩
  · show Page.positions (c.log (.ticked false)).history = ticks (c.log (.ticked false)).history / _
    rw [hticks, hpositions, Nat.zero_div]
  · show (if false = true then _ else 0) =
      ((ticks (c.log (.ticked false)).history % _ : Nat) : F) * _
    rw [hticks]
    simp

/-- What is the same after a tick on which the trip goes on, a position being due or not. -/
theorem ticking_since (h : DriveInv fromStr g c) (sim : Simulator F) :
    (c.ticking sim).sinceSend =
      ((ticks c.history % sendTicks : Nat) : F) * State.tickSecs + State.tickSecs := by
  show (if c.wasActive = true then c.sinceSend else 0) + _ = _
  rw [h.since]

theorem DriveInv.driven (h : DriveInv fromStr g c) (hg : g.WellFormed) {sim sim' : Simulator F}
    (hsim : c.sim = .present sim) (hadvance : sim.advance State.tickSecs = .ok sim')
    (hwait : ¬ (State.sendSecs : F) ≤ (c.ticking sim').sinceSend) :
    DriveInv fromStr g (c.ticking sim') := by
  rw [ticking_since h, due_iff] at hwait
  have hlt : ticks c.history % sendTicks + 1 < sendTicks := Nat.lt_of_not_le hwait
  have hticks : ticks (c.ticking sim').history = ticks c.history + 1 := ticks_snoc rfl
  refine ⟨h.graph, Or.inr ⟨sim', rfl, h.advanced hg hsim hadvance⟩, placed_snoc h.placed trivial,
    h.scheduled.snoc rfl, ?_, ?_, ?_⟩
  · have hpositions : Page.positions (c.ticking sim').history = Page.positions c.history :=
      positions_snoc rfl
    rw [hpositions, hticks, h.positions]
    unfold sendTicks at *
    omega
  · have hmod : (ticks c.history + 1) % sendTicks = ticks c.history % sendTicks + 1 := by
      unfold sendTicks at *
      omega
    show (c.ticking sim').sinceSend = _
    rw [ticking_since h, hticks, hmod, Nat.cast_succ, add_one_mul]
  · intro hactive
    cases hactive

theorem DriveInv.sampled (h : DriveInv fromStr g c) (hg : g.WellFormed) {sim sim' : Simulator F}
    {token : String} {tripId : Int} (hsim : c.sim = .present sim)
    (hadvance : sim.advance State.tickSecs = .ok sim')
    (hdue : (State.sendSecs : F) ≤ (c.ticking sim').sinceSend) :
    DriveInv fromStr g { (c.ticking sim').log (.queued
        (.position token tripId sim'.lat sim'.lon (c.tripTs + State.sendSecs))) with
      sinceSend := (c.ticking sim').sinceSend - (State.sendSecs : F)
      tripTs := c.tripTs + State.sendSecs } := by
  have hroad := h.advanced hg hsim hadvance
  have hsince := ticking_since h sim'
  rw [hsince, due_iff] at hdue
  have hmod : ticks c.history % sendTicks + 1 = sendTicks := by
    unfold sendTicks at *
    omega
  have hspent : ((ticks c.history % sendTicks : Nat) : F) * State.tickSecs + State.tickSecs =
      (State.sendSecs : F) := by
    rw [← sendTicks_secs, ← add_one_mul]
    exact_mod_cast congrArg (fun n : Nat => (n : F) * State.tickSecs) hmod
  have hticks : ticks (c.history ++ [.ticked true] ++ [.queued
      (.position token tripId sim'.lat sim'.lon (c.tripTs + State.sendSecs))]) =
      ticks c.history + 1 := by
    rw [ticks_snoc rfl, ticks_snoc rfl]
    rfl
  have hticked : Scheduled (c.history ++ [.ticked true]) c.tripTs := h.scheduled.snoc rfl
  have hscheduled : Scheduled (c.history ++ [.ticked true] ++ [.queued
      (.position token tripId sim'.lat sim'.lon (c.tripTs + State.sendSecs))])
      (c.tripTs + State.sendSecs) := hticked.snoc ⟨rfl, rfl⟩
  refine ⟨h.graph, Or.inr ⟨sim', rfl, hroad⟩,
    placed_snoc (c := c.ticking sim') (placed_snoc h.placed trivial) (atRoad_of_onRoad hroad),
    hscheduled, ?_, ?_, ?_⟩
  · show Page.positions (c.history ++ [_] ++ [_]) = ticks (c.history ++ [_] ++ [_]) / _
    rw [hticks, positions_snoc rfl, positions_snoc rfl, h.positions]
    show ticks c.history / sendTicks + 0 + 1 = _
    unfold sendTicks at *
    omega
  · show (c.ticking sim').sinceSend - _ = ((ticks (c.history ++ [_] ++ [_]) % _ : Nat) : F) * _
    have hnext : (ticks c.history + 1) % sendTicks = 0 := by
      unfold sendTicks at *
      omega
    rw [hsince, hspent, hticks, hnext, sub_self, Nat.cast_zero, zero_mul]
  · intro hactive
    cases hactive

theorem DriveInv.move (h : DriveInv fromStr g c) (hg : g.WellFormed)
    (hmove : Move fromStr (fun graphJson => fromStr graphJson = .ok g) c c') :
    DriveInv fromStr g c' := by
  cases hmove with
  | transmitted frame => exact h.log rfl rfl rfl rfl
  | loaded graphJson hjson hnone =>
      refine ⟨?_, Or.inl rfl, h.placed, h.scheduled, h.positions, h.since, h.rest⟩
      intro graphJson' hloaded
      cases hloaded
      exact hjson
  | received msg hplain => exact h.log rfl rfl rfl rfl
  | authOk token => exact (h.log rfl rfl rfl rfl).same rfl (Or.inl rfl) rfl rfl rfl rfl
  | @respawned graphJson seed sim hgraph htoken hbuild =>
      refine ⟨h.graph, Or.inr ⟨sim, rfl, ?_⟩, h.placed, h.scheduled, h.positions, h.since, h.rest⟩
      rw [build_of_parsed (h.graph graphJson hgraph)] at hbuild
      exact (ofGraph_started hbuild).onRoad hg
  | tripStarted tripId lat lon ts =>
      exact (h.log rfl rfl rfl rfl).same rfl (Or.inl rfl) rfl rfl rfl rfl
  | asked msg htoken htrip hstart =>
      cases msg with
      | startTrip token lat lon ts => exact absurd rfl (hstart token lat lon ts)
      | position token tripId lat lon ts => cases htrip
      | _ => exact h.log rfl rfl rfl rfl
  | start now htoken hsim => exact h.start now hsim
  | brokenStart now hsim =>
      rcases h.sim with habsent | ⟨s, hpresent, _⟩
      · cases hsim.symm.trans habsent
      · cases hsim.symm.trans hpresent
  | stop now htoken htrip hactive =>
      exact (h.log rfl rfl rfl rfl).same rfl (Or.inl rfl) rfl rfl rfl rfl
  | closed =>
      have hclosed : DriveInv fromStr g { c.log .closed with tripActive := false } :=
        (h.log rfl rfl rfl rfl).same rfl (Or.inl rfl) rfl rfl rfl rfl
      exact hclosed.despawn
  | quit =>
      have hquit : DriveInv fromStr g
          { c.log .quit with tripActive := false, token := none, tripId := none } :=
        (h.log rfl rfl rfl rfl).same rfl (Or.inl rfl) rfl rfl rfl rfl
      exact hquit.despawn
  | broken hsim hadvance =>
      rcases (h.present hsim).advance hg State.tickSecs with ⟨s, hs, _⟩
      exact absurd hs (hadvance s)
  | idle hsim hadvance htrip => exact h.idle hg hsim hadvance
  | driven hsim hadvance hactive hwait => exact h.driven hg hsim hadvance hwait
  | sampled hsim hadvance hactive htrip htoken hdue => exact h.sampled hg hsim hadvance hdue

theorem DriveInv.moves (h : DriveInv fromStr g c) (hg : g.WellFormed)
    (hmoves : Moves fromStr (fun graphJson => fromStr graphJson = .ok g) c c') :
    DriveInv fromStr g c' := by
  induction hmoves with
  | refl => exact h
  | tail _ hmove ih => exact ih.move hg hmove

/-! # Runs -/

theorem driveInv_load (storage : Storage) :
    DriveInv fromStr g (State.load storage : State F).core where
  graph := by
    intro graphJson hnone
    cases hnone
  sim := Or.inl rfl
  placed := fun _ he => absurd he List.not_mem_nil
  scheduled := by
    intro before e later ts hsplit
    exact absurd hsplit.symm (List.append_ne_nil_of_right_ne_nil before (List.cons_ne_nil e later))
  positions := (Nat.zero_div sendTicks).symm
  since := by
    show (0 : F) = ((0 : Nat) : F) * _
    rw [Nat.cast_zero, zero_mul]
  rest := fun _ => rfl

theorem driveInv_reachable (hg : g.WellFormed) {page : State F}
    (h : ReachableOn fromStr (fun graphJson => fromStr graphJson = .ok g) page) :
    DriveInv fromStr g page.core := by
  rcases moves_of_reachable h with ⟨storage, hmoves⟩
  exact (driveInv_load storage).moves hg hmoves

end Wanderust.Page
