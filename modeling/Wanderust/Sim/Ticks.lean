import Wanderust.Sim.Route
import Wanderust.Sim.Timers

/-!
# The ticks of a drive

A drive in many short calls of `advance` against the same drive in a few long
ones.  What counts is only how many metres the calls let the vehicle go.
-/

namespace Wanderust.Sim

open Simulator

variable {F : Type}

/-! # The loop without its cap -/

section

variable [Arith F] {s s' : Simulator F} {budgetM : F} {passed : Nat}

/-- The loop drives to the end of its budget, past a number of nodes. -/
inductive Driven : Nat -> F -> Simulator F -> Simulator F -> Prop where
  | stop {s : Simulator F} {budgetM seg : F}
      (hseg : s.graph.segLenM s.fromNode s.toNode = .ok seg) (hlt : budgetM < seg - s.offsetM) :
      Driven 0 budgetM s { s with offsetM := s.offsetM + budgetM }
  | pass {s s1 s' : Simulator F} {passed : Nat} {budgetM seg : F}
      (hseg : s.graph.segLenM s.fromNode s.toNode = .ok seg) (hge : ¬ budgetM < seg - s.offsetM)
      (hpass : s.passNode = .ok s1)
      (h : Driven passed (budgetM - max (seg - s.offsetM) 0) s1 s') :
      Driven (passed + 1) budgetM s s'

theorem Driven.drive (h : Driven passed budgetM s s') {turns : Nat} (hturns : passed < turns) :
    Simulator.drive turns budgetM s = .ok s' := by
  induction h generalizing turns with
  | stop hseg hlt =>
      cases turns with
      | zero => exact absurd hturns (Nat.not_lt_zero _)
      | succ turns =>
          unfold Simulator.drive
          rw [bind_ok hseg]
          exact if_pos hlt
  | pass hseg hge hpass _ ih =>
      cases turns with
      | zero => exact absurd hturns (Nat.not_lt_zero _)
      | succ turns =>
          unfold Simulator.drive
          rw [bind_ok hseg]
          simp only [hge, if_false]
          rw [bind_ok hpass]
          exact ih (Nat.lt_of_succ_lt_succ hturns)

/-! # What the loop does not read -/

/-- The same drive at another time, with another place and another speed shown. -/
def Simulator.retimed (s : Simulator F) (driveSecsLeft lastSpeedKmh lat lon : F) : Simulator F :=
  { s with driveSecsLeft, lastSpeedKmh, lat, lon }

theorem passNode_retimed {s1 : Simulator F} (hpass : s.passNode = .ok s1)
    (offsetM driveSecsLeft lastSpeedKmh lat lon : F) :
    ({ s.retimed driveSecsLeft lastSpeedKmh lat lon with offsetM } : Simulator F).passNode =
      .ok (s1.retimed driveSecsLeft lastSpeedKmh lat lon) := by
  unfold Simulator.passNode at hpass
  rcases bind_ok_iff.mp hpass with ⟨⟨next, s2⟩, hpick, hrest⟩
  rcases bind_ok_iff.mp hrest with ⟨crossing, hcrossing, hend⟩
  unfold Simulator.pickNext at hpick
  rcases bind_ok_iff.mp hpick with ⟨neigh, hneigh, hnext⟩
  have hpicked : ({ s.retimed driveSecsLeft lastSpeedKmh lat lon with offsetM } :
      Simulator F).pickNext s.toNode s.fromNode =
      .ok (next, { s2.retimed driveSecsLeft lastSpeedKmh lat lon with offsetM }) := by
    refine bind_ok_iff.mpr ⟨neigh, hneigh, ?_⟩
    dsimp only at hnext ⊢
    split at hnext
    case isTrue hnone =>
      rw [if_pos hnone]
      cases hnext
      rfl
    case isFalse hsome =>
      rw [if_neg hsome]
      rcases bind_ok_iff.mp hnext with ⟨⟨k, rng⟩, hbelow, hpure⟩
      refine bind_ok_iff.mpr ⟨(k, rng), hbelow, ?_⟩
      cases hpure
      rfl
  refine bind_ok_iff.mpr ⟨_, hpicked, bind_ok_iff.mpr ⟨crossing, hcrossing, ?_⟩⟩
  cases crossing with
  | true =>
      cases hend
      rfl
  | false =>
      cases hend
      rfl

theorem retimed_of_pass {s1 : Simulator F} (hpass : s.passNode = .ok s1) :
    s1.retimed s.driveSecsLeft s.lastSpeedKmh s.lat s.lon = s1 := by
  have hsame := (passNode_passed hpass).1.same
  unfold Simulator.retimed
  rw [← hsame.driveSecsLeft, ← hsame.lastSpeedKmh, ← hsame.lat, ← hsame.lon]

theorem Driven.retimed (h : Driven passed budgetM s s')
    (driveSecsLeft lastSpeedKmh lat lon : F) :
    Driven passed budgetM (s.retimed driveSecsLeft lastSpeedKmh lat lon)
      (s'.retimed driveSecsLeft lastSpeedKmh lat lon) := by
  induction h with
  | stop hseg hlt => exact Driven.stop hseg hlt
  | @pass s _ _ _ _ _ hseg hge hpass _ ih =>
      exact Driven.pass hseg hge
        (passNode_retimed hpass s.offsetM driveSecsLeft lastSpeedKmh lat lon) ih

end

/-! # Two drives in a row -/

section

variable [ExactArith F] {g : Graph F} {s s' : Simulator F} {passed : Nat}

/-- A drive can be cut anywhere, and the rest of it is a drive again. -/
theorem Driven.split {x y : F} (h : Driven passed (x + y) s s') (hx : 0 ≤ x) (hy : 0 ≤ y) :
    exists early late s1, early + late = passed ∧ Driven early x s s1 ∧ Driven late y s1 s' := by
  generalize hbudget : x + y = budgetM at h
  induction h generalizing x with
  | @stop s budgetM seg hseg hlt =>
      subst hbudget
      refine ⟨0, 0, _, rfl, Driven.stop hseg (by linarith), ?_⟩
      have hrest : y < seg - (s.offsetM + x) := by linarith
      have hstop := Driven.stop (s := { s with offsetM := s.offsetM + x }) hseg hrest
      rw [add_assoc] at hstop
      exact hstop
  | @pass s s1 s' passed budgetM seg hseg hge hpass h ih =>
      subst hbudget
      by_cases hlt : x < seg - s.offsetM
      · refine ⟨0, passed + 1, _, Nat.zero_add _, Driven.stop hseg hlt, ?_⟩
        have hrest : ¬ y < seg - (s.offsetM + x) := by
          intro hlt'
          exact hge (by linarith)
        have hbudget : x + y - max (seg - s.offsetM) 0 = y - max (seg - (s.offsetM + x)) 0 := by
          rw [max_eq_left (le_trans hx (le_of_lt hlt)), max_eq_left (by linarith)]
          ring
        rw [hbudget] at h
        have hpass' := passNode_retimed hpass (s.offsetM + x) s.driveSecsLeft s.lastSpeedKmh
          s.lat s.lon
        rw [retimed_of_pass hpass] at hpass'
        exact Driven.pass hseg hrest hpass' h
      · have hnonneg : 0 ≤ x - max (seg - s.offsetM) 0 :=
          sub_nonneg.mpr (max_le (not_lt.mp hlt) hx)
        rcases ih hnonneg (by ring) with ⟨early, late, s2, hsum, hearly, hlate⟩
        exact ⟨early + 1, late, s2, by omega, Driven.pass hseg hlt hpass hearly, hlate⟩

end

/-! # From the notes of the loop -/

section

variable [ExactArith F] {g : Graph F} {s s' : Simulator F} {dts : List F}

theorem OnEdge.driven (hg : g.WellFormed) (h : OnEdge g s) {budgetM : F} (hbudget : 0 ≤ budgetM)
    {turns : Nat} (hcap : (driveRoute turns budgetM s).log.length < turns) :
    exists s', Driven (driveRoute turns budgetM s).log.length budgetM s s' := by
  induction turns generalizing budgetM s with
  | zero => exact absurd hcap (Nat.not_lt_zero _)
  | succ turns ih =>
      rcases h.within with ⟨a, b, ha, hb, hwithin⟩
      have hseg : s.graph.segLenM s.fromNode s.toNode = .ok (lengthM a b) := by
        rw [h.graph]
        exact Graph.segLenM_eq ha hb
      by_cases hlt : budgetM < lengthM a b - s.offsetM
      · rw [driveRoute_stop turns hseg hlt]
        exact ⟨_, Driven.stop hseg hlt⟩
      · have hto : s.toNode < s.graph.adj.length := by
          rw [h.graph]
          exact (hg.symmetric _ _ h.edge).lt_length
        rcases passNode_ok hto with ⟨s1, hs1, hp, _⟩
        rw [driveRoute_pass turns hseg hlt hs1, List.length_cons] at hcap ⊢
        have hleft : 0 ≤ budgetM - max (lengthM a b - s.offsetM) 0 :=
          sub_nonneg.mpr (max_le (not_lt.mp hlt) hbudget)
        rcases ih (h.passed hg hp) hleft (Nat.lt_of_succ_lt_succ hcap) with ⟨s', hdriven⟩
        exact ⟨s', Driven.pass hseg hlt hs1 hdriven⟩

/-! # Many calls -/

/-- The metres that the calls let the vehicle go, each at the speed of its beginning. -/
def Simulator.metres (s : Simulator F) : List F -> F
  | [] => 0
  | dt :: rest =>
      s.speedMps * dt +
        match s.advance dt with
        | .ok s' => s'.metres rest
        | .error _ => 0

end

end Wanderust.Sim
