import Wanderust.Sim.Route

/-!
# The choice of the next edge

At a node the simulator draws one of the neighbours other than the node it comes
from, and so it turns back only at a dead end.
-/

namespace Wanderust

open Sim Graphs

section

variable {F : Type} {s : Simulator F} {node avoid : Nat} {neigh : List UInt32}

theorem pickNext_avoid_iff (hneigh : s.graph.adj[node]? = some neigh) :
    (exists s', s.pickNext node avoid = .ok (avoid, s')) <->
      forall x, x ∈ neigh -> x.toNat = avoid := by
  constructor
  · intro h x hx
    rcases h with ⟨s', hs'⟩
    rcases @pickNext_ok F s node avoid neigh hneigh with ⟨next, rng, hpick, hgoes⟩
    rw [hs'] at hpick
    cases hpick
    exact hgoes.back rfl x.toNat ⟨neigh, hneigh, x, hx, rfl⟩
  · intro h
    exact ⟨s, pickNext_deadEnd hneigh (others_eq_nil_iff.mpr h)⟩

theorem exists_pickNext (hneigh : s.graph.adj[node]? = some neigh)
    (hlength : neigh.length < 2 ^ 64) {x : UInt32} (hx : x ∈ neigh) (hne : x.toNat ≠ avoid) :
    exists r : Rng, r.state ≠ 0 ∧
      ({ s with rng := r } : Simulator F).pickNext node avoid =
        .ok (x.toNat, { s with rng := r.nextU64.2 }) := by
  have hother : x ∈ others avoid neigh := mem_others.mpr ⟨hx, hne⟩
  rcases List.mem_iff_getElem?.mp hother with ⟨i, hi⟩
  have hlt : i < (others avoid neigh).length := (List.getElem?_eq_some_iff.mp hi).1
  have hfew : (others avoid neigh).length < 2 ^ 64 :=
    Nat.lt_of_le_of_lt (List.length_filter_le _ neigh) hlength
  rcases Rng.exists_below hlt hfew with ⟨r, hr, hbelow⟩
  have hdraw : r.nextU64.1.toNat % (others avoid neigh).length = i := by
    rw [Rng.below_of_pos r (Nat.zero_lt_of_lt hlt)] at hbelow
    exact congrArg Prod.fst (Except.ok.inj hbelow)
  have hneigh' : ({ s with rng := r } : Simulator F).graph.adj[node]? = some neigh := hneigh
  rcases pickNext_other hneigh' (List.ne_nil_of_mem hother) with ⟨y, hy, hpick⟩
  have hy' : (others avoid neigh)[r.nextU64.1.toNat % (others avoid neigh).length]? = some y := hy
  rw [hdraw, hi] at hy'
  cases hy'
  exact ⟨r, hr, hpick⟩

end

theorem next_edge_choice {F : Type} [Arith F] :
    (forall (s : Simulator F) (node avoid : Nat) (neigh : List UInt32),
      s.graph.adj[node]? = some neigh ->
        NoRemainderByZero (s.pickNext node avoid) ∧
        ((exists s', s.pickNext node avoid = .ok (avoid, s')) <->
          forall x, x ∈ neigh -> x.toNat = avoid) ∧
        (others avoid neigh ≠ [] ->
          exists x,
            (others avoid neigh)[s.rng.nextU64.1.toNat % (others avoid neigh).length]? = some x ∧
            pickLoop avoid (s.rng.nextU64.1.toNat % (others avoid neigh).length) neigh =
              .found x.toNat ∧
            s.pickNext node avoid = .ok (x.toNat, { s with rng := s.rng.nextU64.2 })) ∧
        (neigh.length < 2 ^ 64 -> forall x, x ∈ neigh -> x.toNat ≠ avoid ->
          exists r : Rng, r.state ≠ 0 ∧
            ({ s with rng := r } : Simulator F).pickNext node avoid =
              .ok (x.toNat, { s with rng := r.nextU64.2 }))) ∧
    forall (s : Simulator F) (dts : List F),
      (s.advancesRoute dts).result = s.advances dts ∧
      (forall s', s.advances dts = .ok s' ->
        exists before, s.route dts = before ++ [s'.fromNode, s'.toNode]) ∧
      forall i a b, (s.route dts)[i]? = some a -> (s.route dts)[i + 1]? = some b ->
        (s.route dts)[i + 2]? = some a -> forall x, s.graph.Adjacent b x -> x = a := by
  constructor
  · intro s node avoid neigh hneigh
    refine ⟨noRemainder_pickNext s node avoid, pickNext_avoid_iff hneigh, ?_, ?_⟩
    · intro hsome
      rcases pickNext_other hneigh hsome with ⟨x, hx, hpick⟩
      exact ⟨x, hx, pickLoop_found hx, hpick⟩
    · intro hlength x hx hne
      exact exists_pickNext hneigh hlength hx hne
  · intro s dts
    have hresult := s.advancesRoute_result dts
    have hstart : OnEdgeOf s.graph s (s.fromNode, s.toNode) := ⟨rfl, rfl⟩
    rcases advancesRoute_readable dts hstart with ⟨e, hreads, hend⟩
    refine ⟨hresult, ?_, ?_⟩
    · intro s' hs'
      rcases route_ends hreads with ⟨before, hbefore⟩
      have hedge := (hend s' (hresult.trans hs')).2
      rw [hedge] at hbefore
      exact ⟨before, hbefore⟩
    · intro i a b hfrom hto hback
      exact (route_choices hreads hfrom hto hback).back rfl

section

attribute [local instance] realArith

/-- A crossing of three roads, one of them listed twice, where the vehicle comes from node 0. -/
noncomputable def roadCrossing : Simulator ℝ where
  graph :=
    { nodes := [(0, 0), (0, 1), (0, 2), (1, 1)]
      adj := [[1], [0, 2, 3, 2], [1], [1]] }
  rng := Rng.new 0
  fromNode := 0
  toNode := 1
  offsetM := 0
  speedMps := 10
  driveSecsLeft := 100
  pauseSecsLeft := 0
  lastSpeedKmh := 0
  lat := 0
  lon := 0

theorem next_edge_choice_crossing :
    (exists s', roadCrossing.pickNext 2 1 = .ok (1, s')) ∧
      (exists x, (others 0 [0, 2, 3, 2])[roadCrossing.rng.nextU64.1.toNat % 3]? = some x) ∧
      exists r : Rng, r.state ≠ 0 ∧
        ({ roadCrossing with rng := r } : Simulator ℝ).pickNext 1 0 =
          .ok (3, { roadCrossing with rng := r.nextU64.2 }) := by
  have hdead := (next_edge_choice (F := ℝ)).1 roadCrossing 2 1 [1] rfl
  have hchoice := (next_edge_choice (F := ℝ)).1 roadCrossing 1 0 [0, 2, 3, 2] rfl
  have hback : forall x, x ∈ [(1 : UInt32)] -> x.toNat = 1 := by
    intro x hx
    rw [List.mem_singleton.mp hx]
    rfl
  have hthree : others 0 [0, 2, 3, 2] ≠ [] := by decide
  rcases hchoice.2.2.1 hthree with ⟨x, hx, _⟩
  refine ⟨hdead.2.1.mpr hback, ⟨x, hx⟩, ?_⟩
  exact hchoice.2.2.2 (by decide) 3 (by decide) (by decide)

end

end Wanderust
