import Wanderust.Logs.Logged

/-!
# Routes that are chosen edge by edge

A traveller on an edge chooses its next node by both ends of the edge.  The
nodes that it has chosen, behind the two ends of its first edge, are its route.
-/

namespace Graphs

open Logs

variable {V : Type} {choice : V -> V -> V -> Prop} {a b : V} {e : V × V} {log : List V}

def EdgeStep (choice : V -> V -> V -> Prop) (e : V × V) (next : V) (e' : V × V) : Prop :=
  choice e.1 e.2 next ∧ e' = (e.2, next)

theorem route_ends (h : Reads (EdgeStep choice) (a, b) log e) :
    exists before, a :: b :: log = before ++ [e.1, e.2] := by
  induction log generalizing a b with
  | nil =>
      cases h
      exact ⟨[], rfl⟩
  | cons next rest ih =>
      cases h with
      | cons hstep hrest =>
          rcases hstep with ⟨_, rfl⟩
          rcases ih hrest with ⟨before, hbefore⟩
          exact ⟨a :: before, by rw [hbefore]; rfl⟩

/-- Any three nodes in a row of a route are an edge and a choice on it. -/
theorem route_choices (h : Reads (EdgeStep choice) (a, b) log e) {i : Nat} {x y z : V}
    (hx : (a :: b :: log)[i]? = some x) (hy : (a :: b :: log)[i + 1]? = some y)
    (hz : (a :: b :: log)[i + 2]? = some z) : choice x y z := by
  induction log generalizing a b i with
  | nil =>
      rw [List.getElem?_eq_none (Nat.le_add_left 2 i)] at hz
      cases hz
  | cons next rest ih =>
      cases h with
      | cons hstep hrest =>
          rcases hstep with ⟨hchoice, rfl⟩
          cases i with
          | zero =>
              cases hx
              cases hy
              cases hz
              exact hchoice
          | succ i => exact ih hrest hx hy hz

end Graphs
