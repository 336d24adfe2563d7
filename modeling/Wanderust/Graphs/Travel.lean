import Mathlib.Algebra.Order.Group.Defs
import Mathlib.Tactic.Abel

/-!
# Travelling along the edges of a graph

A traveller stands on an edge, at some offset from its first end.  It moves
forward, and at the end of the edge it goes on along another one.  The length
of a travel counts every edge that it passes, and travels can be joined.
-/

namespace Graphs

structure Place (V F : Type) where
  fromNode : V
  toNode : V
  offset : F

variable {V F : Type} [AddCommGroup F] [LinearOrder F]

/-- From one place to another, with the length of the way and the nodes it turned to. -/
inductive Travels (edge : V -> V -> Prop) (len : V -> V -> F) :
    Place V F -> F -> List V -> Place V F -> Prop
  | along {p : Place V F} {metres : F} (hforward : 0 ≤ metres)
      (hend : p.offset + metres ≤ len p.fromNode p.toNode) :
      Travels edge len p metres [] { p with offset := p.offset + metres }
  | pass {p q : Place V F} {next : V} {metres : F} {turns : List V}
      (hroad : p.offset ≤ len p.fromNode p.toNode) (hnext : edge p.toNode next)
      (hrest : Travels edge len { fromNode := p.toNode, toNode := next, offset := 0 } metres
        turns q) :
      Travels edge len p (len p.fromNode p.toNode - p.offset + metres) (next :: turns) q

namespace Travels

variable {edge : V -> V -> Prop} {len : V -> V -> F}
  {p q r : Place V F} {a b : F} {m n : List V}

theorem refl (h : p.offset ≤ len p.fromNode p.toNode) : Travels edge len p 0 [] p := by
  have hstep := @along V F _ _ edge len p 0 (le_refl 0) (by rw [add_zero]; exact h)
  rw [add_zero] at hstep
  exact hstep

variable [IsOrderedAddMonoid F]

theorem from_along (h : Travels edge len { p with offset := p.offset + a } b n q) (ha : 0 ≤ a)
    (hend : p.offset + a ≤ len p.fromNode p.toNode) : Travels edge len p (a + b) n q := by
  cases h with
  | along hforward hend' =>
      dsimp only at hend'
      rw [add_assoc] at hend' ⊢
      exact along (add_nonneg ha hforward) hend'
  | pass hroad hnext hrest =>
      rename_i next metres turns
      have hoffset : p.offset ≤ len p.fromNode p.toNode :=
        le_trans (le_add_of_nonneg_right ha) hend
      have hlength : a + (len p.fromNode p.toNode - (p.offset + a) + metres) =
          len p.fromNode p.toNode - p.offset + metres := by abel
      dsimp only
      rw [hlength]
      exact pass hoffset hnext hrest

theorem trans (h : Travels edge len p a m q) (h' : Travels edge len q b n r) :
    Travels edge len p (a + b) (m ++ n) r := by
  induction h with
  | along hforward hend => exact from_along h' hforward hend
  | pass hroad hnext _ ih =>
      rw [add_assoc]
      exact pass hroad hnext (ih h')

end Travels

end Graphs
