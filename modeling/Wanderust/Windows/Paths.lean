import Mathlib.Algebra.Group.Hom.Defs
import Wanderust.Windows.Grouping

/-!
# The length of a path

Where the weight of a pair is a distance, the sum over the adjacent pairs of a
list is the length of a path, and a path that leaves out points is no longer.
-/

namespace Windows

section

variable {A M N : Type} [AddCommGroup M] [AddCommGroup N]

theorem windowSum_map (f : M →+ N) (g : A -> A -> M) (items : List A) :
    windowSum (fun a b => f (g a b)) items = f (windowSum g items) := by
  induction items with
  | nil => exact (map_zero f).symm
  | cons a rest ih =>
      cases rest with
      | nil => exact (map_zero f).symm
      | cons b rest =>
          rw [windowSum_cons_cons, windowSum_cons_cons, map_add, ih]

end

section

variable {A M : Type} [AddCommGroup M] [PartialOrder M] [IsOrderedAddMonoid M]

/-- A distance that need not be symmetric. -/
structure IsDistance (d : A -> A -> M) : Prop where
  nonneg : forall a b, 0 ≤ d a b
  triangle : forall a b c, d a c ≤ d a b + d b c

variable {d : A -> A -> M} {items items' : List A}

theorem IsDistance.detour (h : IsDistance d) (a b : A) (rest : List A) :
    windowSum d (a :: rest) ≤ d a b + windowSum d (b :: rest) := by
  cases rest with
  | nil => exact add_nonneg (h.nonneg a b) (le_refl 0)
  | cons c rest =>
      rw [windowSum_cons_cons, windowSum_cons_cons, ← add_assoc]
      exact add_le_add_left (h.triangle a b c) _

/-- The induction follows the sublist; the paths start at the same point. -/
theorem IsDistance.path_le_from (h : IsDistance d) (hsub : items.Sublist items') (a : A) :
    windowSum d (a :: items) ≤ windowSum d (a :: items') := by
  induction hsub generalizing a with
  | slnil => exact le_refl _
  | cons b _ ih =>
      rw [windowSum_cons_cons]
      exact (h.detour a b _).trans (add_le_add_right (ih b) _)
  | cons_cons b _ ih =>
      rw [windowSum_cons_cons, windowSum_cons_cons]
      exact add_le_add_right (ih b) _

theorem IsDistance.path_le (h : IsDistance d) (hsub : items.Sublist items') :
    windowSum d items ≤ windowSum d items' := by
  induction hsub with
  | slnil => exact le_refl _
  | @cons items items' b _ ih =>
      refine ih.trans ?_
      cases items' with
      | nil => exact le_refl _
      | cons c rest => exact le_add_of_nonneg_left (h.nonneg b c)
  | cons_cons b hsub _ => exact h.path_le_from hsub b

end

end Windows
