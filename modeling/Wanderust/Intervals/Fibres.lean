import Mathlib.Algebra.Order.Ring.Int

/-!
# Intervals that are the fibres of a key

Around every point lies an interval, and the interval has exactly the points
with the key of that point.  Such intervals are equal or disjoint, and over the
integers each begins where another one ends.
-/

namespace Intervals

variable {T K : Type} [LinearOrder T] {key : T -> K} {lo hi : T -> T} {t t' x : T}

def Fibres (key : T -> K) (lo hi : T -> T) : Prop :=
  forall t x, (lo t ≤ x ∧ x ≤ hi t) <-> key x = key t

namespace Fibres

theorem contains (h : Fibres key lo hi) (t : T) : lo t ≤ t ∧ t ≤ hi t :=
  (h t t).mpr rfl

theorem bounds (h : Fibres key lo hi) (t : T) : lo t ≤ hi t :=
  le_trans (h.contains t).1 (h.contains t).2

theorem lo_eq (h : Fibres key lo hi) (hkey : key t' = key t) : lo t' = lo t := by
  apply le_antisymm
  · have hmem : key (lo t) = key t := (h t (lo t)).mp ⟨le_refl _, h.bounds t⟩
    exact ((h t' (lo t)).mpr (hmem.trans hkey.symm)).1
  · have hmem : key (lo t') = key t' := (h t' (lo t')).mp ⟨le_refl _, h.bounds t'⟩
    exact ((h t (lo t')).mpr (hmem.trans hkey)).1

theorem hi_eq (h : Fibres key lo hi) (hkey : key t' = key t) : hi t' = hi t := by
  apply le_antisymm
  · have hmem : key (hi t') = key t' := (h t' (hi t')).mp ⟨h.bounds t', le_refl _⟩
    exact ((h t (hi t')).mpr (hmem.trans hkey)).2
  · have hmem : key (hi t) = key t := (h t (hi t)).mp ⟨h.bounds t, le_refl _⟩
    exact ((h t' (hi t)).mpr (hmem.trans hkey.symm)).2

theorem eq_iff (h : Fibres key lo hi) : (lo t' = lo t ∧ hi t' = hi t) <-> key t' = key t := by
  constructor
  · intro heq
    apply (h t t').mp
    rw [← heq.1, ← heq.2]
    exact h.contains t'
  · intro hkey
    exact ⟨h.lo_eq hkey, h.hi_eq hkey⟩

theorem eq_iff_mem (h : Fibres key lo hi) :
    (lo t' = lo t ∧ hi t' = hi t) <->
      (lo t ≤ t' ∧ t' ≤ hi t) ∧ (lo t' ≤ t ∧ t ≤ hi t') := by
  rw [h.eq_iff, h t t', h t' t]
  exact ⟨fun hkey => ⟨hkey, hkey.symm⟩, fun hkey => hkey.1⟩

theorem disjoint (h : Fibres key lo hi) (hne : ¬ (lo t' = lo t ∧ hi t' = hi t)) :
    ¬ ((lo t ≤ x ∧ x ≤ hi t) ∧ lo t' ≤ x ∧ x ≤ hi t') := by
  intro hx
  rw [h t x, h t' x] at hx
  exact hne (h.eq_iff.mpr (hx.2.symm.trans hx.1))

theorem lo_succ_hi {key : Int -> K} {lo hi : Int -> Int} (h : Fibres key lo hi) (t : Int) :
    lo (hi t + 1) = hi t + 1 := by
  have hnext := h.contains (hi t + 1)
  rcases lt_or_eq_of_le hnext.1 with hlt | heq
  · -- the last point of the interval would share its key with the first one behind it
    have hlast : key (hi t) = key (hi t + 1) :=
      (h (hi t + 1) (hi t)).mp ⟨Int.le_of_lt_add_one hlt, by omega⟩
    have hin : key (hi t) = key t := (h t (hi t)).mp ⟨h.bounds t, le_refl _⟩
    have hmem := (h t (hi t + 1)).mpr (hlast.symm.trans hin)
    exact absurd hmem.2 (by omega)
  · exact heq

end Fibres

end Intervals
