import Mathlib.Algebra.BigOperators.Group.Finset.Piecewise
import Mathlib.Algebra.BigOperators.Group.List.Lemmas
import Mathlib.Algebra.Order.Group.Defs
import Mathlib.Order.Defs.LinearOrder
import Wanderust.Windows.Thinning

/-!
# Sums over grouped lists

A weight that vanishes between items of different keys can be summed key by
key.  A weight that is bounded by the growth of a potential telescopes.
-/

namespace Windows

section

variable {A M : Type} [AddCommGroup M]

/-- Lists can be put together when nothing is weighed across the seam. -/
theorem windowSum_append {g : A -> A -> M} {items items' : List A}
    (hseam : forall a, a ∈ items -> forall b, b ∈ items' -> g a b = 0) :
    windowSum g (items ++ items') = windowSum g items + windowSum g items' := by
  induction items with
  | nil => rw [List.nil_append, windowSum_nil, zero_add]
  | cons a rest ih =>
      have hrest := ih fun x hx => hseam x (List.mem_cons_of_mem a hx)
      cases rest with
      | nil =>
          cases items' with
          | nil => simp
          | cons b rest' =>
              rw [List.cons_append, List.nil_append, windowSum_cons_cons,
                hseam a List.mem_cons_self b List.mem_cons_self, windowSum_singleton]
      | cons b rest =>
          rw [List.cons_append, List.cons_append, windowSum_cons_cons, ← List.cons_append, hrest,
            windowSum_cons_cons, add_assoc]

/-- The growth of a potential adds up to what lies between the two ends. -/
theorem windowSum_telescope (phi : A -> M) (a : A) (rest : List A) :
    windowSum (fun x y => phi y - phi x) (a :: rest) =
      phi ((a :: rest).getLast (List.cons_ne_nil a rest)) - phi a := by
  induction rest generalizing a with
  | nil => simp
  | cons b rest ih =>
      rw [windowSum_cons_cons, ih b, List.getLast_cons (List.cons_ne_nil b rest)]
      abel

end

/-! # Bounds -/

theorem isChain_and {A : Type} {R S : A -> A -> Prop} {items : List A}
    (hr : List.IsChain R items) (hs : List.IsChain S items) :
    List.IsChain (fun a b => R a b ∧ S a b) items := by
  rw [List.isChain_iff_forall_rel_of_append_cons_cons] at *
  intro a b pre post hsplit
  exact ⟨hr hsplit, hs hsplit⟩

section

variable {A M : Type} [AddCommGroup M] [PartialOrder M] [IsOrderedAddMonoid M]

theorem windowSum_le {g h : A -> A -> M} {items : List A}
    (hle : List.IsChain (fun a b => g a b ≤ h a b) items) :
    windowSum g items ≤ windowSum h items := by
  induction items with
  | nil => exact le_refl _
  | cons a rest ih =>
      cases rest with
      | nil => exact le_refl _
      | cons b rest =>
          rcases List.isChain_cons_cons.mp hle with ⟨hab, hrest⟩
          exact add_le_add hab (ih hrest)

/-- A bound on the weights is attained exactly when every weight attains it. -/
theorem windowSum_eq_iff {g h : A -> A -> M} {items : List A}
    (hle : List.IsChain (fun a b => g a b ≤ h a b) items) :
    windowSum g items = windowSum h items <-> List.IsChain (fun a b => g a b = h a b) items := by
  induction items with
  | nil => simp
  | cons a rest ih =>
      cases rest with
      | nil => simp
      | cons b rest =>
          rcases List.isChain_cons_cons.mp hle with ⟨hab, hrest⟩
          rw [windowSum_cons_cons, windowSum_cons_cons, List.isChain_cons_cons, ← ih hrest]
          exact add_eq_add_iff_eq_and_eq hab (windowSum_le hrest)

end

/-! # Keys -/

section

variable {A K M : Type} [LinearOrder K] [AddCommGroup M] {key : A -> K} {g : A -> A -> M}

def ofKey (key : A -> K) (k : K) (items : List A) : List A :=
  items.filter fun a => decide (key a = k)

theorem mem_ofKey {k : K} {items : List A} {a : A} :
    a ∈ ofKey key k items <-> a ∈ items ∧ key a = k := by
  simp [ofKey]

theorem ofKey_cons_eq {a : A} {k : K} (h : key a = k) (rest : List A) :
    ofKey key k (a :: rest) = a :: ofKey key k rest := by
  simp [ofKey, h]

theorem ofKey_cons_ne {a : A} {k : K} (h : key a ≠ k) (rest : List A) :
    ofKey key k (a :: rest) = ofKey key k rest := by
  simp [ofKey, h]

theorem ofKey_eq_nil {k : K} {items : List A} (h : k ∉ (items.map key).toFinset) :
    ofKey key k items = [] := by
  rw [ofKey, List.filter_eq_nil_iff]
  intro a ha hkey
  apply h
  rw [List.mem_toFinset, List.mem_map]
  exact ⟨a, ha, of_decide_eq_true hkey⟩

def VanishesAcross (key : A -> K) (g : A -> A -> M) : Prop :=
  forall a b, key a ≠ key b -> g a b = 0

/--
The induction follows the list.  Its first item either opens the group of its
key or stands in front of the items of that key, since the keys are sorted.
-/
theorem windowSum_eq_sum_ofKey (hg : VanishesAcross key g) {items : List A}
    (hsorted : items.Pairwise fun a b => key a ≤ key b) :
    windowSum g items =
      ∑ k ∈ (items.map key).toFinset, windowSum g (ofKey key k items) := by
  induction items with
  | nil => simp
  | cons a rest ih =>
      rcases List.pairwise_cons.mp hsorted with ⟨hfirst, hrest⟩
      have hsum := ih hrest
      have hother : forall k, k ≠ key a ->
          windowSum g (ofKey key k (a :: rest)) = windowSum g (ofKey key k rest) := by
        intro k hk
        rw [ofKey_cons_ne fun h => hk h.symm]
      rw [List.map_cons, List.toFinset_cons]
      by_cases hmem : key a ∈ (rest.map key).toFinset
      · -- the key goes on: the next item has it too
        cases rest with
        | nil => simp at hmem
        | cons b rest =>
            have hb : key b = key a := by
              rw [List.mem_toFinset, List.mem_map] at hmem
              rcases hmem with ⟨x, hx, hkey⟩
              apply le_antisymm _ (hfirst b List.mem_cons_self)
              rcases List.mem_cons.mp hx with rfl | hx
              · exact le_of_eq hkey
              · rw [← hkey]
                exact (List.pairwise_cons.mp hrest).1 x hx
            have hgroup : windowSum g (ofKey key (key a) (a :: b :: rest)) =
                g a b + windowSum g (ofKey key (key a) (b :: rest)) := by
              rw [ofKey_cons_eq rfl, ofKey_cons_eq hb, windowSum_cons_cons]
            rw [Finset.insert_eq_of_mem hmem, windowSum_cons_cons, hsum,
              ← Finset.add_sum_erase _ _ hmem, ← Finset.add_sum_erase _ _ hmem, hgroup, add_assoc]
            congr 2
            apply Finset.sum_congr rfl
            intro k hk
            rw [hother k (Finset.ne_of_mem_erase hk)]
      · -- the key ends here: nothing is weighed between the item and the next one
        have hfirstSum : windowSum g (a :: rest) = windowSum g rest := by
          cases rest with
          | nil => rfl
          | cons b rest =>
              have hne : key a ≠ key b := by
                intro h
                apply hmem
                rw [List.mem_toFinset, h]
                exact List.mem_map_of_mem List.mem_cons_self
              rw [windowSum_cons_cons, hg a b hne, zero_add]
        rw [Finset.sum_insert hmem, ofKey_cons_eq rfl, ofKey_eq_nil hmem, windowSum_singleton,
          zero_add, hfirstSum, hsum]
        apply Finset.sum_congr rfl
        intro k hk
        rw [hother k]
        intro h
        rw [h] at hk
        exact hmem hk

theorem windowSum_flatMap_ofKey (hg : VanishesAcross key g) (items : List A) {keys : List K}
    (hnodup : keys.Nodup) :
    windowSum g (keys.flatMap fun k => ofKey key k items) =
      (keys.map fun k => windowSum g (ofKey key k items)).sum := by
  induction keys with
  | nil => rfl
  | cons k rest ih =>
      rcases List.nodup_cons.mp hnodup with ⟨hk, hrest⟩
      rw [List.flatMap_cons, List.map_cons, List.sum_cons, ← ih hrest]
      apply windowSum_append
      intro a ha b hb
      rcases List.mem_flatMap.mp hb with ⟨k', hk', hb⟩
      apply hg
      rw [(mem_ofKey.mp ha).2, (mem_ofKey.mp hb).2]
      intro h
      rw [h] at hk
      exact hk hk'

theorem windowSum_reorder (hg : VanishesAcross key g) {items : List A}
    (hsorted : items.Pairwise fun a b => key a ≤ key b) {keys : List K} (hnodup : keys.Nodup)
    (hkeys : keys.toFinset = (items.map key).toFinset) :
    windowSum g (keys.flatMap fun k => ofKey key k items) = windowSum g items := by
  rw [windowSum_flatMap_ofKey hg items hnodup, windowSum_eq_sum_ofKey hg hsorted, ← hkeys,
    List.sum_toFinset _ hnodup]

theorem length_flatMap_ofKey (items : List A) {keys : List K} (hnodup : keys.Nodup)
    (hkeys : forall a, a ∈ items -> key a ∈ keys.toFinset) :
    (keys.flatMap fun k => ofKey key k items).length = items.length := by
  rw [List.length_flatMap, ← List.sum_toFinset _ hnodup]
  induction items with
  | nil => simp [ofKey]
  | cons a rest ih =>
      have hgroup : forall k, (ofKey key k (a :: rest)).length =
          (if key a = k then 1 else 0) + (ofKey key k rest).length := by
        intro k
        by_cases h : key a = k
        · rw [ofKey_cons_eq h, if_pos h, List.length_cons, add_comm]
        · rw [ofKey_cons_ne h, if_neg h, zero_add]
      simp only [hgroup]
      rw [Finset.sum_add_distrib, Finset.sum_ite_eq,
        if_pos (hkeys a List.mem_cons_self), List.length_cons, add_comm]
      congr 1
      exact ih fun x hx => hkeys x (List.mem_cons_of_mem a hx)

end

end Windows
