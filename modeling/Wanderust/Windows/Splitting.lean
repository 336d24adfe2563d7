import Wanderust.Windows.Grouping

/-!
# Sums over lists that are cut in two

Where a list is cut, the window across the cut is lost.  A list of several keys
that is cut inside each key loses one window for each key with items on both
sides.
-/

namespace Windows

section

variable {A M : Type} [AddCommGroup M]

/-- The weight of the window across the cut between two lists. -/
def seam (g : A -> A -> M) (items items' : List A) : M :=
  match items.getLast?, items'.head? with
  | some a, some b => g a b
  | _, _ => 0

theorem seam_nil_left (g : A -> A -> M) (items' : List A) : seam g [] items' = 0 := rfl

theorem seam_nil_right (g : A -> A -> M) (items : List A) : seam g items [] = 0 := by
  unfold seam
  cases items.getLast? with
  | none => rfl
  | some a => rfl

theorem seam_cons (g : A -> A -> M) (a b : A) (rest items' : List A) :
    seam g (a :: b :: rest) items' = seam g (b :: rest) items' := by
  unfold seam
  rw [List.getLast?_cons_cons]

theorem windowSum_append_seam (g : A -> A -> M) (items items' : List A) :
    windowSum g (items ++ items') =
      windowSum g items + windowSum g items' + seam g items items' := by
  induction items with
  | nil => rw [List.nil_append, windowSum_nil, zero_add, seam_nil_left, add_zero]
  | cons a rest ih =>
      cases rest with
      | nil =>
          cases items' with
          | nil => rw [List.append_nil, windowSum_nil, add_zero, seam_nil_right, add_zero]
          | cons b rest' =>
              show g a b + windowSum g (b :: rest') = 0 + windowSum g (b :: rest') + g a b
              rw [zero_add, add_comm]
      | cons b rest =>
          rw [List.cons_append, List.cons_append, windowSum_cons_cons, ← List.cons_append, ih,
            windowSum_cons_cons, seam_cons]
          abel

theorem filter_append_filter {p : A -> Bool} {items : List A}
    (h : items.Pairwise fun a b => p b = true -> p a = true) :
    items.filter p ++ items.filter (fun a => !p a) = items := by
  induction items with
  | nil => rfl
  | cons a rest ih =>
      rcases List.pairwise_cons.mp h with ⟨hfirst, hrest⟩
      have hih := ih hrest
      cases ha : p a with
      | true =>
          rw [List.filter_cons_of_pos ha, List.filter_cons_of_neg (by rw [ha]; decide),
            List.cons_append, hih]
      | false =>
          -- nothing of the rest comes first
          have hnone : rest.filter p = [] := by
            rw [List.filter_eq_nil_iff]
            intro b hb hp
            rw [hfirst b hb hp] at ha
            cases ha
          rw [hnone, List.nil_append] at hih
          rw [List.filter_cons_of_neg (by rw [ha]; decide), hnone, List.nil_append,
            List.filter_cons_of_pos (by rw [ha]; rfl), hih]

end

section

variable {A K M : Type} [LinearOrder K] [AddCommGroup M] {key : A -> K} {g : A -> A -> M}

theorem windowSum_eq_sum_keys (hg : VanishesAcross key g) {items : List A}
    (hsorted : items.Pairwise fun a b => key a ≤ key b) {keys : Finset K}
    (hkeys : (items.map key).toFinset ⊆ keys) :
    windowSum g items = ∑ k ∈ keys, windowSum g (ofKey key k items) := by
  rw [windowSum_eq_sum_ofKey hg hsorted]
  apply Finset.sum_subset hkeys
  intro k _ hk
  rw [ofKey_eq_nil hk, windowSum_nil]

theorem ofKey_filter (key : A -> K) (k : K) (p : A -> Bool) (items : List A) :
    ofKey key k (items.filter p) = (ofKey key k items).filter p :=
  List.filter_comm _ _ _

theorem ofKey_cut {p : A -> Bool} {items : List A}
    (hcut : items.Pairwise fun a b => key a = key b -> p b = true -> p a = true) (k : K) :
    ofKey key k items =
      ofKey key k (items.filter p) ++ ofKey key k (items.filter fun a => !p a) := by
  have hkey : (ofKey key k items).Pairwise fun a b => p b = true -> p a = true := by
    apply (hcut.sublist List.filter_sublist).imp_of_mem
    intro a b ha hb hab
    exact hab ((mem_ofKey.mp ha).2.trans (mem_ofKey.mp hb).2.symm)
  rw [ofKey_filter, ofKey_filter, filter_append_filter hkey]

theorem windowSum_cut (hg : VanishesAcross key g) {items : List A}
    (hsorted : items.Pairwise fun a b => key a ≤ key b) {p : A -> Bool}
    (hcut : items.Pairwise fun a b => key a = key b -> p b = true -> p a = true) :
    windowSum g items =
      windowSum g (items.filter p) + windowSum g (items.filter fun a => !p a) +
        ∑ k ∈ ((items.filter p).map key).toFinset ∩
            ((items.filter fun a => !p a).map key).toFinset,
          seam g (ofKey key k (items.filter p)) (ofKey key k (items.filter fun a => !p a)) := by
  have hsub : forall q : A -> Bool, ((items.filter q).map key).toFinset ⊆
      (items.map key).toFinset := by
    intro q k hk
    rw [List.mem_toFinset] at hk ⊢
    exact (List.filter_sublist.map key).subset hk
  have hseams : (∑ k ∈ ((items.filter p).map key).toFinset ∩
        ((items.filter fun a => !p a).map key).toFinset,
      seam g (ofKey key k (items.filter p)) (ofKey key k (items.filter fun a => !p a))) =
      ∑ k ∈ (items.map key).toFinset,
        seam g (ofKey key k (items.filter p)) (ofKey key k (items.filter fun a => !p a)) := by
    apply Finset.sum_subset (Finset.inter_subset_left.trans (hsub p))
    intro k _ hk
    rw [Finset.mem_inter, not_and_or] at hk
    rcases hk with hk | hk
    · rw [ofKey_eq_nil hk, seam_nil_left]
    · rw [ofKey_eq_nil hk, seam_nil_right]
  rw [hseams, windowSum_eq_sum_ofKey hg hsorted,
    windowSum_eq_sum_keys hg (hsorted.sublist List.filter_sublist) (hsub p),
    windowSum_eq_sum_keys hg (hsorted.sublist List.filter_sublist) (hsub fun a => !p a),
    ← Finset.sum_add_distrib, ← Finset.sum_add_distrib]
  apply Finset.sum_congr rfl
  intro k _
  rw [ofKey_cut hcut k, windowSum_append_seam]

end

section

variable {A M : Type} [AddCommGroup M] [PartialOrder M] [IsOrderedAddMonoid M]

theorem windowSum_nonneg {g : A -> A -> M} (hg : forall a b, 0 ≤ g a b) (items : List A) :
    0 ≤ windowSum g items := by
  induction items with
  | nil => exact le_refl 0
  | cons a rest ih =>
      cases rest with
      | nil => exact le_refl 0
      | cons b rest => exact add_nonneg (hg a b) ih

end

end Windows
