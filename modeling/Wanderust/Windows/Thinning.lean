import Mathlib.Algebra.BigOperators.Group.List.Basic
import Mathlib.Data.List.Chain
import Mathlib.Tactic.Abel

/-!
# Sums over adjacent pairs

A weight of pairs is summed over the adjacent pairs of a list.  Leaving items
out of the list changes the sum, and the change is a sum over the gaps that the
left-out items make.
-/

namespace Windows

variable {A M : Type} [AddCommGroup M]

def windowSum (g : A -> A -> M) : List A -> M
  | a :: b :: rest => g a b + windowSum g (b :: rest)
  | _ => 0

@[simp] theorem windowSum_nil (g : A -> A -> M) : windowSum g [] = 0 := rfl

@[simp] theorem windowSum_singleton (g : A -> A -> M) (a : A) : windowSum g [a] = 0 := rfl

@[simp] theorem windowSum_cons_cons (g : A -> A -> M) (a b : A) (rest : List A) :
    windowSum g (a :: b :: rest) = g a b + windowSum g (b :: rest) := rfl

theorem windowSum_sub (g h : A -> A -> M) (items : List A) :
    windowSum (fun a b => g a b - h a b) items = windowSum g items - windowSum h items := by
  induction items with
  | nil => simp
  | cons a rest ih =>
      cases rest with
      | nil => simp
      | cons b rest =>
          rw [windowSum_cons_cons, windowSum_cons_cons, windowSum_cons_cons, ih]
          abel

/-!
# Thinned lists
-/

/-- An item of a list, with the mark whether it is kept. -/
structure Item (A : Type) where
  value : A
  isKept : Bool

def kept : List (Item A) -> List A
  | [] => []
  | item :: rest => if item.isKept then item.value :: kept rest else kept rest

theorem kept_cons (item : Item A) (rest : List (Item A)) :
    kept (item :: rest) = if item.isKept then item.value :: kept rest else kept rest := rfl

theorem kept_sublist (items : List (Item A)) : (kept items).Sublist (items.map Item.value) := by
  induction items with
  | nil => exact List.Sublist.slnil
  | cons item rest ih =>
      cases h : item.isKept with
      | true =>
          rw [kept, h, if_pos rfl, List.map_cons]
          exact ih.cons_cons item.value
      | false =>
          rw [kept, h, if_neg Bool.false_ne_true, List.map_cons]
          exact ih.cons item.value

theorem kept_append (items items' : List (Item A)) :
    kept (items ++ items') = kept items ++ kept items' := by
  induction items with
  | nil => rfl
  | cons item rest ih =>
      cases h : item.isKept with
      | true => simp [kept, h, ih]
      | false => simp [kept, h, ih]

/--
A stretch of items that were left out: the item kept before it, its last item,
and the item kept after it, unless the list ends first.
-/
structure Gap (A : Type) where
  before : A
  last : A
  after : Option A

/-- The gaps of a list that follows the kept item `before` and, if any, the left-out `last`. -/
def gapsFrom (before : A) : Option A -> List (Item A) -> List (Gap A)
  | none, [] => []
  | some last, [] => [{ before, last, after := none }]
  | none, item :: rest =>
      if item.isKept then gapsFrom item.value none rest
      else gapsFrom before (some item.value) rest
  | some last, item :: rest =>
      if item.isKept then
        { before, last, after := some item.value } :: gapsFrom item.value none rest
      else gapsFrom before (some item.value) rest

/-- The gaps of a list; what is left out before the first kept item makes none. -/
def gaps : List (Item A) -> List (Gap A)
  | [] => []
  | item :: rest => if item.isKept then gapsFrom item.value none rest else gaps rest

/--
What a gap adds to the sum, when a window that ends in a left-out item weighs
the difference of a potential `phi`.
-/
def Gap.change (g : A -> A -> M) (phi : A -> M) (gap : Gap A) : M :=
  match gap.after with
  | none => phi gap.before - phi gap.last
  | some b => g gap.before b - g gap.last b + (phi gap.before - phi gap.last)

def DropsEvenly (g : A -> A -> M) (phi : A -> M) (a b : Item A) : Prop :=
  b.isKept = false -> g a.value b.value = phi b.value - phi a.value

/--
The induction follows the list.  The sum over the kept items is behind by the
potential between the last kept item and the current one; the gap that ends
there, or the end of the list, settles the difference.
-/
theorem windowSum_keptFrom {g : A -> A -> M} {phi : A -> M} (items : List (Item A))
    (before : A) (last : Option A) {current : Item A}
    (hchain : List.IsChain (DropsEvenly g phi) (current :: items))
    (hcurrent : current.value = last.getD before) :
    windowSum g (before :: kept items) =
      windowSum g (current.value :: items.map Item.value) + (phi current.value - phi before) +
        ((gapsFrom before last items).map (Gap.change g phi)).sum := by
  induction items generalizing before last current with
  | nil =>
      cases last with
      | none => simp [kept, gapsFrom, hcurrent]
      | some last => simp [kept, gapsFrom, Gap.change, hcurrent]
  | cons item rest ih =>
      rw [List.isChain_cons_cons] at hchain
      have hwindow := hchain.1
      cases hkept : item.isKept with
      | true =>
          have hrest := ih item.value none hchain.2 rfl
          cases last with
          | none =>
              simp only [kept, hkept, if_true, gapsFrom, List.map_cons, windowSum_cons_cons, hrest,
                hcurrent, Option.getD_none]
              abel
          | some last =>
              simp only [kept, hkept, if_true, gapsFrom, List.map_cons, windowSum_cons_cons, hrest,
                hcurrent, Option.getD_some, List.sum_cons, Gap.change]
              abel
      | false =>
          have hrest := ih before (some item.value) hchain.2 rfl
          have hdrop := hwindow hkept
          cases last with
          | none =>
              simp only [kept, hkept, Bool.false_eq_true, if_false, gapsFrom, List.map_cons,
                windowSum_cons_cons, hrest, hdrop]
              abel
          | some last =>
              simp only [kept, hkept, Bool.false_eq_true, if_false, gapsFrom, List.map_cons,
                windowSum_cons_cons, hrest, hdrop]
              abel

/-- The sum over the kept items is the sum over all items and what the gaps add. -/
theorem windowSum_kept {g : A -> A -> M} {phi : A -> M} {first : Item A} {rest : List (Item A)}
    (hfirst : first.isKept = true)
    (hchain : List.IsChain (DropsEvenly g phi) (first :: rest)) :
    windowSum g (kept (first :: rest)) =
      windowSum g ((first :: rest).map Item.value) +
        ((gaps (first :: rest)).map (Gap.change g phi)).sum := by
  have hfrom := windowSum_keptFrom rest first.value none hchain rfl
  simp only [kept, hfirst, if_true, gaps, List.map_cons]
  rw [hfrom, sub_self, add_zero]

/-!
# Where gaps lie
-/

/--
The item before a gap precedes the gap's last item, and the last item, left
out, is adjacent to the item after the gap, which is kept.
-/
structure Gap.Placed (precedes : A -> A -> Prop) (adjacent : Item A -> Item A -> Prop)
    (gap : Gap A) : Prop where
  last : precedes gap.before gap.last
  after : forall b, gap.after = some b ->
    adjacent { value := gap.last, isKept := false } { value := b, isKept := true }

def currentItem (before : A) : Option A -> Item A
  | none => { value := before, isKept := true }
  | some last => { value := last, isKept := false }

section

variable {precedes : A -> A -> Prop} {adjacent : Item A -> Item A -> Prop}

/-- The induction follows the list; adjacency extends what precedes by one item. -/
theorem placed_of_mem_gapsFrom
    (htrans : forall a b d, precedes a b.value -> adjacent b d -> precedes a d.value)
    (hsub : forall a b, adjacent a b -> precedes a.value b.value) (items : List (Item A))
    {before : A} {last : Option A} (hlast : forall l, last = some l -> precedes before l)
    (hchain : List.IsChain adjacent (currentItem before last :: items))
    {gap : Gap A} (hgap : gap ∈ gapsFrom before last items) : gap.Placed precedes adjacent := by
  induction items generalizing before last with
  | nil =>
      cases last with
      | none => cases hgap
      | some l =>
          rw [gapsFrom, List.mem_singleton] at hgap
          rw [hgap]
          exact ⟨hlast l rfl, fun b hb => by cases hb⟩
  | cons item rest ih =>
      rcases item with ⟨value, isKept⟩
      rw [List.isChain_cons_cons] at hchain
      cases isKept with
      | true =>
          have hnone : forall l, (none : Option A) = some l -> precedes value l :=
            fun l hl => by cases hl
          cases last with
          | none => exact ih hnone hchain.2 hgap
          | some l =>
              rcases List.mem_cons.mp hgap with rfl | hgap
              · refine ⟨hlast l rfl, ?_⟩
                intro b h
                cases h
                exact hchain.1
              · exact ih hnone hchain.2 hgap
      | false =>
          have hsome : forall l, some value = some l -> precedes before l := by
            intro l h
            cases h
            cases last with
            | none => exact hsub _ _ hchain.1
            | some l => exact htrans _ _ _ (hlast l rfl) hchain.1
          cases last with
          | none => exact ih hsome hchain.2 hgap
          | some l => exact ih hsome hchain.2 hgap

theorem placed_of_mem_gaps
    (htrans : forall a b d, precedes a b.value -> adjacent b d -> precedes a d.value)
    (hsub : forall a b, adjacent a b -> precedes a.value b.value) {items : List (Item A)}
    (hchain : List.IsChain adjacent items) {gap : Gap A} (hgap : gap ∈ gaps items) :
    gap.Placed precedes adjacent := by
  induction items with
  | nil => cases hgap
  | cons item rest ih =>
      rcases item with ⟨value, isKept⟩
      cases isKept with
      | true =>
          have hnone : forall l, (none : Option A) = some l -> precedes value l :=
            fun l hl => by cases hl
          exact placed_of_mem_gapsFrom htrans hsub rest hnone hchain hgap
      | false => exact ih hchain.tail hgap

end

section

variable {r : A -> A -> Prop} [Std.Asymm r] {rows before after : List A} {a b : A}

/-- Two items of a sorted list are adjacent when they are adjacent in a part of it that holds
all items between them. -/
theorem adjacent_of_pairwise (hrows : rows.Pairwise r)
    (hpart : (before ++ a :: b :: after).Pairwise r) (ha : a ∈ rows) (hb : b ∈ rows)
    (hbetween : forall p, p ∈ rows -> r a p -> r p b -> p ∈ before ++ a :: b :: after) :
    exists pre post, rows = pre ++ a :: b :: post := by
  rw [List.pairwise_append, List.pairwise_cons, List.pairwise_cons] at hpart
  rcases hpart with ⟨_, ⟨hfirst, hsecond, _⟩, hbefore⟩
  have hab : r a b := hfirst b List.mem_cons_self
  have hnone : forall p, p ∈ rows -> r a p -> ¬ r p b := by
    intro p hp hap hpb
    have hmem := hbetween p hp hap hpb
    rw [List.mem_append, List.mem_cons, List.mem_cons] at hmem
    rcases hmem with hp | rfl | rfl | hp
    · exact Std.Asymm.asymm _ _ hap (hbefore p hp a List.mem_cons_self)
    · exact Std.Asymm.asymm _ _ hap hap
    · exact Std.Asymm.asymm _ _ hpb hpb
    · exact Std.Asymm.asymm _ _ hpb (hsecond p hp)
  rcases List.append_of_mem ha with ⟨pre, rest, rfl⟩
  rw [List.pairwise_append, List.pairwise_cons] at hrows
  rcases hrows with ⟨_, ⟨hnext, hrest⟩, hpre⟩
  rcases List.mem_append.mp hb with hb | hb
  · exact absurd (hpre b hb a List.mem_cons_self) (Std.Asymm.asymm _ _ hab)
  · rcases List.mem_cons.mp hb with rfl | hb
    · exact absurd hab (Std.Asymm.asymm _ _ hab)
    · cases rest with
      | nil => cases hb
      | cons p post =>
          rcases List.mem_cons.mp hb with rfl | hb
          · exact ⟨pre, post, rfl⟩
          · exact absurd ((List.pairwise_cons.mp hrest).1 b hb)
              (hnone p (by simp) (hnext p List.mem_cons_self))

end

end Windows
