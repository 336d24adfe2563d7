import Mathlib.Data.Finset.Sort

/-!
# Adjacency rows

An undirected graph on the numbers below a bound, given by the set of
neighbours of each number, and the graph that a list of edges builds.
-/

namespace Graphs

variable {rows : List (Finset Nat)} {a b i j : Nat}

def Linked (rows : List (Finset Nat)) (i j : Nat) : Prop :=
  exists row, rows[i]? = some row ∧ j ∈ row

def addArc (rows : List (Finset Nat)) (i j : Nat) : List (Finset Nat) :=
  rows.modify i (insert j)

def addEdge (rows : List (Finset Nat)) (e : Nat × Nat) : List (Finset Nat) :=
  addArc (addArc rows e.1 e.2) e.2 e.1

@[simp] theorem length_addArc (rows : List (Finset Nat)) (i j : Nat) :
    (addArc rows i j).length = rows.length :=
  List.length_modify _ _ _

@[simp] theorem length_addEdge (rows : List (Finset Nat)) (e : Nat × Nat) :
    (addEdge rows e).length = rows.length := by
  rw [addEdge, length_addArc, length_addArc]

theorem linked_addArc (ha : a < rows.length) :
    Linked (addArc rows a b) i j <-> Linked rows i j ∨ (i = a ∧ j = b) := by
  unfold Linked addArc
  by_cases hi : a = i
  · subst hi
    rw [List.getElem?_modify_eq, List.getElem?_eq_getElem ha]
    constructor
    · intro h
      rcases h with ⟨row, hrow, hj⟩
      cases hrow
      rcases Finset.mem_insert.mp hj with hb | hold
      · exact Or.inr ⟨rfl, hb⟩
      · exact Or.inl ⟨_, rfl, hold⟩
    · intro h
      rcases h with ⟨row, hrow, hj⟩ | ⟨_, hb⟩
      · cases hrow
        exact ⟨_, rfl, Finset.mem_insert_of_mem hj⟩
      · exact ⟨_, rfl, Finset.mem_insert.mpr (Or.inl hb)⟩
  · rw [List.getElem?_modify_ne _ _ hi]
    constructor
    · exact Or.inl
    · intro h
      rcases h with hold | ⟨hia, _⟩
      · exact hold
      · exact absurd hia.symm hi

theorem linked_addEdge (ha : a < rows.length) (hb : b < rows.length) :
    Linked (addEdge rows (a, b)) i j <->
      Linked rows i j ∨ (i = a ∧ j = b) ∨ (i = b ∧ j = a) := by
  have hb' : b < (addArc rows a b).length := by
    rw [length_addArc]
    exact hb
  rw [addEdge, linked_addArc hb', linked_addArc ha, or_assoc]

/-! # Lists of edges -/

def addEdges (rows : List (Finset Nat)) (edges : List (Nat × Nat)) : List (Finset Nat) :=
  edges.foldl addEdge rows

theorem length_addEdges (rows : List (Finset Nat)) (edges : List (Nat × Nat)) :
    (addEdges rows edges).length = rows.length := by
  induction edges generalizing rows with
  | nil => rfl
  | cons e edges ih =>
      show (addEdges (addEdge rows e) edges).length = _
      rw [ih, length_addEdge]

theorem addEdges_append (rows : List (Finset Nat)) (edges edges' : List (Nat × Nat)) :
    addEdges rows (edges ++ edges') = addEdges (addEdges rows edges) edges' :=
  List.foldl_append

def InRange (n : Nat) (edges : List (Nat × Nat)) : Prop :=
  forall e, e ∈ edges -> e.1 < n ∧ e.2 < n

theorem linked_addEdges {edges : List (Nat × Nat)} (h : InRange rows.length edges) :
    Linked (addEdges rows edges) i j <->
      Linked rows i j ∨ (i, j) ∈ edges ∨ (j, i) ∈ edges := by
  induction edges generalizing rows with
  | nil =>
      show Linked rows i j <-> _
      rw [List.mem_nil_iff, List.mem_nil_iff, or_false, or_false]
  | cons e edges ih =>
      rcases e with ⟨a, b⟩
      have he := h (a, b) List.mem_cons_self
      have hrest : InRange (addEdge rows (a, b)).length edges := by
        intro e he'
        rw [length_addEdge]
        exact h e (List.mem_cons_of_mem _ he')
      show Linked (addEdges (addEdge rows (a, b)) edges) i j <-> _
      rw [ih hrest, linked_addEdge he.1 he.2, List.mem_cons, List.mem_cons, Prod.mk.injEq,
        Prod.mk.injEq]
      tauto

def ofEdges (n : Nat) (edges : List (Nat × Nat)) : List (Finset Nat) :=
  addEdges (List.replicate n ∅) edges

theorem length_ofEdges (n : Nat) (edges : List (Nat × Nat)) : (ofEdges n edges).length = n := by
  rw [ofEdges, length_addEdges, List.length_replicate]

theorem linked_ofEdges {n : Nat} {edges : List (Nat × Nat)} (h : InRange n edges) :
    Linked (ofEdges n edges) i j <-> (i, j) ∈ edges ∨ (j, i) ∈ edges := by
  have hrange : InRange (List.replicate n (∅ : Finset Nat)).length edges := by
    rw [List.length_replicate]
    exact h
  have hempty : ¬ Linked (List.replicate n ∅) i j := by
    intro hlinked
    rcases hlinked with ⟨row, hrow, hj⟩
    rw [List.getElem?_replicate] at hrow
    split at hrow
    · cases hrow
      exact absurd hj (Finset.notMem_empty j)
    · cases hrow
  rw [ofEdges, linked_addEdges hrange]
  exact or_iff_right hempty

theorem Linked.symm {n : Nat} {edges : List (Nat × Nat)} (h : InRange n edges)
    (hij : Linked (ofEdges n edges) i j) : Linked (ofEdges n edges) j i := by
  rw [linked_ofEdges h] at hij ⊢
  exact hij.symm

/-! # Neighbouring entries of a list -/

variable {A : Type} {x y : A}

/-- The pairs of entries that stand next to each other. -/
def consecutive (xs : List A) : List (A × A) := xs.zip xs.tail

theorem mem_consecutive {xs : List A} :
    (x, y) ∈ consecutive xs <-> exists k, xs[k]? = some x ∧ xs[k + 1]? = some y := by
  unfold consecutive
  rw [List.mem_iff_getElem?]
  constructor
  · intro h
    rcases h with ⟨k, hk⟩
    rw [List.getElem?_zip_eq_some, List.getElem?_tail] at hk
    exact ⟨k, hk⟩
  · intro h
    rcases h with ⟨k, hk⟩
    refine ⟨k, ?_⟩
    rw [List.getElem?_zip_eq_some, List.getElem?_tail]
    exact hk

end Graphs
