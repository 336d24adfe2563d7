import Mathlib.Data.List.AList

/-!
# Keyed tables

A table maps each key to at most one row, as a hash map or an SQL table with a
primary key does.  The rows of an association list carry the uniqueness of
their keys, so no later proof has to restore it.
-/

abbrev Table (K V : Type) := AList (fun _ : K => V)

namespace Table

variable {K V : Type} [DecidableEq K]

@[simp] theorem lookup_insert_eq (t : Table K V) (k k' : K) (v : V) :
    (t.insert k v).lookup k' = if k' = k then some v else t.lookup k' := by
  by_cases h : k' = k
  · subst h
    simp
  · simp [h, AList.lookup_insert_ne h]

theorem insert_ne {t : Table K V} {k : K} (hfree : t.lookup k = none) (v : V) :
    t.insert k v ≠ t := by
  intro hsame
  have hlookup := lookup_insert_eq t k k v
  rw [hsame, if_pos rfl, hfree] at hlookup
  cases hlookup

@[simp] theorem lookup_erase_eq (t : Table K V) (k k' : K) :
    (t.erase k).lookup k' = if k' = k then none else t.lookup k' := by
  by_cases h : k' = k
  · subst h
    simp
  · simp [h, AList.lookup_erase_ne h]

theorem lookup_eq_some_iff {t : Table K V} {k : K} {v : V} :
    t.lookup k = some v <-> (⟨k, v⟩ : Sigma fun _ : K => V) ∈ t.entries :=
  AList.mem_lookup_iff

/-!
# Queries by row
-/

def anyRow (t : Table K V) (p : K -> V -> Bool) : Bool :=
  t.entries.any (fun e => p e.1 e.2)

def keysWhere (t : Table K V) (p : K -> V -> Bool) : List K :=
  (t.entries.filter (fun e => p e.1 e.2)).map Sigma.fst

theorem anyRow_iff {t : Table K V} {p : K -> V -> Bool} :
    t.anyRow p = true <-> exists k v, t.lookup k = some v ∧ p k v = true := by
  simp only [anyRow, List.any_eq_true, lookup_eq_some_iff]
  constructor
  · intro h
    rcases h with ⟨⟨k, v⟩, hmem, hp⟩
    exact ⟨k, v, hmem, hp⟩
  · intro h
    rcases h with ⟨k, v, hmem, hp⟩
    exact ⟨⟨k, v⟩, hmem, hp⟩

theorem mem_keysWhere {t : Table K V} {p : K -> V -> Bool} {k : K} :
    k ∈ t.keysWhere p <-> exists v, t.lookup k = some v ∧ p k v = true := by
  simp only [keysWhere, List.mem_map, List.mem_filter, lookup_eq_some_iff]
  constructor
  · intro h
    rcases h with ⟨⟨k', v⟩, ⟨hmem, hp⟩, rfl⟩
    exact ⟨v, hmem, hp⟩
  · intro h
    rcases h with ⟨v, hmem, hp⟩
    exact ⟨⟨k, v⟩, ⟨hmem, hp⟩, rfl⟩

def eraseAll (t : Table K V) (ks : List K) : Table K V :=
  ks.foldl (fun t k => t.erase k) t

theorem lookup_eraseAll (t : Table K V) (ks : List K) (k : K) :
    (t.eraseAll ks).lookup k = if k ∈ ks then none else t.lookup k := by
  induction ks generalizing t with
  | nil => simp [eraseAll]
  | cons k0 rest ih =>
      show (eraseAll (t.erase k0) rest).lookup k = _
      rw [ih, lookup_erase_eq]
      by_cases hrest : k ∈ rest <;> by_cases hk : k = k0 <;> simp [hrest, hk]

end Table
