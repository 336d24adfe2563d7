import Mathlib.Data.List.TakeWhile

/-!
# Histories

A history is a list of events that grows at its end.  The module has the two
kinds of statements about it that follow the growth: every event is justified by
the ones before it, and what has happened since an event.
-/

namespace Logs

variable {E : Type} {J : List E -> E -> Prop} {p : E -> Bool} {e : E} {h : List E}

/-! # Justified histories -/

/-- Every event stands in the relation to the events before it. -/
def Justified (J : List E -> E -> Prop) (h : List E) : Prop :=
  forall before e after, h = before ++ e :: after -> J before e

theorem justified_nil : Justified J ([] : List E) := by
  intro before e after h
  exact absurd h.symm (List.append_ne_nil_of_right_ne_nil before (List.cons_ne_nil e after))

theorem split_snoc {before after : List E} {e' : E} (heq : h ++ [e] = before ++ e' :: after) :
    (h = before ∧ e = e' ∧ after = []) ∨
      exists init, after = init ++ [e] ∧ h = before ++ e' :: init := by
  rcases List.eq_nil_or_concat after with rfl | ⟨init, last, rfl⟩
  · rcases List.append_inj' heq rfl with ⟨hbefore, hlast⟩
    exact Or.inl ⟨hbefore, (List.cons.inj hlast).1, rfl⟩
  · rw [List.concat_eq_append, ← List.cons_append, ← List.append_assoc] at heq
    rcases List.append_inj' heq rfl with ⟨hinit, hlast⟩
    rw [List.concat_eq_append, (List.cons.inj hlast).1]
    exact Or.inr ⟨init, rfl, hinit⟩

theorem Justified.snoc (hh : Justified J h) (he : J h e) : Justified J (h ++ [e]) := by
  intro before e' after heq
  rcases split_snoc heq with ⟨rfl, rfl, _⟩ | ⟨init, _, hinit⟩
  · exact he
  · exact hh before e' init hinit

/-! # The newest event -/

/-- Some event satisfies the first test, and none after it the second one. -/
def Newest (q p : E -> Bool) (h : List E) : Prop :=
  exists before e after, h = before ++ e :: after ∧ q e = true ∧
    forall e', e' ∈ after -> p e' = false

theorem newest_snoc {q : E -> Bool} (he : q e = true) : Newest q p (h ++ [e]) :=
  ⟨h, e, [], rfl, he, fun _ he' => absurd he' List.not_mem_nil⟩

theorem Newest.append {q : E -> Bool} {es : List E} (hh : Newest q p h)
    (hes : forall e, e ∈ es -> p e = false) : Newest q p (h ++ es) := by
  rcases hh with ⟨before, e, after, rfl, he, hafter⟩
  refine ⟨before, e, after ++ es, by simp, he, ?_⟩
  intro e' he'
  rcases List.mem_append.mp he' with he' | he'
  · exact hafter e' he'
  · exact hes e' he'

theorem Newest.snoc {q : E -> Bool} (hh : Newest q p h) (he : p e = false) :
    Newest q p (h ++ [e]) :=
  hh.append fun _ he' => List.mem_singleton.mp he' ▸ he

/-! # Since the last event -/

/-- The events after the last one that satisfies the test. -/
def sinceLast (p : E -> Bool) (h : List E) : List E :=
  (h.reverse.takeWhile fun e => !p e).reverse

theorem sinceLast_snoc (e : E) :
    sinceLast p (h ++ [e]) = if p e then [] else sinceLast p h ++ [e] := by
  rw [sinceLast, List.reverse_append, List.reverse_singleton, List.singleton_append,
    List.takeWhile_cons]
  cases he : p e with
  | true => rfl
  | false => simp [sinceLast]

/-! # Until the next event -/

/-- The events before the first one that satisfies the test. -/
def untilNext (p : E -> Bool) (h : List E) : List E := h.takeWhile fun e => !p e

theorem untilNext_append_of_some {es : List E} (hsome : exists e, e ∈ h ∧ p e = true) :
    untilNext p (h ++ es) = untilNext p h := by
  have hlength : (h.takeWhile fun e => !p e).length ≠ h.length := by
    intro hlength
    rcases hsome with ⟨e, hmem, he⟩
    have hall := List.takeWhile_eq_self_iff.mp ((List.takeWhile_prefix _).eq_of_length hlength)
    simpa [he] using hall e hmem
  rw [untilNext, List.takeWhile_append, if_neg hlength]
  rfl

theorem untilNext_of_none (hnone : forall e, e ∈ h -> p e = false) : untilNext p h = h := by
  rw [untilNext, List.takeWhile_eq_self_iff]
  intro e he
  rw [hnone e he]
  rfl

/-! # Since an event -/

/-- The events after the first one that satisfies the test. -/
def since (p : E -> Bool) (h : List E) : List E :=
  (h.dropWhile fun e => !p e).tail

theorem since_of_none (hnone : h.countP p = 0) : since p h = [] := by
  have hall : h.dropWhile (fun e => !p e) = [] := by
    rw [List.dropWhile_eq_nil_iff]
    intro e he
    simpa using List.countP_eq_zero.mp hnone e he
  rw [since, hall, List.tail_nil]

theorem since_snoc_of_none (hnone : h.countP p = 0) (e : E) : since p (h ++ [e]) = [] := by
  have hall : h.dropWhile (fun e => !p e) = [] := by
    rw [List.dropWhile_eq_nil_iff]
    intro e he
    simpa using List.countP_eq_zero.mp hnone e he
  rw [since, List.dropWhile_append, hall, List.isEmpty_nil, if_pos rfl]
  cases he : p e with
  | true => simp [he]
  | false => simp [he]

theorem since_snoc_of_some (hsome : 0 < h.countP p) (e : E) :
    since p (h ++ [e]) = since p h ++ [e] := by
  rcases List.countP_pos_iff.mp hsome with ⟨e0, hmem, he0⟩
  cases hdrop : h.dropWhile fun e => !p e with
  | nil =>
      have hno := List.dropWhile_eq_nil_iff.mp hdrop e0 hmem
      simp [he0] at hno
  | cons first rest =>
      rw [since, since, List.dropWhile_append, hdrop]
      rfl

theorem countP_since_snoc (q : E -> Bool) (e : E) :
    (since p (h ++ [e])).countP q =
      if h.countP p = 0 then 0 else (since p h).countP q + if q e then 1 else 0 := by
  split
  case isTrue hnone => rw [since_snoc_of_none hnone, List.countP_nil]
  case isFalse hsome =>
    rw [since_snoc_of_some (Nat.pos_of_ne_zero hsome), List.countP_append, List.countP_singleton]

theorem since_cons (e : E) (h : List E) : since p (e :: h) = if p e then h else since p h := by
  rw [since, List.dropWhile_cons]
  cases he : p e with
  | true => simp
  | false => simp [since]

theorem since_filterMap {B : Type} (f : E -> Option B) (q : B -> Bool) (h : List E) :
    since q (h.filterMap f) = (since (fun e => (f e).any q) h).filterMap f := by
  induction h with
  | nil => rfl
  | cons e h ih =>
      rw [since_cons, List.filterMap_cons]
      cases he : f e with
      | none => simpa [he] using ih
      | some b =>
          rw [since_cons, Option.any_some]
          by_cases hb : q b = true
          · rw [if_pos hb, if_pos hb]
          · rw [if_neg hb, if_neg hb]
            exact ih

/-- Where the event happens once at most, an observer who misses events sees less happen since. -/
theorem since_sublist {h h' : List E} (hsub : h.Sublist h') (honce : h'.countP p ≤ 1) :
    (since p h).Sublist (since p h') := by
  induction hsub with
  | slnil => exact List.Sublist.refl _
  | @cons l l' e hsub ih =>
      rw [since_cons]
      cases he : p e with
      | true =>
          -- the event itself is missed, and there is no other one
          rw [List.countP_cons_of_pos he] at honce
          have hle : l.countP p ≤ l'.countP p := hsub.countP_le
          have hnone : l.countP p = 0 := by omega
          rw [since_of_none hnone]
          exact List.nil_sublist _
      | false =>
          rw [if_neg Bool.false_ne_true]
          apply ih
          rwa [List.countP_cons_of_neg (by simpa using he)] at honce
  | @cons_cons l l' e hsub ih =>
      rw [since_cons, since_cons]
      cases he : p e with
      | true => simpa using hsub
      | false =>
          rw [if_neg Bool.false_ne_true, if_neg Bool.false_ne_true]
          apply ih
          rwa [List.countP_cons_of_neg (by simpa using he)] at honce

end Logs
