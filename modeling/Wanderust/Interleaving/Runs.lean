import Mathlib.Logic.Basic

/-!
# Runs of a labelled transition function

The states that a run can reach by labels that meet a condition, and runs given
by a list of labels.
-/

namespace Interleaving

variable {State Label : Type} {next : State -> Label -> Option State}
variable {cond cond' : State -> Label -> Prop} {s s' s'' : State}

inductive Reach (next : State -> Label -> Option State) (cond : State -> Label -> Prop)
    (s : State) : State -> Prop where
  | refl : Reach next cond s s
  | tail {s1 s2 : State} (l : Label) :
      Reach next cond s s1 -> cond s1 l -> next s1 l = some s2 -> Reach next cond s s2

theorem Reach.mono (h : Reach next cond s s') (hcond : forall s l, cond s l -> cond' s l) :
    Reach next cond' s s' := by
  induction h with
  | refl => exact Reach.refl
  | tail l _ hl hnext ih => exact ih.tail l (hcond _ l hl) hnext

theorem Reach.trans (h : Reach next cond s s') (h' : Reach next cond s' s'') :
    Reach next cond s s'' := by
  induction h' with
  | refl => exact h
  | tail l _ hl hnext ih => exact ih.tail l hl hnext

/-- What holds at the start and is preserved by every step holds wherever the run ends. -/
theorem Reach.invariant {P : State -> Prop} (h : Reach next cond s s') (h0 : P s)
    (hstep : forall s1 s2 l, P s1 -> cond s1 l -> next s1 l = some s2 -> P s2) : P s' := by
  induction h with
  | refl => exact h0
  | tail l _ hl hnext ih => exact hstep _ _ l ih hl hnext

/-- The state after a list of labels, when each of them passes the check and can be taken. -/
def run (next : State -> Label -> Option State) (check : State -> Label -> Bool)
    (s : State) : List Label -> Option State
  | [] => some s
  | l :: rest =>
      if check s l then
        match next s l with
        | some s' => run next check s' rest
        | none => none
      else none

theorem reach_of_run {check : State -> Label -> Bool} {labels : List Label}
    (h : run next check s labels = some s') :
    Reach next (fun s l => check s l = true) s s' := by
  induction labels generalizing s with
  | nil =>
      cases h
      exact Reach.refl
  | cons l rest ih =>
      simp only [run] at h
      cases hcheck : check s l with
      | false => simp [hcheck] at h
      | true =>
          rw [if_pos hcheck] at h
          cases hnext : next s l with
          | none => simp [hnext] at h
          | some s1 =>
              rw [hnext] at h
              exact (Reach.refl.tail l hcheck hnext).trans (ih h)

/-- The state in which a list of labels ends, or the first one if the run is refused. -/
def after (next : State -> Label -> Option State) (check : State -> Label -> Bool)
    (s : State) (labels : List Label) : State :=
  (run next check s labels).getD s

theorem reach_after {check : State -> Label -> Bool}
    (hcheck : forall s l, check s l = true -> cond s l) (s : State) (labels : List Label) :
    Reach next cond s (after next check s labels) := by
  unfold after
  cases hrun : run next check s labels with
  | none => exact Reach.refl
  | some s' => exact (reach_of_run hrun).mono hcheck

/-! # History variables -/

variable {History : Type} {record : State -> Label -> History -> History}

/-- The transition function together with a history that no transition reads. -/
def withHistory (next : State -> Label -> Option State)
    (record : State -> Label -> History -> History) (p : State × History) (l : Label) :
    Option (State × History) :=
  (next p.1 l).map fun s => (s, record p.1 l p.2)

theorem withHistory_eq_some {p p' : State × History} {l : Label} :
    withHistory next record p l = some p' <->
      next p.1 l = some p'.1 ∧ record p.1 l p.2 = p'.2 := by
  simp only [withHistory, Option.map_eq_some_iff]
  constructor
  · intro h
    rcases h with ⟨s, hnext, rfl⟩
    exact ⟨hnext, rfl⟩
  · intro h
    exact ⟨p'.1, h.1, by rw [h.2]⟩

theorem Reach.remember (h : Reach next cond s s') (record : State -> Label -> History -> History)
    (x : History) :
    exists x', Reach (withHistory next record) (fun p l => cond p.1 l) (s, x) (s', x') := by
  induction h with
  | refl => exact ⟨x, Reach.refl⟩
  | tail l _ hl hnext ih =>
      rcases ih with ⟨x1, h1⟩
      exact ⟨_, h1.tail l hl (withHistory_eq_some.mpr ⟨hnext, rfl⟩)⟩

end Interleaving
