import Wanderust.Session.Transcript

/-!
# The programs of the server, run under interference

Each program gets one triple.  The triples of the arms say that a handler starts
and ends with a settled view.
-/

namespace Wanderust

open Interleaving Prog

variable {F : Type} {A : Regime} {c : ConnId} {e : Entry} {v : View F}

/-! # Views of one session -/

structure View.SameSession (v v' : View F) : Prop where
  user : v'.user = v.user
  own : v'.own = v.own
  statuses : v'.statuses = v.statuses
  sinks : v'.sinks = v.sinks
  log : v'.log = v.log

theorem View.SameSession.refl (v : View F) : v.SameSession v := ⟨rfl, rfl, rfl, rfl, rfl⟩

theorem View.SameSession.trans {v v' v'' : View F} (h : v.SameSession v')
    (h' : v'.SameSession v'') : v.SameSession v'' :=
  ⟨h'.user.trans h.user, h'.own.trans h.own, h'.statuses.trans h.statuses,
    h'.sinks.trans h.sinks, h'.log.trans h.log⟩

def View.OpenWithin (v : View F) (ids : List Int) : Prop :=
  exists l, v.openIn = some l ∧ forall id, id ∈ l -> id ∈ ids

theorem openWithin_filter {id : Int} {rest : List Int} {w : View F}
    (h : v.OpenWithin (id :: rest))
    (hw : w.openIn = v.openIn.map (fun l => l.filter (· ≠ id))) : w.OpenWithin rest := by
  rcases h with ⟨l, hl, hmem⟩
  refine ⟨l.filter (· ≠ id), by rw [hw, hl]; rfl, ?_⟩
  intro x hx
  rcases List.mem_filter.mp hx with ⟨hx, hne⟩
  rcases List.mem_cons.mp (hmem x hx) with heq | hrest
  · rw [heq] at hne
    simp at hne
  · exact hrest

variable [Geo F] [Bcrypt]

/-! # Combinators -/

theorem spec_bindOk {alpha beta : Type} {p : Program F (Except String alpha)}
    {f : alpha -> Program F (Except String beta)}
    {R : Except String alpha -> View F -> Prop} {Q : Except String beta -> View F -> Prop}
    (hp : ViewTriple A c e v p R)
    (hok : forall a v', R (.ok a) v' -> ViewTriple A c e v' (f a) Q)
    (herror : forall err v', R (.error err) v' -> Q (.error err) v') :
    ViewTriple A c e v (bindOk p f) Q := by
  apply viewTriple_bind hp
  intro r v' hmid
  cases r with
  | ok a => exact hok a v' hmid
  | error err => exact viewTriple_pure (herror err v' hmid)

theorem spec_mapError {alpha epsilon epsilon' : Type} {g : epsilon -> epsilon'}
    {p : Program F (Except epsilon alpha)} {Q : Except epsilon' alpha -> View F -> Prop}
    (hp : ViewTriple A c e v p (fun r v' => Q (r.mapError g) v')) :
    ViewTriple A c e v (mapError g p) Q := by
  apply viewTriple_bind hp
  intro r v' hmid
  cases r with
  | ok a => exact viewTriple_pure hmid
  | error err => exact viewTriple_pure hmid

/-! # Closing the trips of a user -/

theorem spec_endTrip {tripId : Int} {username token : String} {ts : Int}
    (huser : v.user = some username) (hown : v.own = [(token, username)])
    (hentry : e.user = v.user) (hquiet : ¬ e.quiet) :
    ViewTriple A c e v (endTrip tripId username ts)
      (fun r v' =>
        match r with
        | .ok () => v' = v.close tripId
        | .error _ =>
            (v' = v ∧ ¬ A.sqlOk c) ∨
              v' = { v with openIn := v.openIn.map (fun l => l.filter (· ≠ tripId)) }) := by
  refine spec_bindOk (spec_mapError
    (Q := OnResult
      (fun n v' =>
        if n = 0 then
          v' = { v with openIn := v.openIn.map (fun l => l.filter (· ≠ tripId)) }
        else v' = v.close tripId)
      (fun _ v' => v' = v ∧ ¬ A.sqlOk c))
    (viewTriple_conseq (act_updateTripEnded huser hown hentry hquiet) ?_)) ?_ ?_
  · intro r v' h
    cases r with
    | ok n => exact h
    | error err => exact h
  · intro n v' h
    by_cases hn : n = 0
    · rw [if_pos hn]
      simp only [onResult_ok, hn, if_true] at h
      exact viewTriple_pure (Or.inr h)
    · rw [if_neg hn]
      simp only [onResult_ok, hn, if_false] at h
      exact viewTriple_pure h
  · intro err v' h
    exact Or.inl h

/-- After the loop no open trip is left, provided that the statements succeed. -/
theorem spec_closeTrips {username token : String} {ts : Int} {ids : List Int}
    (huser : v.user = some username) (hown : v.own = [(token, username)])
    (hentry : e.user = v.user) (hquiet : ¬ e.quiet) (hgap : v.gap = [])
    (hmine : forall id, id ∈ ids -> id ∈ v.mine)
    (hopenIn : A.sqlOk c -> v.OpenWithin ids) :
    ViewTriple A c e v (closeTrips username ts ids)
      (fun _ v' => v.SameSession v' ∧ v'.gap = [] ∧ (A.sqlOk c -> v'.OpenWithin [])) := by
  induction ids generalizing v with
  | nil => exact viewTriple_pure ⟨View.SameSession.refl v, hgap, hopenIn⟩
  | cons id rest ih =>
      have hid : id ∈ v.mine := hmine id List.mem_cons_self
      refine viewTriple_bind (R := fun _ v1 => v.SameSession v1 ∧
        (forall x, x ∈ v1.gap -> x = id) ∧ (forall x, x ∈ v.mine -> x ∈ v1.mine) ∧
        (A.sqlOk c -> v1.OpenWithin rest))
        (viewTriple_conseq (spec_endTrip huser hown hentry hquiet) ?_) ?_
      · intro r v1 h
        cases r with
        | ok =>
            cases h
            refine ⟨⟨rfl, rfl, rfl, rfl, rfl⟩, ?_, fun x hx => List.mem_cons_of_mem _ hx, ?_⟩
            · intro x hx
              rcases List.mem_cons.mp hx with heq | hx
              · exact heq
              · rw [hgap] at hx
                cases hx
            · intro hsql
              exact openWithin_filter (hopenIn hsql) rfl
        | error err =>
            rcases h with ⟨rfl, hsql⟩ | rfl
            · refine ⟨View.SameSession.refl _, ?_, fun x hx => hx, fun h => absurd h hsql⟩
              rw [hgap]
              intro x hx
              cases hx
            · refine ⟨⟨rfl, rfl, rfl, rfl, rfl⟩, ?_, fun x hx => hx, ?_⟩
              · simp only [hgap]
                intro x hx
                cases hx
              · intro hsql
                exact openWithin_filter (hopenIn hsql) rfl
      · intro _ v1 h
        rcases h with ⟨hsame, hgap1, hmine1, hopenIn1⟩
        refine viewTriple_bind
          (act_dropTrip (hmine1 id hid) (hentry.trans hsame.user.symm) hquiet) ?_
        intro _ v2 hv2
        cases hv2
        have hgap2 : v1.gap.filter (· ≠ id) = [] := by
          rw [List.filter_eq_nil_iff]
          intro x hx
          simp [hgap1 x hx]
        refine viewTriple_conseq (ih (v := { v1 with gap := v1.gap.filter (· ≠ id) })
          (hsame.user.trans huser) (hsame.own.trans hown) (hentry.trans hsame.user.symm) hgap2
          (fun x hx => hmine1 x (hmine x (List.mem_cons_of_mem _ hx))) hopenIn1) ?_
        intro _ v3 h3
        exact ⟨hsame.trans ⟨h3.1.user, h3.1.own, h3.1.statuses, h3.1.sinks, h3.1.log⟩, h3.2⟩

theorem spec_closeOpenTrips {username token : String}
    (huser : v.user = some username) (hown : v.own = [(token, username)])
    (hentry : e.user = v.user) (hquiet : ¬ e.quiet) (hgap : v.gap = []) :
    ViewTriple A c e v (closeOpenTrips username)
      (fun _ v' => v.SameSession v' ∧ v'.gap = [] ∧ (A.sqlOk c -> v'.OpenWithin [])) := by
  apply viewTriple_bind act_nowSecs
  intro ts v1 hv1
  cases hv1
  refine viewTriple_bind (spec_mapError
    (Q := OnResult (fun ids v' => v' = { v with openIn := some ids, mine := ids })
      (fun _ v' => v' = v ∧ ¬ A.sqlOk c))
    (viewTriple_conseq (act_selectOpenTripIds huser hown) ?_)) ?_
  · intro r v' h
    cases r with
    | ok ids => exact h
    | error err => exact h
  · intro r v' h
    cases r with
    | ok ids =>
        cases h
        exact viewTriple_conseq
          (spec_closeTrips (v := { v with openIn := some ids, mine := ids }) huser hown hentry
            hquiet hgap (fun id hid => hid) (fun _ => ⟨ids, rfl, fun id hid => hid⟩))
          (fun _ v2 h2 => ⟨⟨h2.1.user, h2.1.own, h2.1.statuses, h2.1.sinks, h2.1.log⟩, h2.2⟩)
    | error err =>
        rcases h with ⟨rfl, hsql⟩
        exact viewTriple_pure ⟨View.SameSession.refl _, hgap, fun h => absurd h hsql⟩

end Wanderust
