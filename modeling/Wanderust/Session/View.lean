import Wanderust.Session.Invariant

/-!
# The view of a connection

While it runs a handler, a connection knows a small part of the state: its own
variables and everything that belongs to the users whose sessions it owns.  The
view records that knowledge, and the assertion `Local` ties it to the state.
-/

namespace Wanderust

open Interleaving

variable {F : Type}

structure View (F : Type) where
  user : Option String
  own : List (String × String)
  statuses : List String
  sinks : List String
  log : List (Event F)
  fresh : List String := []
  known : List String := []
  gap : List Int := []
  openIn : Option (List Int) := none
  mine : List Int := []
  opened : List Int := []
  untracked : List Int := []

def View.anonymous (log : List (Event F)) : View F :=
  { user := none, own := [], statuses := [], sinks := [], log }

/-- The view of a connection that has nothing left, whatever its last user was. -/
def View.released (user : Option String) (log : List (Event F)) : View F :=
  { user, own := [], statuses := [], sinks := [], log }

def View.loggedIn (username token : String) (log : List (Event F)) : View F :=
  { user := some username, own := [(token, username)], statuses := [username],
    sinks := [username], log }

structure Local (A : Regime) (c : ConnId) (v : View F) (s : State F) : Prop where
  user : s.userState c = v.user
  log : s.traffic c = v.log
  own : forall t u, Holds s c t u <-> (t, u) ∈ v.own
  statuses_le : forall u, s.statusBy u = some c -> u ∈ v.statuses
  sinks_le : forall u, s.sinks.lookup u = some c -> u ∈ v.sinks
  fresh : forall t, t ∈ v.fresh -> (t, c) ∈ s.drawn ∧ s.sessions.lookup t = none
  known : forall u, u ∈ v.known -> exists row, s.users.lookup u = some row
  tracked : forall u, Owns s c u -> TrackedOpen s v.gap u
  openIn : forall l, v.openIn = some l -> forall u, Owns s c u ->
    forall id, TripOpen s id u -> id ∈ l
  mine : forall id, id ∈ v.mine -> exists u, v.user = some u ∧ Owns s c u ∧ TripOf s id u
  opened : forall id, id ∈ v.opened ->
    exists u, v.user = some u ∧ Owns s c u ∧ TripOpen s id u
  untracked : forall id, id ∈ v.untracked ->
    (exists u, Owns s c u ∧ TripOf s id u) ∧ s.lastCoordinates.lookup id = none
  statuses_ge : A.switchOk -> forall u, u ∈ v.statuses -> Owns s c u -> Shown s c u
  sinks_ge : A.switchOk -> forall u, u ∈ v.sinks -> Owns s c u ->
    s.sinks.lookup u = some c

theorem Local.owns_iff {A : Regime} {c : ConnId} {v : View F} {s : State F}
    (h : Local A c v s) (u : String) : Owns s c u <-> exists t, (t, u) ∈ v.own := by
  unfold Owns
  constructor
  · intro h
    rcases h with ⟨t, ht⟩
    exact ⟨t, (h.own t u).mp ht⟩
  · intro h
    rcases h with ⟨t, ht⟩
    exact ⟨t, (h.own t u).mpr ht⟩

theorem Local.noTripLeft {A : Regime} {c : ConnId} {v : View F} {s : State F}
    (hs : Local A c v s) {username : String} (hown : Owns s c username)
    (hopenIn : v.openIn = some [])
    (hgap : v.gap = []) : NoTripLeft s username := by
  intro id htrip
  have hclosed : ¬ TripOpen s id username := by
    intro hopen
    cases hs.openIn [] hopenIn username hown id hopen
  refine ⟨hclosed, ?_⟩
  by_contra hcoord
  rcases hs.tracked username hown id htrip hcoord with hopen | hmem
  · exact hclosed hopen
  · rw [hgap] at hmem
    cases hmem

theorem Local.env {A : Regime} {c : ConnId} {v : View F} {s s' : State F}
    (h : Local A c v s) (hrely : Rely A c s s') : Local A c v s' where
  user := hrely.user.trans h.user
  log := hrely.traffic.trans h.log
  own := fun t u => (hrely.holds_iff t u).trans (h.own t u)
  statuses_le := fun u hu => h.statuses_le u (hrely.statusBy u hu)
  sinks_le := fun u hu => h.sinks_le u (hrely.sinks u hu)
  fresh := by
    intro t ht
    have hfresh := h.fresh t ht
    exact ⟨(hrely.draws t).mpr hfresh.1, (hrely.own t hfresh.1).trans hfresh.2⟩
  known := by
    intro u hu
    rcases h.known u hu with ⟨row, hrow⟩
    exact ⟨row, hrely.users u row hrow⟩
  tracked := by
    intro u hu id hid hcoord
    have hown := (hrely.owns_iff u).mp hu
    have hid' := (hrely.tripOf_iff hown id).mp hid
    rw [hrely.coords u hown id hid'] at hcoord
    cases h.tracked u hown id hid' hcoord with
    | inl hopen => exact Or.inl ((hrely.tripOpen_iff hown id).mpr hopen)
    | inr hgap => exact Or.inr hgap
  openIn := by
    intro l hl u hu id hopen
    have hown := (hrely.owns_iff u).mp hu
    exact h.openIn l hl u hown id ((hrely.tripOpen_iff hown id).mp hopen)
  mine := by
    intro id hid
    rcases h.mine id hid with ⟨u, huser, hown, htrip⟩
    exact ⟨u, huser, (hrely.owns_iff u).mpr hown, (hrely.tripOf_iff hown id).mpr htrip⟩
  opened := by
    intro id hid
    rcases h.opened id hid with ⟨u, huser, hown, htrip⟩
    exact ⟨u, huser, (hrely.owns_iff u).mpr hown, (hrely.tripOpen_iff hown id).mpr htrip⟩
  untracked := by
    intro id hid
    rcases h.untracked id hid with ⟨⟨u, hown, htrip⟩, hcoord⟩
    refine ⟨⟨u, (hrely.owns_iff u).mpr hown, (hrely.tripOf_iff hown id).mpr htrip⟩, ?_⟩
    rw [hrely.coords u hown id htrip]
    exact hcoord
  statuses_ge := by
    intro hA u hmem hu
    have hown := (hrely.owns_iff u).mp hu
    exact (hrely.kept hA u hown).2 (h.statuses_ge hA u hmem hown)
  sinks_ge := by
    intro hA u hmem hu
    have hown := (hrely.owns_iff u).mp hu
    exact (hrely.kept hA u hown).1 (h.sinks_ge hA u hmem hown)

section

variable [Geo F] [Bcrypt] {A : Regime} {c : ConnId} {e : Entry}

theorem stable_local (v : View F) : (setting A).Stable c (Local A c v) :=
  fun _ _ h _ hrely => h.env hrely

def ViewTriple (A : Regime) (c : ConnId) (e : Entry) {alpha : Type} (v : View F)
    (p : Program F alpha) (Q : alpha -> View F -> Prop) : Prop :=
  (setting A).Triple c (Guar A e) (Local A c v) p
    (fun a s => exists v', Local A c v' s ∧ Q a v')

theorem viewTriple_pure {alpha : Type} {v : View F} {a : alpha}
    {Q : alpha -> View F -> Prop} (h : Q a v) :
    ViewTriple A c e v (.pure a) Q :=
  Setting.triple_pure fun _ _ hs => ⟨v, hs, h⟩

theorem triple_bind_view {alpha beta : Type} {v : View F} {p : Program F alpha}
    {f : alpha -> Program F beta} {R : alpha -> View F -> Prop}
    {Q : beta -> State F -> Prop}
    (hp : ViewTriple A c e v p R)
    (hf : forall a v', R a v' ->
      (setting A).Triple c (Guar A e) (Local A c v') (f a) Q) :
    (setting A).Triple c (Guar A e) (Local A c v) (p.bind f) Q := by
  apply Setting.triple_bind hp
  intro a s hinv hs
  rcases hs with ⟨v', hlocal, hmid⟩
  exact hf a v' hmid s hinv hlocal

theorem viewTriple_bind {alpha beta : Type} {v : View F} {p : Program F alpha}
    {f : alpha -> Program F beta} {R : alpha -> View F -> Prop}
    {Q : beta -> View F -> Prop}
    (hp : ViewTriple A c e v p R)
    (hf : forall a v', R a v' -> ViewTriple A c e v' (f a) Q) :
    ViewTriple A c e v (p.bind f) Q :=
  triple_bind_view hp hf

theorem viewTriple_conseq {alpha : Type} {v : View F} {p : Program F alpha}
    {Q Q' : alpha -> View F -> Prop} (h : ViewTriple A c e v p Q)
    (hpost : forall a v', Q a v' -> Q' a v') :
    ViewTriple A c e v p Q' := by
  apply Setting.triple_conseq h (fun _ _ hs => hs)
  intro a s hs
  rcases hs with ⟨v', hlocal, hv'⟩
  exact ⟨v', hlocal, hpost a v' hv'⟩

theorem viewTriple_weaken {alpha : Type} {v v' : View F} {p : Program F alpha}
    {Q : alpha -> View F -> Prop} (hv : forall s, Local A c v s -> Local A c v' s)
    (h : ViewTriple A c e v' p Q) : ViewTriple A c e v p Q :=
  Setting.triple_conseq h (fun s _ hs => hv s hs) (fun _ _ h => h)

/-- Fresh tokens are never refused, so no operation asks for a second turn. -/
theorem exec_ne_again {s s' : State F} {ch : Choice} {o : Op F} (hinv : Inv A s)
    (hallowed : A.Allows c ch o s) : exec c ch o s ≠ .again s' := by
  intro hexec
  cases o with
  | drawFreshToken =>
      unfold exec at hexec
      cases hlookup : s.sessions.lookup ch.uuid with
      | none => simp [hlookup] at hexec
      | some u =>
          rcases hinv.session_drawn hlookup with ⟨c', hdrawn⟩
          exact hallowed.fresh rfl c' hdrawn
  | _ => exact exec_not_again (by simp) hexec

/-- The rule of an operation: the view is followed from its start to its end. -/
theorem viewTriple_act {v : View F} {o : Op F} {Q : o.Ret -> View F -> Prop}
    (h : forall s ch r s', Inv A s -> Local A c v s -> A.Allows c ch o s ->
      exec c ch o s = .done r s' ->
      (setting A).Keeps c (Guar A e) s s' ∧ exists v', Local A c v' s' ∧ Q r v') :
    ViewTriple A c e v (act o) Q := by
  apply Setting.triple_perform (stable_local v)
  intro s hinv hs ch hallowed
  cases hexec : (setting A).exec c ch o s with
  | blocked => trivial
  | again s' => exact absurd hexec (exec_ne_again hinv hallowed)
  | done r s' => exact h s ch r s' hinv hs hallowed hexec

end

end Wanderust
