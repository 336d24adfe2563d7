import Wanderust.Session.Rules

/-!
# Tokens and sessions

What a token that is drawn, a session that is opened and a session that is
dropped mean for the invariant, for the other connections and for the view of
the one that does it.
-/

namespace Wanderust

variable {F : Type} {A : Regime} {c : ConnId} {e : Entry} {s : State F} {v : View F}
variable {token username : String}

/-! # Drawing a token -/

def State.draw (s : State F) (c : ConnId) (token : String) : State F :=
  { s with drawn := (token, c) :: s.drawn }

theorem holds_draw_iff (hunused : s.sessions.lookup token = none) {c' : ConnId} {t u : String} :
    Holds (s.draw c token) c' t u <-> Holds s c' t u := by
  constructor
  · intro h
    rcases h with ⟨hsess, hmem⟩
    rcases List.mem_cons.mp hmem with heq | hmem
    · cases heq
      cases hunused.symm.trans hsess
    · exact ⟨hsess, hmem⟩
  · intro h
    exact ⟨h.1, List.mem_cons_of_mem _ h.2⟩

theorem owns_draw_iff (hunused : s.sessions.lookup token = none) {c' : ConnId} {u : String} :
    Owns (s.draw c token) c' u <-> Owns s c' u :=
  exists_congr fun _ => holds_draw_iff hunused

theorem inv_draw (hinv : Inv A s) (hfresh : forall c', (token, c') ∉ s.drawn) :
    Inv A (s.draw c token) :=
  { hinv with
    one_drawer := by
      intro t c1 c2 h1 h2
      rcases List.mem_cons.mp h1 with h1 | h1 <;> rcases List.mem_cons.mp h2 with h2 | h2
      · cases h1
        cases h2
        rfl
      · cases h1
        exact absurd h2 (hfresh c2)
      · cases h2
        exact absurd h1 (hfresh c1)
      · exact hinv.one_drawer h1 h2
    session_drawn := by
      intro t u ht
      rcases hinv.session_drawn ht with ⟨c', hc'⟩
      exact ⟨c', List.mem_cons_of_mem _ hc'⟩ }

theorem rely_draw {c' : ConnId} (hne : c' ≠ c) : Rely A c' s (s.draw c token) :=
  { Rely.refl A c' s with
    draws := by
      intro t
      constructor
      · intro hmem
        rcases List.mem_cons.mp hmem with heq | hmem
        · cases heq
          exact absurd rfl hne
        · exact hmem
      · exact List.mem_cons_of_mem _ }

theorem local_draw (hs : Local A c v s) (hunused : s.sessions.lookup token = none) :
    Local A c { v with fresh := token :: v.fresh } (s.draw c token) where
  user := hs.user
  log := hs.log
  own := fun t u => (holds_draw_iff hunused).trans (hs.own t u)
  statuses_le := hs.statuses_le
  sinks_le := hs.sinks_le
  known := hs.known
  tracked := fun u hu => hs.tracked u ((owns_draw_iff hunused).mp hu)
  openIn := fun l hl u hu => hs.openIn l hl u ((owns_draw_iff hunused).mp hu)
  mine := by
    intro id hid
    rcases hs.mine id hid with ⟨u, huser, hown, htrip⟩
    exact ⟨u, huser, (owns_draw_iff hunused).mpr hown, htrip⟩
  opened := by
    intro id hid
    rcases hs.opened id hid with ⟨u, huser, hown, htrip⟩
    exact ⟨u, huser, (owns_draw_iff hunused).mpr hown, htrip⟩
  untracked := by
    intro id hid
    rcases hs.untracked id hid with ⟨⟨u, hown, htrip⟩, hcoord⟩
    exact ⟨⟨u, (owns_draw_iff hunused).mpr hown, htrip⟩, hcoord⟩
  statuses_ge := fun hA u hmem hu => hs.statuses_ge hA u hmem ((owns_draw_iff hunused).mp hu)
  sinks_ge := fun hA u hmem hu => hs.sinks_ge hA u hmem ((owns_draw_iff hunused).mp hu)
  fresh := by
    intro t ht
    rcases List.mem_cons.mp ht with rfl | ht
    · exact ⟨List.mem_cons_self, hunused⟩
    · exact ⟨List.mem_cons_of_mem _ (hs.fresh t ht).1, (hs.fresh t ht).2⟩

/-! # Opening a session -/

def State.openSession (s : State F) (token username : String) : State F :=
  { s with sessions := s.sessions.insert token username }

theorem lookup_openSession_iff (hunused : s.sessions.lookup token = none) {t u : String} :
    (s.openSession token username).sessions.lookup t = some u <->
      (t = token ∧ u = username) ∨ s.sessions.lookup t = some u := by
  show (s.sessions.insert token username).lookup t = some u <-> _
  rw [Table.lookup_insert_eq]
  by_cases heq : t = token
  · rw [if_pos heq, heq, hunused]
    simp [eq_comm]
  · rw [if_neg heq]
    simp [heq]

theorem hasSession_openSession (hunused : s.sessions.lookup token = none) {u : String}
    (h : HasSession s u) : HasSession (s.openSession token username) u := by
  rcases h with ⟨t, ht⟩
  exact ⟨t, (lookup_openSession_iff hunused).mpr (Or.inr ht)⟩

theorem owns_openSession (hunused : s.sessions.lookup token = none) {c' : ConnId} {u : String}
    (h : Owns s c' u) : Owns (s.openSession token username) c' u := by
  rcases h with ⟨t, ht, hmem⟩
  exact ⟨t, (lookup_openSession_iff hunused).mpr (Or.inr ht), hmem⟩

theorem owns_of_openSession (hunused : s.sessions.lookup token = none) {c' : ConnId} {u : String}
    (h : Owns (s.openSession token username) c' u) : u = username ∨ Owns s c' u := by
  rcases h with ⟨t, ht, hmem⟩
  rcases (lookup_openSession_iff hunused).mp ht with ⟨_, hu⟩ | ht
  · exact Or.inl hu
  · exact Or.inr ⟨t, ht, hmem⟩

theorem inv_openSession (hinv : Inv A s) (hunused : s.sessions.lookup token = none)
    (hfree : ¬ HasSession s username) (hdrawn : (token, c) ∈ s.drawn)
    (hknown : exists row, s.users.lookup username = some row) :
    Inv A (s.openSession token username) :=
  { hinv with
    one_token := by
      intro t t' u ht ht'
      rcases (lookup_openSession_iff hunused).mp ht with ⟨h1, h2⟩ | ht <;>
        rcases (lookup_openSession_iff hunused).mp ht' with ⟨h3, h4⟩ | ht'
      · exact h1.trans h3.symm
      · exact absurd ⟨t', h2 ▸ ht'⟩ hfree
      · exact absurd ⟨t, h4 ▸ ht⟩ hfree
      · exact hinv.one_token ht ht'
    session_drawn := by
      intro t u ht
      rcases (lookup_openSession_iff hunused).mp ht with ⟨rfl, _⟩ | ht
      · exact ⟨c, hdrawn⟩
      · exact hinv.session_drawn ht
    session_user := by
      intro t u ht
      rcases (lookup_openSession_iff hunused).mp ht with ⟨_, rfl⟩ | ht
      · exact hknown
      · exact hinv.session_user ht
    free_tracked := fun hu => hinv.free_tracked fun h => hu (hasSession_openSession hunused h)
    free_trips := fun hA _ hu =>
      hinv.free_trips hA fun h => hu (hasSession_openSession hunused h) }

theorem rely_openSession (hinv : Inv A s) (hdrawn : (token, c) ∈ s.drawn) {c' : ConnId}
    (hne : c' ≠ c) : Rely A c' s (s.openSession token username) :=
  { Rely.refl A c' s with
    own := by
      intro t hmem
      show (s.sessions.insert token username).lookup t = _
      rw [Table.lookup_insert_eq, if_neg]
      intro heq
      rw [heq] at hmem
      exact hne (hinv.one_drawer hmem hdrawn) }

theorem guar_openSession (hunused : s.sessions.lookup token = none) :
    Guar A e s (s.openSession token username) :=
  { Guar.refl A e s with
    sessions := fun _ _ ht ht' =>
      absurd ((lookup_openSession_iff hunused).mpr (Or.inr ht)) ht'
    leaves := fun _ _ ht ht' =>
      absurd ((lookup_openSession_iff hunused).mpr (Or.inr ht)) ht' }

theorem local_openSession (hinv : Inv A s) (hs : Local A c v s)
    (hunused : s.sessions.lookup token = none) (hfree : ¬ HasSession s username)
    (hdrawn : (token, c) ∈ s.drawn) (hopenIn : v.openIn = none)
    (hstatuses : forall u, u ∈ v.statuses -> exists t, (t, u) ∈ v.own)
    (hsinks : forall u, u ∈ v.sinks -> exists t, (t, u) ∈ v.own) :
    Local A c { v with own := (token, username) :: v.own, fresh := [] }
      (s.openSession token username) where
  user := hs.user
  log := hs.log
  own := by
    intro t u
    constructor
    · intro h
      rcases h with ⟨ht, hmem⟩
      rcases (lookup_openSession_iff hunused).mp ht with ⟨rfl, rfl⟩ | ht
      · exact List.mem_cons_self
      · exact List.mem_cons_of_mem _ ((hs.own t u).mp ⟨ht, hmem⟩)
    · intro hmem
      rcases List.mem_cons.mp hmem with heq | hmem
      · cases heq
        exact ⟨(lookup_openSession_iff hunused).mpr (Or.inl ⟨rfl, rfl⟩), hdrawn⟩
      · have hheld := (hs.own t u).mpr hmem
        exact ⟨(lookup_openSession_iff hunused).mpr (Or.inr hheld.1), hheld.2⟩
  statuses_le := hs.statuses_le
  sinks_le := hs.sinks_le
  fresh := fun t ht => by cases ht
  known := hs.known
  tracked := by
    intro u hu
    rcases owns_of_openSession hunused hu with rfl | hu
    · intro id hid hcoord
      exact (hinv.free_tracked hfree id hid hcoord).imp_right fun h => by cases h
    · exact hs.tracked u hu
  openIn := by
    intro l hl
    rw [hopenIn] at hl
    cases hl
  mine := by
    intro id hid
    rcases hs.mine id hid with ⟨u, huser, hown, htrip⟩
    exact ⟨u, huser, owns_openSession hunused hown, htrip⟩
  opened := by
    intro id hid
    rcases hs.opened id hid with ⟨u, huser, hown, htrip⟩
    exact ⟨u, huser, owns_openSession hunused hown, htrip⟩
  untracked := by
    intro id hid
    rcases hs.untracked id hid with ⟨⟨u, hown, htrip⟩, hcoord⟩
    exact ⟨⟨u, owns_openSession hunused hown, htrip⟩, hcoord⟩
  statuses_ge := by
    intro hA u hmem _
    rcases hstatuses u hmem with ⟨t, ht⟩
    exact hs.statuses_ge hA u hmem (hs.owns ht)
  sinks_ge := by
    intro hA u hmem _
    rcases hsinks u hmem with ⟨t, ht⟩
    exact hs.sinks_ge hA u hmem (hs.owns ht)

/-! # Dropping a session -/

def View.drop (v : View F) (username : String) : View F :=
  { v with
    own := v.own.filter (fun p => p.2 ≠ username)
    openIn := none
    mine := []
    opened := []
    untracked := [] }

def Dropped (username : String) (sessions m : Table String String) : Prop :=
  forall t, m.lookup t = if sessions.lookup t = some username then none else sessions.lookup t

variable {m : Table String String}

theorem Dropped.lookup_iff (hm : Dropped username s.sessions m) {t u : String} :
    m.lookup t = some u <-> s.sessions.lookup t = some u ∧ u ≠ username := by
  rw [hm]
  by_cases ht : s.sessions.lookup t = some username
  · rw [if_pos ht, ht]
    constructor
    · intro h
      cases h
    · intro h
      rcases h with ⟨h, hne⟩
      cases h
      exact absurd rfl hne
  · rw [if_neg ht]
    constructor
    · intro h
      refine ⟨h, ?_⟩
      intro heq
      rw [heq] at h
      exact ht h
    · intro h
      exact h.1

theorem Dropped.holds_iff (hm : Dropped username s.sessions m) {c' : ConnId} {t u : String} :
    Holds { s with sessions := m } c' t u <-> Holds s c' t u ∧ u ≠ username := by
  constructor
  · intro h
    rcases h with ⟨ht, hmem⟩
    exact ⟨⟨(hm.lookup_iff.mp ht).1, hmem⟩, (hm.lookup_iff.mp ht).2⟩
  · intro h
    rcases h with ⟨⟨ht, hmem⟩, hne⟩
    exact ⟨hm.lookup_iff.mpr ⟨ht, hne⟩, hmem⟩

theorem Dropped.owns (hm : Dropped username s.sessions m) {c' : ConnId} {u : String}
    (h : Owns { s with sessions := m } c' u) : Owns s c' u := by
  rcases h with ⟨t, ht⟩
  exact ⟨t, (hm.holds_iff.mp ht).1⟩

theorem Dropped.free (hm : Dropped username s.sessions m) {u : String}
    (hu : ¬ HasSession { s with sessions := m } u) : u = username ∨ ¬ HasSession s u := by
  by_cases heq : u = username
  · exact Or.inl heq
  · apply Or.inr
    intro h
    rcases h with ⟨t, ht⟩
    exact hu ⟨t, hm.lookup_iff.mpr ⟨ht, heq⟩⟩

theorem inv_dropSession (hinv : Inv A s) (hm : Dropped username s.sessions m)
    (htracked : TrackedOpen s [] username) (htrips : A.tripsOk -> NoTripLeft s username) :
    Inv A { s with sessions := m } :=
  { hinv with
    one_token := fun ht ht' =>
      hinv.one_token (hm.lookup_iff.mp ht).1 (hm.lookup_iff.mp ht').1
    session_drawn := fun ht => hinv.session_drawn (hm.lookup_iff.mp ht).1
    session_user := fun ht => hinv.session_user (hm.lookup_iff.mp ht).1
    free_tracked := by
      intro u hu
      rcases hm.free hu with rfl | hu
      · exact htracked
      · exact hinv.free_tracked hu
    free_trips := by
      intro hA u hu
      rcases hm.free hu with rfl | hu
      · exact htrips hA
      · exact hinv.free_trips hA hu }

theorem rely_dropSession (hinv : Inv A s) (hm : Dropped username s.sessions m)
    (howner : Owns s c username) {c' : ConnId} (hne : c' ≠ c) :
    Rely A c' s { s with sessions := m } :=
  { Rely.refl A c' s with
    own := by
      intro t hmem
      show m.lookup t = _
      rw [hm, if_neg]
      intro ht
      exact hinv.not_owns_of_ne hne howner ⟨t, ht, hmem⟩ }

theorem guar_dropSession (hinv : Inv A s) (hm : Dropped username s.sessions m)
    (hheld : Holds s c token username) (huser : e.user = some username)
    (hleaves : A.sqlOk c -> ¬ e.switches -> NoTripLeft s username) :
    Guar A e s { s with sessions := m } := by
  have hdropped {t u : String} (ht : s.sessions.lookup t = some u) (ht' : m.lookup t ≠ some u) :
      u = username := by
    by_contra hu
    exact ht' (hm.lookup_iff.mpr ⟨ht, hu⟩)
  exact
    { Guar.refl A e s with
      sessions := by
        intro t u ht ht'
        rw [hdropped ht ht']
        exact huser
      leaves := by
        intro t u ht ht'
        have hu := hdropped ht ht'
        rw [hu] at ht ⊢
        rw [hinv.one_token ht hheld.1]
        exact ⟨c, hheld.2, hleaves⟩ }

theorem local_dropSession (hs : Local A c v s) (hm : Dropped username s.sessions m) :
    Local A c (v.drop username) { s with sessions := m } where
  user := hs.user
  log := hs.log
  own := by
    intro t u
    rw [hm.holds_iff, hs.own]
    simp [View.drop]
  statuses_le := hs.statuses_le
  sinks_le := hs.sinks_le
  fresh := by
    intro t ht
    have hfresh := hs.fresh t ht
    refine ⟨hfresh.1, ?_⟩
    show m.lookup t = none
    rw [hm, hfresh.2]
    rfl
  known := hs.known
  tracked := fun u hu => hs.tracked u (hm.owns hu)
  openIn := fun l hl => by cases hl
  mine := fun id hid => by cases hid
  opened := fun id hid => by cases hid
  untracked := fun id hid => by cases hid
  statuses_ge := fun hA u hmem hu => hs.statuses_ge hA u hmem (hm.owns hu)
  sinks_ge := fun hA u hmem hu => hs.sinks_ge hA u hmem (hm.owns hu)

end Wanderust
