import Wanderust.Interleaving.RelyGuarantee
import Wanderust.Server.World

/-!
# The session invariant

A session is owned by the connection that drew its token.  The owner of the
session of a user is the only connection that changes the trips of that user and
the only one that ends the session.  This module states the invariant of the
shared state and the interference that a connection has to expect.
-/

namespace Wanderust

open Interleaving

variable {F : Type}

/-! # Ownership -/

/-- The token is a session of the user, and connection `c` drew it. -/
def Holds (s : State F) (c : ConnId) (token username : String) : Prop :=
  s.sessions.lookup token = some username ∧ (token, c) ∈ s.drawn

def Owns (s : State F) (c : ConnId) (username : String) : Prop :=
  exists token, Holds s c token username

def HasSession (s : State F) (username : String) : Prop :=
  exists token, s.sessions.lookup token = some username

def TripOf (s : State F) (id : Int) (username : String) : Prop :=
  exists row, s.trips.lookup id = some row ∧ row.username = username

def TripOpen (s : State F) (id : Int) (username : String) : Prop :=
  exists row, s.trips.lookup id = some row ∧ row.username = username ∧ row.endedAt = none

/-- The trips of the user in memory are open in the database, but for those in `gap`. -/
def TrackedOpen (s : State F) (gap : List Int) (username : String) : Prop :=
  forall id, TripOf s id username -> s.lastCoordinates.lookup id ≠ none ->
    TripOpen s id username ∨ id ∈ gap

def NoTripLeft (s : State F) (username : String) : Prop :=
  forall id, TripOf s id username ->
    ¬ TripOpen s id username ∧ s.lastCoordinates.lookup id = none

/-- The user has a status, and connection `c` wrote it last. -/
def Shown (s : State F) (c : ConnId) (username : String) : Prop :=
  s.statusBy username = some c ∧ s.statuses.lookup username ≠ none

/-! # What a run may be assumed to do -/

/--
The assumptions under which a run is considered: the connections whose SQL
statements and whose sends do not fail, two restrictions on account switches,
and a set of trips known to be lost from memory.
-/
structure Regime where
  sqlOk : ConnId -> Prop
  sendOk : ConnId -> Prop
  switchOk : Prop
  tripsOk : Prop
  tripsOk_sql : tripsOk -> forall c, sqlOk c
  lost : Int -> Prop

def Regime.any : Regime where
  sqlOk := fun _ => False
  sendOk := fun _ => False
  switchOk := False
  tripsOk := False
  tripsOk_sql := False.elim
  lost := fun _ => False

def FreshDraw (s : State F) (ch : Choice) (o : Op F) : Prop :=
  o = .drawFreshToken -> forall c, (ch.uuid, c) ∉ s.drawn

/-- No step takes the status or the sink from a connection that holds the session. -/
def SwitchRemoves (s : State F) (c : ConnId) (o : Op F) : Prop :=
  forall username c', c' ≠ c -> Owns s c' username ->
    (o = .statusRemove username -> ¬ Shown s c' username) ∧
    (o = .sinksRemove username -> s.sinks.lookup username ≠ some c')

/--
A connection that already holds the session of another user drops the session of
a user only when that user has no trip left.
-/
def SwitchLeaves (s : State F) (c : ConnId) (o : Op F) : Prop :=
  forall username, o = .invalidateUserSessions username ->
    (exists other, other ≠ username ∧ Owns s c other) -> NoTripLeft s username

structure Regime.Allows (A : Regime) (c : ConnId) (ch : Choice) (o : Op F)
    (s : State F) : Prop where
  fresh : FreshDraw s ch o
  sql : A.sqlOk c -> o.isSql = true -> ch.fails = false
  send : A.sendOk c -> (exists msg, o = .send msg) -> ch.fails = false
  switch : A.switchOk -> SwitchRemoves s c o
  trips : A.tripsOk -> SwitchLeaves s c o

/-! # The invariant of the shared state -/

structure Inv (A : Regime) (s : State F) : Prop where
  one_token : forall {t t' u}, s.sessions.lookup t = some u ->
    s.sessions.lookup t' = some u -> t = t'
  one_drawer : forall {t c c'}, (t, c) ∈ s.drawn -> (t, c') ∈ s.drawn -> c = c'
  session_drawn : forall {t u}, s.sessions.lookup t = some u -> exists c, (t, c) ∈ s.drawn
  session_user : forall {t u}, s.sessions.lookup t = some u ->
    exists row, s.users.lookup u = some row
  tracked_known : forall {id}, s.lastCoordinates.lookup id ≠ none ->
    exists u, TripOf s id u
  free_tracked : forall {u}, ¬ HasSession s u -> TrackedOpen s [] u
  free_trips : A.tripsOk -> forall {u}, ¬ HasSession s u -> NoTripLeft s u
  lost_untracked : forall {id}, A.lost id ->
    s.trips.lookup id ≠ none ∧ s.lastCoordinates.lookup id = none
  status_written : forall {u}, s.statuses.lookup u ≠ none -> exists c, s.statusBy u = some c

/-! # Interference -/

/-- What the other connections may do to the part of the state that `c` works on. -/
structure Rely (A : Regime) (c : ConnId) (s s' : State F) : Prop where
  user : s'.userState c = s.userState c
  traffic : s'.traffic c = s.traffic c
  draws : forall t, (t, c) ∈ s'.drawn <-> (t, c) ∈ s.drawn
  own : forall t, (t, c) ∈ s.drawn -> s'.sessions.lookup t = s.sessions.lookup t
  users : forall u row, s.users.lookup u = some row -> s'.users.lookup u = some row
  trips : forall u, Owns s c u -> forall id row, row.username = u ->
    (s'.trips.lookup id = some row <-> s.trips.lookup id = some row)
  coords : forall u, Owns s c u -> forall id, TripOf s id u ->
    s'.lastCoordinates.lookup id = s.lastCoordinates.lookup id
  positions : forall u, Owns s c u -> forall id, TripOf s id u -> forall ts,
    s'.positions.lookup (id, ts) = s.positions.lookup (id, ts)
  sinks : forall u, s'.sinks.lookup u = some c -> s.sinks.lookup u = some c
  statusBy : forall u, s'.statusBy u = some c -> s.statusBy u = some c
  kept : A.switchOk -> forall u, Owns s c u ->
    (s.sinks.lookup u = some c -> s'.sinks.lookup u = some c) ∧ (Shown s c u -> Shown s' c u)

theorem Rely.refl (A : Regime) (c : ConnId) (s : State F) : Rely A c s s where
  user := rfl
  traffic := rfl
  draws := fun _ => Iff.rfl
  own := fun _ _ => rfl
  users := fun _ _ h => h
  trips := fun _ _ _ _ _ => Iff.rfl
  coords := fun _ _ _ _ => rfl
  positions := fun _ _ _ _ _ => rfl
  sinks := fun _ h => h
  statusBy := fun _ h => h
  kept := fun _ _ _ => ⟨id, id⟩

theorem Rely.holds_iff {A : Regime} {c : ConnId} {s s' : State F} (h : Rely A c s s')
    (t u : String) : Holds s' c t u <-> Holds s c t u := by
  unfold Holds
  rw [h.draws]
  constructor
  · intro hs
    exact ⟨(h.own t hs.2).symm.trans hs.1, hs.2⟩
  · intro hs
    exact ⟨(h.own t hs.2).trans hs.1, hs.2⟩

theorem Rely.owns_iff {A : Regime} {c : ConnId} {s s' : State F} (h : Rely A c s s')
    (u : String) : Owns s' c u <-> Owns s c u := by
  unfold Owns
  constructor
  · intro h
    rcases h with ⟨t, ht⟩
    exact ⟨t, (h.holds_iff t u).mp ht⟩
  · intro h
    rcases h with ⟨t, ht⟩
    exact ⟨t, (h.holds_iff t u).mpr ht⟩

theorem Rely.tripOf_iff {A : Regime} {c : ConnId} {s s' : State F} {u : String}
    (h : Rely A c s s') (hown : Owns s c u) (id : Int) : TripOf s' id u <-> TripOf s id u := by
  unfold TripOf
  constructor
  · intro h
    rcases h with ⟨row, hrow, hu⟩
    exact ⟨row, (h.trips u hown id row hu).mp hrow, hu⟩
  · intro h
    rcases h with ⟨row, hrow, hu⟩
    exact ⟨row, (h.trips u hown id row hu).mpr hrow, hu⟩

theorem Rely.tripOpen_iff {A : Regime} {c : ConnId} {s s' : State F} {u : String}
    (h : Rely A c s s') (hown : Owns s c u) (id : Int) :
    TripOpen s' id u <-> TripOpen s id u := by
  unfold TripOpen
  constructor
  · intro h
    rcases h with ⟨row, hrow, hu, hopen⟩
    exact ⟨row, (h.trips u hown id row hu).mp hrow, hu, hopen⟩
  · intro h
    rcases h with ⟨row, hrow, hu, hopen⟩
    exact ⟨row, (h.trips u hown id row hu).mpr hrow, hu, hopen⟩

theorem Rely.trans {A : Regime} {c : ConnId} {s s' s'' : State F}
    (h : Rely A c s s') (h' : Rely A c s' s'') : Rely A c s s'' where
  user := h'.user.trans h.user
  traffic := h'.traffic.trans h.traffic
  draws := fun t => (h'.draws t).trans (h.draws t)
  own := fun t ht => (h'.own t ((h.draws t).mpr ht)).trans (h.own t ht)
  users := fun u row hrow => h'.users u row (h.users u row hrow)
  trips := fun u hu id row hrow =>
    (h'.trips u ((h.owns_iff u).mpr hu) id row hrow).trans (h.trips u hu id row hrow)
  coords := fun u hu id hid =>
    (h'.coords u ((h.owns_iff u).mpr hu) id ((h.tripOf_iff hu id).mpr hid)).trans
      (h.coords u hu id hid)
  positions := fun u hu id hid ts =>
    (h'.positions u ((h.owns_iff u).mpr hu) id ((h.tripOf_iff hu id).mpr hid) ts).trans
      (h.positions u hu id hid ts)
  sinks := fun u hu => h.sinks u (h'.sinks u hu)
  statusBy := fun u hu => h.statusBy u (h'.statusBy u hu)
  kept := fun hA u hu => by
    have h1 := h.kept hA u hu
    have h2 := h'.kept hA u ((h.owns_iff u).mpr hu)
    exact ⟨fun hs => h2.1 (h1.1 hs), fun hs => h2.2 (h1.2 hs)⟩

def setting [Geo F] [Bcrypt] (A : Regime) : Setting (@Op.Ret F) ConnId Choice (State F) where
  exec := exec
  allowed := A.Allows
  inv := Inv A
  rely := Rely A
  rely_refl := Rely.refl A
  rely_trans := Rely.trans

/-! # What a handler promises -/

/--
The user for whom a task may act, whether it may only read, and whether it may add
rows, switch accounts, or log the user out.
-/
structure Entry where
  user : Option String
  quiet : Prop
  rows : Prop
  switches : Prop
  quits : Prop

/-- The entry of a task that leaves trips and sessions alone. -/
def Entry.onlooker : Entry where
  user := none
  quiet := False
  rows := False
  switches := False
  quits := False

/-- The effect of a single step of a handler on the trips and the sessions. -/
structure Guar (A : Regime) (e : Entry) (s s' : State F) : Prop where
  trips : forall id, s'.trips.lookup id ≠ s.trips.lookup id ->
    exists u, e.user = some u ∧ TripOf s' id u ∧
      forall row, s.trips.lookup id = some row -> row.username = u
  positions : forall id ts, s'.positions.lookup (id, ts) ≠ s.positions.lookup (id, ts) ->
    e.rows ∧ exists u, e.user = some u ∧ TripOpen s id u ∧ ¬ A.lost id
  coords : forall id, s'.lastCoordinates.lookup id ≠ s.lastCoordinates.lookup id ->
    exists u, e.user = some u ∧ TripOf s id u
  sessions : forall t u, s.sessions.lookup t = some u -> s'.sessions.lookup t ≠ some u ->
    e.user = some u
  leaves : forall t u, s.sessions.lookup t = some u -> s'.sessions.lookup t ≠ some u ->
    exists c, (t, c) ∈ s.drawn ∧ (A.sqlOk c -> ¬ e.switches -> NoTripLeft s u)
  tracks : forall id, s.lastCoordinates.lookup id = none ->
    s'.lastCoordinates.lookup id ≠ none -> exists u, TripOpen s id u
  users : forall c, s.userState c ≠ none -> s'.userState c = none -> e.quits ∧ ¬ e.quiet
  quiet : e.quiet ->
    s'.trips = s.trips ∧ s'.positions = s.positions ∧
      s'.lastCoordinates = s.lastCoordinates ∧ s'.statuses = s.statuses ∧ s'.sinks = s.sinks

end Wanderust
