import Wanderust.Stats.Progress

/-!
# Requests from an idle connection

A request whose program runs without interference takes an idle connection back
to idle.  StartTrip and Position are followed through the dispatcher.
-/

namespace Wanderust

open Interleaving Prog

variable {F : Type} {c : ConnId} {s s' s'' : State F} {token user : String} {tripId : Int}

/-- The token is a session of the user, who is the user of the connection. -/
structure LoggedIn (c : ConnId) (token user : String) (s : State F) : Prop where
  session : s.sessions.lookup token = some user
  connection : s.userState c = some user

variable [Geo F]

theorem checkedSample_eq {p : Sample F} {body : Program F Flow}
    (hrange : coordsInRange p.lat p.lon = true) (hts : 0 < p.ts) :
    checkedSample p.lat p.lon p.ts body = body := by
  rw [checkedSample, hrange, if_neg (by simp), if_neg (not_le.mpr hts)]

variable [Bcrypt]

/-! # The arms of the dispatcher -/

theorem reply_runs (c : ConnId) (msg : Message F) (s : State F) :
    exists s', Eval exec Eq c (reply msg) s .next s' ∧ SameStores s s' := by
  have hsend : Eval exec Eq c (act (.send msg)) s true (s.log c (.sent msg)) :=
    act_runs (Choice.succeeding 0) (by simp) rfl
  exact ⟨_, eval_bind.mpr ⟨true, _, hsend, Eval.pure _ _⟩, rfl, rfl, rfl, rfl, rfl, rfl⟩

theorem authorized_runs {body : String -> Program F Flow} {flow : Flow}
    (hlogged : LoggedIn c token user s) (hbody : Eval exec Eq c (body user) s flow s') :
    Eval exec Eq c (authorized token body) s flow s' := by
  have hsession : Eval exec Eq c (act (.getUserByToken token)) s (some user) s :=
    act_runs (Choice.succeeding 0) (by simp) (by simp only [exec, hlogged.session])
  have hconnection : Eval exec Eq c (act .getUserState) s (some user) s :=
    act_runs (Choice.succeeding 0) (by simp) (by simp only [exec, hlogged.connection])
  have hvalid : Eval exec Eq c (validateToken token) s (some user) s := by
    refine eval_bind.mpr ⟨some user, s, hsession, eval_bind.mpr ⟨some user, s, hconnection, ?_⟩⟩
    rw [if_neg (fun h => h rfl)]
    exact Eval.pure _ s
  exact eval_bind.mpr ⟨some user, s, hvalid, hbody⟩

theorem startTrip_runs {start : Sample F} (hlogged : LoggedIn c token user s)
    (hrange : coordsInRange start.lat start.lon = true) (hts : 0 < start.ts)
    (huser : (s.users.lookup user).isSome = true) (hid : s.trips.lookup tripId = none)
    (hfree : s.positions.lookup (tripId, start.ts) = none) :
    exists s', Eval exec Eq c (serve (.message (.startTrip token start.lat start.lon start.ts))) s
      .next s' ∧ SameStores (s.withTrip tripId user start) s' := by
  rcases initializeTrips_runs c start huser hid hfree with ⟨s1, htrip, hsame⟩
  rcases reply_runs c (.tripStarted tripId start.lat start.lon start.ts) s1 with
    ⟨s', hreply, hsame'⟩
  refine ⟨s', authorized_runs hlogged ?_, hsame.trans hsame'⟩
  rw [checkedSample_eq hrange hts]
  exact eval_bind.mpr ⟨.ok tripId, s1, htrip, hreply⟩

theorem position_runs {p : Sample F} {coord : CoordState F} (hlogged : LoggedIn c token user s)
    (hrange : coordsInRange p.lat p.lon = true) (hts : 0 < p.ts)
    (hopen : selectOpenTrip s.trips tripId user = true)
    (hcoord : s.lastCoordinates.lookup tripId = some coord)
    (hfree : s.positions.lookup (tripId, p.ts) = none) :
    exists s', Eval exec Eq c (serve (.message (.position token tripId p.lat p.lon p.ts))) s
      .next s' ∧
      SameStores
        (s.withSample tripId (coord.observe p.lat p.lon).1 p (coord.observe p.lat p.lon).2.1)
        s' := by
  have htrip : (s.trips.lookup tripId).isSome = true := by
    rcases selectOpenTrip_iff.mp hopen with ⟨trip, htrip, _⟩
    rw [htrip]
    rfl
  have hquery : Eval exec Eq c (tripOpenFor tripId user) s (.ok true) s :=
    eval_mapError_ok.mpr
      (act_runs (Choice.succeeding 0) (by simp) (by simp only [exec, hopen]; rfl))
  have htracked : Eval exec Eq c (act (.isTracked tripId)) s true s :=
    act_runs (Choice.succeeding 0) (by simp) (by simp [exec, hcoord])
  rcases updateTrip_runs c user htrip hcoord hfree with ⟨s1, hupdate, hsame⟩
  rcases reply_runs c .ack s1 with ⟨s', hreply, hsame'⟩
  refine ⟨s', authorized_runs hlogged ?_, hsame.trans hsame'⟩
  rw [checkedSample_eq hrange hts]
  refine eval_bind.mpr ⟨.ok true, s, hquery, eval_bind.mpr ⟨true, s, htracked, ?_⟩⟩
  exact eval_bind.mpr ⟨.ok (), s1, hupdate, hreply⟩

/-! # Steps of the server -/

variable {w : World F} {item : Incoming F}

theorem reach_step {start : State F} {p p' : Program F Flow} {ch : Choice}
    (htask : w.tasks c = .handling start item p)
    (hstep : p.step exec c ch w.state = some (p', s')) :
    Reachable (fun _ _ => True) w (w.setTask c s' (afterHandling s' start item p')) := by
  apply Reach.refl.tail (.step c ch) trivial
  simp only [World.next, htask, hstep]

/-- A program that runs without interference is run by the steps of its connection. -/
theorem reach_of_eval {start : State F} {p : Program F Flow} {flow : Flow}
    (h : Eval exec Eq c p s flow s') (hstate : w.state = s)
    (htask : w.tasks c = afterHandling s start item p) :
    Reachable (fun _ _ => True) w (w.setTask c s' (afterHandling s' start item (.pure flow))) := by
  induction h generalizing w with
  | pure flow s =>
      have hsame : w.setTask c s (afterHandling s start item (.pure flow)) = w := by
        rw [World.setTask, ← htask, Function.update_eq_self, ← hstate]
      rw [hsame]
      exact Reach.refl
  | @again o next ch s s1 s2 s' flow henv hagain _ ih =>
      subst henv
      have hstep : (Prog.op o next).step exec c ch w.state = some (.op o next, s2) := by
        rw [Prog.step, hstate, hagain]
      have hreach := reach_step htask hstep
      have hrest := ih (w := w.setTask c s2 (afterHandling s2 start item (.op o next))) rfl
        (Function.update_self ..)
      rw [setTask_setTask] at hrest
      exact hreach.trans hrest
  | @done o next ch r s s1 s2 s' flow henv hdone _ ih =>
      subst henv
      have hstep : (Prog.op o next).step exec c ch w.state = some (next r, s2) := by
        rw [Prog.step, hstate, hdone]
      have hreach := reach_step htask hstep
      have hrest := ih (w := w.setTask c s2 (afterHandling s2 start item (next r))) rfl
        (Function.update_self ..)
      rw [setTask_setTask] at hrest
      exact hreach.trans hrest

theorem reach_serve (hidle : w.tasks c = .idle)
    (h : Eval exec Eq c (serve item) (w.state.log c (.received item)) .next s') :
    exists w', Reachable (fun _ _ => True) w w' ∧ w'.tasks = w.tasks ∧ w'.state = s' := by
  let s := w.state.log c (.received item)
  let w1 := w.setTask c s (afterHandling s s item (serve item))
  have hreceive : Reachable (fun _ _ => True) w w1 := by
    apply Reach.refl.tail (.receive c item) trivial
    simp only [World.next, hidle]
    rfl
  have hserve : Reachable (fun _ _ => True) w1
      (w1.setTask c s' (afterHandling s' s item (.pure .next))) :=
    reach_of_eval h rfl (Function.update_self ..)
  refine ⟨_, hreceive.trans hserve, ?_, rfl⟩
  rw [setTask_setTask, World.setTask, afterHandling, ← hidle, Function.update_eq_self]

/--
A run from `w0` has come to `w`, where the connection waits with its user logged
in, and the tables are the given ones.
-/
structure Waits (c : ConnId) (token user : String) (w0 : World F) (trips : Trips)
    (positions : Positions F) (entries : Table Int (CoordState F)) (w : World F) : Prop where
  reach : Reachable (fun _ _ => True) w0 w
  tasks : w.tasks = w0.tasks
  idle : w.tasks c = .idle
  logged : LoggedIn c token user w.state
  user : (w.state.users.lookup user).isSome = true
  trips : w.state.trips = trips
  positions : w.state.positions = positions
  entries : w.state.lastCoordinates = entries

variable {w0 : World F} {trips : Trips} {positions : Positions F}
variable {entries : Table Int (CoordState F)}

theorem Waits.startTrip (h : Waits c token user w0 trips positions entries w) (tripId : Int)
    (start : Sample F)
    (hrange : coordsInRange start.lat start.lon = true) (hts : 0 < start.ts)
    (hid : trips.lookup tripId = none) (hfree : positions.lookup (tripId, start.ts) = none) :
    exists w', Waits c token user w0
      (trips.insert tripId { username := user, startedAt := start.ts, endedAt := none })
      (positions.insert (tripId, start.ts)
        { lat := start.lat, lon := start.lon, stopped := false })
      (entries.insert tripId (CoordState.started start)) w' := by
  rcases h with ⟨hreach, htasks, hidle, hlogged, huser, rfl, rfl, rfl⟩
  rcases startTrip_runs (s := w.state.log c (.received (.message
    (.startTrip token start.lat start.lon start.ts)))) ⟨hlogged.session, hlogged.connection⟩
    hrange hts huser hid hfree with ⟨s', heval, hsame⟩
  rcases reach_serve hidle heval with ⟨w', hreach', htasks', rfl⟩
  exact ⟨w',
    { reach := hreach.trans hreach'
      tasks := htasks'.trans htasks
      idle := by rw [htasks', hidle]
      logged :=
        { session := by rw [hsame.sessions]; exact hlogged.session
          connection := by rw [hsame.userState]; exact hlogged.connection }
      user := by rw [hsame.users]; exact huser
      trips := hsame.trips
      positions := hsame.positions
      entries := hsame.lastCoordinates }⟩

theorem Waits.position {coord : CoordState F} {stopped : Bool}
    (h : Waits c token user w0 trips positions entries w) (tripId : Int) (p : Sample F)
    (hrange : coordsInRange p.lat p.lon = true) (hts : 0 < p.ts)
    (hopen : selectOpenTrip trips tripId user = true)
    (hcoord : entries.lookup tripId = some coord)
    (hinsert : (coord.observe p.lat p.lon).2.1 = .insert stopped)
    (hfree : positions.lookup (tripId, p.ts) = none) :
    exists w', Waits c token user w0 trips
      (positions.insert (tripId, p.ts) { lat := p.lat, lon := p.lon, stopped })
      (entries.insert tripId (coord.observe p.lat p.lon).1) w' := by
  rcases h with ⟨hreach, htasks, hidle, hlogged, huser, rfl, rfl, rfl⟩
  rcases position_runs (s := w.state.log c (.received (.message
    (.position token tripId p.lat p.lon p.ts)))) ⟨hlogged.session, hlogged.connection⟩
    hrange hts hopen hcoord hfree with ⟨s', heval, hsame⟩
  rw [hinsert] at hsame
  rcases reach_serve hidle heval with ⟨w', hreach', htasks', rfl⟩
  exact ⟨w',
    { reach := hreach.trans hreach'
      tasks := htasks'.trans htasks
      idle := by rw [htasks', hidle]
      logged :=
        { session := by rw [hsame.sessions]; exact hlogged.session
          connection := by rw [hsame.userState]; exact hlogged.connection }
      user := by rw [hsame.users]; exact huser
      trips := hsame.trips
      positions := hsame.positions
      entries := hsame.lastCoordinates }⟩

end Wanderust
