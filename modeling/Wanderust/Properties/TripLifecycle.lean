import Wanderust.Properties.OpenTrips

/-!
# The life of a trip

A trip is ended once and for all, it gets positions only while it is open and
from its owner, and a trip that was lost from memory by a restart gets none.
-/

namespace Wanderust

open Interleaving

variable {F : Type} {w w' : World F} {c : ConnId} {s s' : State F}

/-! # Ended trips -/

/-- The rows of ended trips are not touched. -/
def EndedStays (s s' : State F) : Prop :=
  forall id row, s.trips.lookup id = some row -> row.endedAt ≠ none ->
    s'.trips.lookup id = some row

theorem EndedStays.of_trips_eq (h : s'.trips = s.trips) : EndedStays s s' := by
  intro id row hrow _
  rw [h]
  exact hrow

theorem EndedStays.trans {s'' : State F} (h : EndedStays s s') (h' : EndedStays s' s'') :
    EndedStays s s'' := by
  intro id row hrow hended
  exact h' id row (h id row hrow hended) hended

section

variable [Geo F] [Bcrypt]

theorem Executes.endedStays {ch : Choice} {o : Op F} (h : Executes c ch o s s') :
    EndedStays s s' := by
  cases o with
  | insertTrip username ts =>
      rcases h with ⟨r, hexec⟩ | hagain
      · rcases exec_insertTrip hexec with ⟨rfl, _⟩ | ⟨hid, _, rfl⟩
        · exact EndedStays.of_trips_eq rfl
        · intro id row hrow _
          exact (insert_lookup_iff hid).mpr (Or.inr hrow)
      · exact absurd hagain (exec_not_again (by simp))
  | updateTripEnded tripId username ts =>
      rcases h with ⟨r, hexec⟩ | hagain
      · rcases exec_updateTripEnded hexec with
          ⟨rfl, _⟩ | ⟨rfl, _⟩ | ⟨_, _, row', hrow', _, hopen, rfl⟩
        · exact EndedStays.of_trips_eq rfl
        · exact EndedStays.of_trips_eq rfl
        · intro id row hrow hended
          have hne : id ≠ tripId := by
            intro heq
            rw [heq, hrow'] at hrow
            cases hrow
            exact hended hopen
          simpa [hne] using hrow
      · exact absurd hagain (exec_not_again (by simp))
  | _ =>
      apply EndedStays.of_trips_eq
      simp only [Executes, exec, answerQuery] at h
      grind [State.log]

theorem next_endedStays {l : Label F} (hnext : w.next l = some w') :
    EndedStays w.state w'.state := by
  cases l with
  | step c ch =>
      rcases executes_of_next hnext with ⟨o, _, hexec⟩
      exact hexec.endedStays
  | _ => exact EndedStays.of_trips_eq (next_database hnext (by simp)).2.1

theorem reachable_endedStays {cond : World F -> Label F -> Prop}
    (h : Reachable cond w w') : EndedStays w.state w'.state := by
  induction h with
  | refl => exact EndedStays.of_trips_eq rfl
  | tail l _ _ hnext ih => exact ih.trans (next_endedStays hnext)

/-- The next step of the connection is an `end_trip` for the trip that succeeds. -/
def EndsTrip (w : World F) (c : ConnId) (ch : Choice) (id : Int) : Prop :=
  exists username ts n s', (w.tasks c).nextOp = some (.updateTripEnded id username ts) ∧
    exec c ch (.updateTripEnded id username ts) w.state = .done (.ok n) s' ∧ n ≠ 0

theorem endsTrip_once {cond : World F -> Label F -> Prop} {w'' : World F} {c' : ConnId}
    {ch ch' : Choice} {id : Int} (hends : EndsTrip w c ch id)
    (hnext : w.next (.step c ch) = some w') (hlater : Reachable cond w' w'') :
    ¬ EndsTrip w'' c' ch' id := by
  rcases hends with ⟨username, ts, n, s1, hop, hexec, hn⟩
  have hrow : exists row, w'.state.trips.lookup id = some row ∧ row.endedAt ≠ none := by
    rcases executes_of_next hnext with ⟨o, ho, hexecutes⟩
    rw [hop] at ho
    cases ho
    have hs1 : w'.state = s1 := by
      rcases hexecutes with ⟨r, hdone⟩ | hagain
      · rw [hexec] at hdone
        cases hdone
        rfl
      · rw [hexec] at hagain
        cases hagain
    rw [hs1]
    rcases exec_updateTripEnded hexec with
      ⟨_, _, e, herror⟩ | ⟨_, hcount, _⟩ | ⟨_, _, row, hrow, _, _, rfl⟩
    · cases herror
    · exact absurd (Except.ok.inj hcount) hn
    · exact ⟨{ row with endedAt := some ts }, by simp, Option.some_ne_none ts⟩
  rcases hrow with ⟨row, hrow, hended⟩
  have hstays := reachable_endedStays hlater id row hrow hended
  intro h
  rcases h with ⟨username', ts', n', s2, _, hexec', hn'⟩
  rcases exec_updateTripEnded hexec' with
    ⟨_, _, e, herror⟩ | ⟨_, hcount, _⟩ | ⟨_, _, row', hrow', _, hopen, _⟩
  · cases herror
  · exact hn' (Except.ok.inj hcount)
  · rw [hstays] at hrow'
    cases hrow'
    exact hended hopen

/-! # Positions -/

def AddsOwnRows (w w' : World F) (l : Label F) : Prop :=
  forall id ts, w'.state.positions.lookup (id, ts) ≠ w.state.positions.lookup (id, ts) ->
    exists c ch start item p username, l = .step c ch ∧ w.tasks c = .handling start item p ∧
      start.userState c = some username ∧ TripOpen w.state id username

theorem addsOwnRows_next {A : Regime} {l : Label F} (h : WorldInv A w)
    (hpermits : A.Permits w l) (hnext : w.next l = some w') :
    AddsOwnRows w w' l ∧ forall id ts, A.lost id ->
      w'.state.positions.lookup (id, ts) = w.state.positions.lookup (id, ts) := by
  have hsame : w'.state.positions = w.state.positions ->
      AddsOwnRows w w' l ∧ forall id ts, A.lost id ->
        w'.state.positions.lookup (id, ts) = w.state.positions.lookup (id, ts) := by
    intro heq
    unfold AddsOwnRows
    rw [heq]
    exact ⟨fun _ _ hchanged => absurd rfl hchanged, fun _ _ _ => rfl⟩
  cases l with
  | step c ch =>
      rcases (step_cases h hpermits hnext).2 with ⟨e, hkeeps, he⟩
      constructor
      · intro id ts hchanged
        rcases hkeeps.own.positions id ts hchanged with ⟨hrows, u, huser, hopen, _⟩
        rcases he with ⟨start, item, p, htask, rfl⟩ | ⟨start, p, _, rfl⟩
        · exact ⟨c, ch, start, item, p, u, rfl, htask, huser, hopen⟩
        · exact absurd hrows not_false
      · intro id ts hlost
        by_contra hchanged
        rcases hkeeps.own.positions id ts hchanged with ⟨_, _, _, _, hnot⟩
        exact hnot hlost
  | _ => exact hsame (next_database hnext (by simp)).2.2

/-! # Trips in memory -/

theorem tracked_open {A : Regime} (h : WorldInv A w) (hquiet : w.Quiescent) {id : Int}
    (hid : w.state.lastCoordinates.lookup id ≠ none) :
    exists username, TripOpen w.state id username := by
  rcases h.inv.tracked_known hid with ⟨u, htrip⟩
  refine ⟨u, ?_⟩
  have hopen : forall {gap}, gap = [] -> TrackedOpen w.state gap u -> TripOpen w.state id u := by
    intro gap hgap htracked
    rcases htracked id htrip hid with hopen | hmem
    · exact hopen
    · rw [hgap] at hmem
      cases hmem
  by_cases hsession : HasSession w.state u
  · rcases hsession with ⟨t, ht⟩
    rcases h.inv.session_drawn ht with ⟨c, hdrawn⟩
    have howns : Owns w.state c u := ⟨t, ht, hdrawn⟩
    have htask := h.tasks c
    rcases hquiet c with hc | hc | hc
    · rw [hc] at htask
      rcases (Local.owns_iff htask u).mp howns with ⟨t', ht'⟩
      cases ht'
    · rw [hc] at htask
      rcases htask with ⟨v, hidle, hlocal⟩
      exact hopen hidle.settled.gap (hlocal.tracked u howns)
    · rw [hc] at htask
      rcases htask with ⟨v, hlocal, hgap, _⟩
      exact hopen hgap (hlocal.tracked u howns)
  · exact hopen rfl (h.inv.free_tracked hsession)

/-! # Trips lost by a restart -/

/-- The regime after a restart, for the trips that existed at that moment. -/
def Regime.losing (lost : Int -> Prop) : Regime :=
  { Regime.any with
    lost
    tripsOk_sql := False.elim }

omit [Geo F] [Bcrypt] in
theorem permits_losing {l : Label F} {lost : Int -> Prop} (h : DistinctTokens w l) :
    (Regime.losing lost).Permits w l := by
  refine permits_of_step ?_ (fun _ => not_false)
  intro c ch hl o ho
  exact ⟨h c ch hl o ho, False.elim, False.elim, False.elim, False.elim⟩

omit [Geo F] [Bcrypt] in
theorem Transcript.answers {A : Regime} {log : List (Event F)} (h : Transcript A log)
    {before later : List (Event F)} {item : Incoming F} {msg : Message F}
    (hlog : log = before ++ .received item :: .sent msg :: later) : Answers A item msg := by
  induction h generalizing later with
  | nil => simp at hlog
  | @silent log item' _ _ ih =>
      rcases List.eq_nil_or_concat later with rfl | ⟨rest, x, rfl⟩
      · have hlast := congrArg List.getLast? hlog
        simp at hlast
      · have hshort : log ++ [.received item'] =
            (before ++ .received item :: .sent msg :: rest) ++ [x] := by
          simpa using hlog
        exact ih (List.append_inj_left' hshort rfl)
  | @answered log item' msg' _ hanswers ih =>
      rcases List.eq_nil_or_concat later with rfl | ⟨rest, x, rfl⟩
      · have hpair := List.append_inj_right' hlog rfl
        simp only [List.cons.injEq, Event.received.injEq, Event.sent.injEq, and_true] at hpair
        rw [← hpair.1, ← hpair.2]
        exact hanswers
      · have hshort : (log ++ [.received item']) ++ [.sent msg'] =
            (before ++ .received item :: .sent msg :: rest) ++ [x] := by
          simpa using hlog
        have hshort' := List.append_inj_left' hshort rfl
        rcases List.eq_nil_or_concat rest with rfl | ⟨rest', y, rfl⟩
        · have hlast := congrArg List.getLast? hshort'
          simp at hlast
        · have hshorter : log ++ [.received item'] =
              (before ++ .received item :: .sent msg :: rest') ++ [y] := by
            simpa using hshort'
          exact ih (List.append_inj_left' hshorter rfl)

structure StaysLost (w : World F) (id : Int) : Prop where
  rows : forall l w', DistinctTokens w l -> w.next l = some w' -> forall ts,
    w'.state.positions.lookup (id, ts) = w.state.positions.lookup (id, ts)
  refused : forall c, w.tasks c = .idle -> forall before later token lat lon ts msg,
    w.state.traffic c =
      before ++ .received (.message (.position token id lat lon ts)) :: .sent msg :: later ->
    exists code text, msg = .error code text

theorem staysLost_of_restart {A : Regime} {w1 : World F} (h : WorldInv A w)
    (hrestart : w.next .restart = some w1) (hreach : Reachable DistinctTokens w1 w') {id : Int}
    (hid : w.state.trips.lookup id ≠ none) : StaysLost w' id := by
  have hworld : WorldInv (Regime.losing fun id => w.state.trips.lookup id ≠ none) w' := by
    cases hrestart
    exact worldInv_reachable (worldInv_restart h not_false (fun _ hlost => hlost))
      (hreach.mono fun _ _ => permits_losing)
  constructor
  · intro l w'' htokens hnext ts
    exact (addsOwnRows_next hworld (permits_losing htokens) hnext).2 id ts hid
  · intro c hidle before later token lat lon ts msg hlog
    rcases idle_settled hworld hidle with ⟨v, hv, hlocal⟩
    rw [hlocal.log] at hlog
    exact (hv.transcript.answers hlog).lost token id lat lon ts rfl hid

theorem trip_lifecycle (users : Users) (trips : Trips) (positions : Positions F) (w : World F)
    (hreach : Reachable DistinctTokens (World.boot users trips positions) w) :
    (forall l w', w.next l = some w' -> EndedStays w.state w'.state) ∧
    (forall c ch id w', EndsTrip w c ch id -> w.next (.step c ch) = some w' ->
      forall w'' c' ch', Reachable DistinctTokens w' w'' -> ¬ EndsTrip w'' c' ch' id) ∧
    (forall l w', DistinctTokens w l -> w.next l = some w' -> AddsOwnRows w w' l) ∧
    (w.Quiescent -> forall id, w.state.lastCoordinates.lookup id ≠ none ->
      exists username, TripOpen w.state id username) ∧
    (forall w1, w.next .restart = some w1 -> forall w2, Reachable DistinctTokens w1 w2 ->
      forall id, w.state.trips.lookup id ≠ none -> StaysLost w2 id) := by
  have hworld : WorldInv Regime.any w :=
    worldInv_reachable (worldInv_boot False.elim (fun _ => False.elim))
      (hreach.mono fun _ _ => permits_any)
  refine ⟨?_, ?_, ?_, ?_, ?_⟩
  · intro l w' hnext
    exact next_endedStays hnext
  · intro c ch id w' hends hnext w'' c' ch' hlater
    exact endsTrip_once hends hnext hlater
  · intro l w' htokens hnext
    exact (addsOwnRows_next hworld (permits_any htokens) hnext).1
  · intro hquiet id hid
    exact tracked_open hworld hquiet hid
  · intro w1 hrestart w2 hlater id hid
    exact staysLost_of_restart hworld hrestart hlater hid

end

section

attribute [local instance] plainBcrypt

/-- The trip that was open when the server went down. -/
theorem trip_lifecycle_restarted :
    exists w1, trippingWorld.next .restart = some w1 ∧ StaysLost w1 1 := by
  have htrip : trippingWorld.state.trips.lookup 1 ≠ none := by
    have hrow : trippingWorld.state.trips.lookup 1 = some ⟨"u", 1, none⟩ := by rfl
    rw [hrow]
    exact Option.some_ne_none _
  refine ⟨_, rfl, ?_⟩
  exact (trip_lifecycle ∅ ∅ ∅ trippingWorld
    (trippingWorld_reachable.mono fun _ _ h => h.failures.tokens)).2.2.2.2 _ rfl _
      Reach.refl 1 htrip

end

end Wanderust
