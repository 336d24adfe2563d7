import Wanderust.Session.Bystanders
import Wanderust.Session.Serving

/-!
# News of trips

A connection tells its client of a trip only after it has inserted the row of
the trip, and only once.  Row ids are never given out again, so no other
connection tells of the same trip.
-/

namespace Wanderust

open Interleaving Prog Monitor

variable {F : Type}

/-! # The monitors -/

/-- The trip that has been inserted, and that the client has not been told of yet. -/
def Op.pending : (o : Op F) -> o.Ret -> Option Int -> Option Int
  | .insertTrip _ _, .ok tripId, _ => some tripId
  | .send (.tripStarted _ _ _ _), _, _ => none
  | _, _, p => p

def tellMonitor : Monitor (@Op.Ret F) (Option Int) where
  permits o p := forall tripId lat lon ts, o = .send (.tripStarted tripId lat lon ts) ->
    p = some tripId
  moves o r p p' := p' = o.pending r p

def muteMonitor : Monitor (@Op.Ret F) Unit where
  permits o _ := forall tripId lat lon ts, o ≠ .send (.tripStarted tripId lat lon ts)
  moves _ _ _ _ := True

theorem mute_ignoresInternal : IgnoresInternal (muteMonitor (F := F)) := by
  intro o ho
  constructor
  · intro _ tripId lat lon ts h
    subst h
    cases ho
  · intro _ _ _ _
    rfl

def Whatever {alpha Phase : Type} (_ : alpha) (_ : Phase) : Prop := True

theorem tell_of_mute {alpha : Type} {p : Program F alpha} {u : Unit}
    (h : muteMonitor.Follows p Whatever u) (told : Option Int) :
    tellMonitor.Follows p Whatever told := by
  induction p generalizing told with
  | pure a => exact trivial
  | op o next ih =>
      refine ⟨fun tripId lat lon ts heq => absurd heq (h.1 tripId lat lon ts), ?_⟩
      intro r told' _
      exact ih r (h.2 r () trivial) told'

theorem mute_reply {msg : Message F}
    (h : forall tripId lat lon ts, msg ≠ .tripStarted tripId lat lon ts)
    {u : Unit} : muteMonitor.Follows (reply msg) Whatever u := by
  refine ⟨fun tripId lat lon ts heq => ?_, ?_⟩
  · cases heq
    exact h tripId lat lon ts rfl
  · intro r _ _
    cases r with
    | true => exact trivial
    | false => exact trivial

theorem mute_farewell {u : Unit} :
    muteMonitor.Follows (farewell : Program F Flow) Whatever u := by
  refine ⟨fun _ _ _ _ h => (by cases h), ?_⟩
  intro r _ _
  cases r with
  | true => exact ⟨fun _ _ _ _ h => (by cases h), fun _ _ _ => trivial⟩
  | false => exact trivial

theorem mute_openSession (username : String) :
    muteMonitor.Follows (openSession username : Program F (Except String (String × String)))
      Whatever () := by
  refine ⟨fun _ _ _ _ h => (by cases h), ?_⟩
  intro token _ _
  exact follows_silent_bindOk (silent_tryInsertToken mute_ignoresInternal username token)
    (fun _ => trivial) fun _ => trivial

theorem mute_installUser {currentUser : Option String} {username token : String} {u : Unit} :
    muteMonitor.Follows (installUser currentUser username token : Program F Flow) Whatever u := by
  apply follows_silent_bind (silent_dropPrevious mute_ignoresInternal currentUser)
  intro _
  apply follows_silent_bind (silent_act mute_ignoresInternal rfl)
  intro _
  apply follows_silent_bind (silent_act mute_ignoresInternal rfl)
  intro _
  apply follows_silent_bind (silent_act mute_ignoresInternal rfl)
  intro _
  exact mute_reply fun _ _ _ _ h => (by cases h)

theorem mute_opened {currentUser : Option String} {code : String}
    {p : Program F (Except String (String × String))} (hp : muteMonitor.Follows p Whatever ()) :
    muteMonitor.Follows
      (p.bind fun r =>
        match r with
        | .ok (username, token) => installUser currentUser username token
        | .error e => replyError code e : Program F Flow) Whatever () := by
  apply follows_bind
  apply follows_mono hp
  intro r _ _
  cases r with
  | ok names => exact mute_installUser
  | error e => exact mute_reply fun _ _ _ _ h => (by cases h)

/-- All requests but StartTrip are answered without news of a trip. -/
theorem mute_acceptsTurn [Bcrypt] {item : Incoming F}
    (hitem : forall token lat lon ts, item ≠ .message (.startTrip token lat lon ts)) :
    AcceptsTurn muteMonitor item Whatever () where
  replies := by
    intro _ msg hadmits _
    apply mute_reply
    intro tripId lat lon ts hmsg
    subst hmsg
    rcases hadmits with ⟨token, lat, lon, ts, heq⟩
    exact hitem token lat lon ts heq
  login := by
    intro username password heq
    subst heq
    apply follows_silent_bind (silent_act mute_ignoresInternal rfl)
    intro currentUser
    split
    · exact mute_reply fun _ _ _ _ h => (by cases h)
    · exact mute_opened (follows_login mute_ignoresInternal.accounts password
        (mute_openSession username) fun _ => trivial)
  register := by
    intro username password heq
    subst heq
    apply follows_silent_bind (silent_act mute_ignoresInternal rfl)
    intro currentUser
    exact mute_opened (follows_register mute_ignoresInternal.accounts password
      (mute_openSession username) fun _ => trivial)
  farewell := fun _ _ => mute_farewell
  skips := fun _ => trivial
  hangsUp := fun _ => trivial

/-! # The arm that tells -/

section

variable {told : Option Int}

theorem tell_replyError {code message : String} :
    tellMonitor.Follows (replyError code message : Program F Flow) Whatever told :=
  tell_of_mute (u := ()) (mute_reply fun _ _ _ _ h => (by cases h)) told

theorem tell_tripStarted {tripId ts : Int} {lat lon : F} :
    tellMonitor.Follows (reply (.tripStarted tripId lat lon ts)) Whatever (some tripId) := by
  refine ⟨fun _ _ _ _ h => (by cases h; rfl), ?_⟩
  intro r _ _
  cases r with
  | true => exact trivial
  | false => exact trivial

theorem tell_op {alpha : Type} {o : Op F} {next : o.Ret -> Program F alpha}
    {post : alpha -> Option Int -> Prop} (ho : o.isInternal = true)
    (hinsert : forall username ts, o ≠ .insertTrip username ts)
    (hnext : forall r, tellMonitor.Follows (next r) post told) :
    tellMonitor.Follows (.op o next) post told := by
  constructor
  · intro tripId lat lon ts heq
    subst heq
    cases ho
  · intro r told' hmoves
    have hsame : told' = told := by
      rw [hmoves]
      cases o with
      | insertTrip username ts => exact absurd rfl (hinsert username ts)
      | send msg => cases ho
      | _ => rfl
    rw [hsame]
    exact hnext r

def StartPending (r : Except String Int) (told : Option Int) : Prop :=
  forall tripId, r = .ok tripId -> told = some tripId

theorem startPending_error {e : String} : StartPending (.error e) told := fun _ h => (by cases h)

theorem tell_startTrip {user : String} {lat lon : F} {ts : Int} :
    tellMonitor.Follows (startTrip user lat lon ts) StartPending told := by
  refine ⟨fun _ _ _ _ h => (by cases h), ?_⟩
  intro r told' hmoves
  cases r with
  | error e => exact startPending_error
  | ok tripId =>
      refine tell_op rfl (fun _ _ h => (by cases h)) ?_
      intro r
      cases r with
      | error e => exact startPending_error
      | ok =>
          intro tripId' heq
          cases heq
          exact hmoves

theorem tell_initializeTrips {user : String} {lat lon : F} {ts : Int} :
    tellMonitor.Follows (initializeTrips user lat lon ts) StartPending told := by
  have hstart : tellMonitor.Follows
      ((startTrip user lat lon ts).mapError fun e => "Failed to start trip: " ++ e)
      StartPending told := by
    apply follows_mapError
    apply follows_mono tell_startTrip
    intro r told' hpending
    cases r with
    | ok tripId => exact hpending
    | error e => exact startPending_error
  apply follows_bindOk hstart
  · intro tripId told' hpending
    refine tell_op rfl (fun _ _ h => (by cases h)) fun _ => ?_
    refine tell_op rfl (fun _ _ h => (by cases h)) fun _ => ?_
    intro tripId' heq
    cases heq
    exact hpending tripId rfl
  · intro e told' _
    exact startPending_error

theorem tell_startTripArm [Geo F] {token : String} {lat lon : F} {ts : Int} :
    tellMonitor.Follows (startTripArm token lat lon ts) Whatever told := by
  refine tell_op rfl (fun _ _ h => (by cases h)) fun user => ?_
  cases user with
  | none => exact tell_replyError
  | some user =>
      refine tell_op rfl (fun _ _ h => (by cases h)) fun stateUser => ?_
      show tellMonitor.Follows ((if stateUser ≠ some user then _ else _ : Program F _).bind _)
        Whatever told
      split
      · exact tell_replyError
      · show tellMonitor.Follows (checkedSample lat lon ts _) Whatever told
        unfold checkedSample
        split
        · exact tell_replyError
        · split
          · exact tell_replyError
          · apply follows_bind
            apply follows_mono tell_initializeTrips
            intro r told' hpending
            cases r with
            | error e => exact tell_replyError
            | ok tripId =>
                rw [hpending tripId rfl]
                exact tell_tripStarted

end

theorem tell_serve [Geo F] [Bcrypt] (item : Incoming F) :
    tellMonitor.Follows (serve item) Whatever none := by
  by_cases hitem : exists token lat lon ts, item = .message (.startTrip token lat lon ts)
  · rcases hitem with ⟨token, lat, lon, ts, rfl⟩
    exact tell_startTripArm
  · apply tell_of_mute (u := ())
    apply follows_serve mute_ignoresInternal
    apply mute_acceptsTurn
    intro token lat lon ts heq
    exact hitem ⟨token, lat, lon, ts, heq⟩

theorem tell_cleanup (told : Option Int) :
    tellMonitor.Follows (cleanup : Program F Unit) Whatever told :=
  tell_of_mute (u := ())
    (follows_mono (silent_cleanup mute_ignoresInternal ()) fun _ _ _ => trivial) told

/-! # What has been told -/

def Event.told? : Event F -> Option Int
  | .sent (.tripStarted tripId _ _ _) => some tripId
  | _ => none

/-- The trips that the client of the connection has been told of. -/
def State.toldTrips (s : State F) (c : ConnId) : List Int := (s.traffic c).filterMap Event.told?

def HasTrip (s : State F) (tripId : Int) : Prop := s.trips.lookup tripId ≠ none

/-- What holds of the trips that have been told of, and of those that are pending. -/
structure News (s : State F) (pending : ConnId -> Option Int) : Prop where
  row : forall c tripId, pending c = some tripId -> HasTrip s tripId
  untold : forall c c' tripId, pending c = some tripId -> tripId ∉ s.toldTrips c'
  single : forall c c' tripId, pending c = some tripId -> pending c' = some tripId -> c = c'
  nodup : forall c, (s.toldTrips c).Nodup
  apart : forall c c' tripId, tripId ∈ s.toldTrips c -> tripId ∈ s.toldTrips c' -> c = c'
  toldRow : forall c tripId, tripId ∈ s.toldTrips c -> HasTrip s tripId

section

variable {s s' : State F} {pending : ConnId -> Option Int} {c : ConnId}

theorem News.mono {pending' : ConnId -> Option Int} (h : News s pending)
    (htold : forall c, s'.toldTrips c = s.toldTrips c)
    (hrows : forall tripId, HasTrip s tripId -> HasTrip s' tripId)
    (hpending : forall c tripId, pending' c = some tripId -> pending c = some tripId) :
    News s' pending' where
  row := fun c tripId hp => hrows _ (h.row c tripId (hpending c tripId hp))
  untold := by
    intro c c' tripId hp
    rw [htold]
    exact h.untold c c' tripId (hpending c tripId hp)
  single := fun c c' tripId hp hp' =>
    h.single c c' tripId (hpending c tripId hp) (hpending c' tripId hp')
  nodup := by
    intro c
    rw [htold]
    exact h.nodup c
  apart := by
    intro c c' tripId hc hc'
    rw [htold] at hc hc'
    exact h.apart c c' tripId hc hc'
  toldRow := by
    intro c tripId hc
    rw [htold] at hc
    exact hrows _ (h.toldRow c tripId hc)

theorem News.inserted (h : News s pending) {tripId : Int} (hnew : ¬ HasTrip s tripId)
    (htold : forall c, s'.toldTrips c = s.toldTrips c)
    (hrows : forall tripId, HasTrip s tripId -> HasTrip s' tripId) (hrow : HasTrip s' tripId) :
    News s' (Function.update pending c (some tripId)) := by
  have hpending : forall c' i, Function.update pending c (some tripId) c' = some i ->
      (c' = c ∧ i = tripId) ∨ (c' ≠ c ∧ pending c' = some i) := by
    intro c' i hp
    by_cases hc : c' = c
    · subst hc
      rw [Function.update_self] at hp
      cases hp
      exact Or.inl ⟨rfl, rfl⟩
    · rw [Function.update_of_ne hc] at hp
      exact Or.inr ⟨hc, hp⟩
  refine ⟨?_, ?_, ?_, ?_, ?_, ?_⟩
  · intro c' i hp
    rcases hpending c' i hp with ⟨_, rfl⟩ | ⟨_, hold⟩
    · exact hrow
    · exact hrows _ (h.row c' i hold)
  · intro c' c'' i hp
    rw [htold]
    rcases hpending c' i hp with ⟨_, rfl⟩ | ⟨_, hold⟩
    · exact fun hmem => hnew (h.toldRow c'' i hmem)
    · exact h.untold c' c'' i hold
  · intro c' c'' i hp hp'
    rcases hpending c' i hp with ⟨rfl, rfl⟩ | ⟨_, hold⟩
    · rcases hpending c'' i hp' with ⟨rfl, _⟩ | ⟨_, hold'⟩
      · rfl
      · exact absurd (h.row c'' i hold') hnew
    · rcases hpending c'' i hp' with ⟨_, rfl⟩ | ⟨_, hold'⟩
      · exact absurd (h.row c' i hold) hnew
      · exact h.single c' c'' i hold hold'
  · intro c'
    rw [htold]
    exact h.nodup c'
  · intro c' c'' i hc' hc''
    rw [htold] at hc' hc''
    exact h.apart c' c'' i hc' hc''
  · intro c' i hc'
    rw [htold] at hc'
    exact hrows _ (h.toldRow c' i hc')

theorem News.told (h : News s pending) {tripId : Int} (hp : pending c = some tripId)
    (htold : s'.toldTrips c = s.toldTrips c ++ [tripId])
    (hothers : forall c', c' ≠ c -> s'.toldTrips c' = s.toldTrips c')
    (hrows : forall tripId, HasTrip s tripId -> HasTrip s' tripId) :
    News s' (Function.update pending c none) := by
  have hpending : forall c' i, Function.update pending c none c' = some i ->
      c' ≠ c ∧ pending c' = some i := by
    intro c' i hp'
    by_cases hc : c' = c
    · subst hc
      rw [Function.update_self] at hp'
      cases hp'
    · rw [Function.update_of_ne hc] at hp'
      exact ⟨hc, hp'⟩
  have hmem : forall c' i, i ∈ s'.toldTrips c' ->
      i ∈ s.toldTrips c' ∨ (c' = c ∧ i = tripId) := by
    intro c' i hi
    by_cases hc : c' = c
    · subst hc
      rw [htold, List.mem_append, List.mem_singleton] at hi
      exact hi.imp_right fun hi => ⟨rfl, hi⟩
    · rw [hothers c' hc] at hi
      exact Or.inl hi
  refine ⟨?_, ?_, ?_, ?_, ?_, ?_⟩
  · intro c' i hp'
    exact hrows _ (h.row c' i (hpending c' i hp').2)
  · intro c' c'' i hp' hi
    rcases hpending c' i hp' with ⟨hc', hp'⟩
    rcases hmem c'' i hi with hi | ⟨_, rfl⟩
    · exact h.untold c' c'' i hp' hi
    · exact hc' (h.single c' c i hp' hp)
  · intro c' c'' i hp' hp''
    exact h.single c' c'' i (hpending c' i hp').2 (hpending c'' i hp'').2
  · intro c'
    by_cases hc : c' = c
    · subst hc
      rw [htold, List.nodup_append]
      refine ⟨h.nodup c', List.nodup_singleton _, ?_⟩
      intro a ha b hb
      rw [List.mem_singleton.mp hb]
      intro heq
      rw [heq] at ha
      exact h.untold c' c' tripId hp ha
    · rw [hothers c' hc]
      exact h.nodup c'
  · intro c' c'' i hi' hi''
    rcases hmem c' i hi' with hi' | ⟨rfl, rfl⟩
    · rcases hmem c'' i hi'' with hi'' | ⟨rfl, rfl⟩
      · exact h.apart c' c'' i hi' hi''
      · exact absurd hi' (h.untold c'' c' i hp)
    · rcases hmem c'' i hi'' with hi'' | ⟨rfl, _⟩
      · exact absurd hi'' (h.untold c' c'' i hp)
      · rfl
  · intro c' i hi
    rcases hmem c' i hi with hi | ⟨_, rfl⟩
    · exact hrows _ (h.toldRow c' i hi)
    · exact hrows _ (h.row c i hp)

end

/-! # Steps -/

theorem log_toldTrips (s : State F) (c : ConnId) (e : Event F) :
    (s.log c e).toldTrips c = s.toldTrips c ++ (Event.told? e).toList := by
  rw [State.toldTrips, State.log_traffic, List.filterMap_append]
  cases he : Event.told? e <;> simp [State.toldTrips, he]

theorem log_toldTrips_of_ne (s : State F) (e : Event F) {c c' : ConnId} (hne : c' ≠ c) :
    (s.log c e).toldTrips c' = s.toldTrips c' := by
  rw [State.toldTrips, State.log_traffic_of_ne _ _ hne]
  rfl

section

variable [Geo F] [Bcrypt] {s s' : State F} {pending : ConnId -> Option Int} {c : ConnId}
variable {ch : Choice} {o : Op F} {w w' : World F}

theorem executes_hasTrip (h : Executes c ch o s s') {tripId : Int} (htrip : HasTrip s tripId) :
    HasTrip s' tripId := by
  unfold HasTrip at *
  cases o with
  | insertTrip username ts =>
      rcases h with ⟨r, hdone⟩ | hagain
      · rcases exec_insertTrip hdone with ⟨rfl, _⟩ | ⟨_, _, rfl⟩
        · exact htrip
        · rw [Table.lookup_insert_eq]
          split
          · exact Option.some_ne_none _
          · exact htrip
      · exact absurd hagain (exec_not_again (fun h => by cases h))
  | updateTripEnded id username ts =>
      rcases h with ⟨r, hdone⟩ | hagain
      · rcases exec_updateTripEnded hdone with ⟨rfl, _⟩ | ⟨rfl, _⟩ | ⟨_, _, row, _, _, _, rfl⟩
        · exact htrip
        · exact htrip
        · rw [Table.lookup_insert_eq]
          split
          · exact Option.some_ne_none _
          · exact htrip
      · exact absurd hagain (exec_not_again (fun h => by cases h))
  | _ =>
      have hsame : s'.trips = s.trips := by
        simp only [Executes, exec, answerQuery] at h
        grind [State.log]
      rw [hsame]
      exact htrip

theorem exec_toldTrips {r : o.Ret} (h : exec c ch o s = .done r s')
    (ho : forall tripId lat lon ts, o ≠ .send (.tripStarted tripId lat lon ts)) (c' : ConnId) :
    s'.toldTrips c' = s.toldTrips c' := by
  by_cases hc : c' = c
  · subst hc
    cases o with
    | send msg =>
        simp only [exec] at h
        split at h
        · cases h
          rw [log_toldTrips]
          exact List.append_nil _
        · cases h
          rw [log_toldTrips]
          cases msg with
          | tripStarted tripId lat lon ts => exact absurd rfl (ho tripId lat lon ts)
          | _ => exact List.append_nil _
    | sendClose =>
        simp only [exec] at h
        split at h
        · cases h
          rfl
        · cases h
          rw [log_toldTrips]
          exact List.append_nil _
    | _ =>
        have hsame : s'.traffic = s.traffic := by
          simp only [exec, answerQuery] at h
          grind
        rw [State.toldTrips, hsame]
        rfl
  · rw [State.toldTrips, exec_traffic_of_ne h hc]
    rfl

def pendingAfter (pending : ConnId -> Option Int) (c : ConnId) (o : Op F) (r : o.Ret) :
    ConnId -> Option Int :=
  Function.update pending c (o.pending r (pending c))

theorem News.step {r : o.Ret} (h : News s pending) (hexec : exec c ch o s = .done r s')
    (hpermits : tellMonitor.permits o (pending c)) : News s' (pendingAfter pending c o r) := by
  have hrows := fun tripId (htrip : HasTrip s tripId) =>
    executes_hasTrip (Or.inl ⟨r, hexec⟩) htrip
  by_cases htells : exists tripId lat lon ts, o = .send (.tripStarted tripId lat lon ts)
  · rcases htells with ⟨tripId, lat, lon, ts, rfl⟩
    have hp := hpermits tripId lat lon ts rfl
    simp only [exec] at hexec
    split at hexec
    · cases hexec
      apply h.mono
      · intro c'
        by_cases hc : c' = c
        · subst hc
          rw [log_toldTrips]
          exact List.append_nil _
        · exact log_toldTrips_of_ne s _ hc
      · exact hrows
      · intro c' i hp'
        by_cases hc : c' = c
        · subst hc
          rw [pendingAfter, Function.update_self] at hp'
          cases hp'
        · rwa [pendingAfter, Function.update_of_ne hc] at hp'
    · cases hexec
      exact h.told hp (log_toldTrips s c _) (fun c' hc => log_toldTrips_of_ne s _ hc) hrows
  · have htold := exec_toldTrips hexec fun tripId lat lon ts heq =>
      htells ⟨tripId, lat, lon, ts, heq⟩
    by_cases hinserts : exists username ts, o = .insertTrip username ts
    · rcases hinserts with ⟨username, ts, rfl⟩
      rcases exec_insertTrip hexec with ⟨rfl, e, rfl⟩ | ⟨hnew, rfl, rfl⟩
      · rw [pendingAfter, show Op.pending (.insertTrip username ts : Op F) (.error e) (pending c) =
          pending c from rfl, Function.update_eq_self]
        exact h
      · apply h.inserted (fun hrow => hrow hnew) htold hrows
        unfold HasTrip
        rw [Table.lookup_insert_eq, if_pos rfl]
        exact Option.some_ne_none _
    · have hsame : o.pending r (pending c) = pending c := by
        cases o with
        | insertTrip username ts => exact absurd ⟨username, ts, rfl⟩ hinserts
        | send msg =>
            cases msg with
            | tripStarted tripId lat lon ts => exact absurd ⟨tripId, lat, lon, ts, rfl⟩ htells
            | _ => rfl
        | _ => rfl
      rw [pendingAfter, hsame, Function.update_eq_self]
      exact h.mono htold hrows fun _ _ hp => hp

/-! # Runs -/

def TaskTells (p : Option Int) : Task F -> Prop
  | .handling _ _ q => tellMonitor.Follows q Whatever p
  | .cleaning _ q => tellMonitor.Follows q Whatever p
  | _ => True

omit [Geo F] [Bcrypt] in
theorem taskTells_afterHandling {start : State F} {item : Incoming F} {p : Program F Flow}
    {told : Option Int} (h : tellMonitor.Follows p Whatever told) :
    TaskTells told (afterHandling s start item p) := by
  cases p with
  | op o next => exact h
  | pure flow =>
      cases flow with
      | leave => exact tell_cleanup told
      | _ => trivial

omit [Geo F] [Bcrypt] in
theorem taskTells_afterCleaning {start : State F} {p : Program F Unit}
    {told : Option Int} (h : tellMonitor.Follows p Whatever told) :
    TaskTells told (afterCleaning start p) := by
  cases p with
  | op o next => exact h
  | pure _ => trivial

structure NewsInv (w : World F) (pending : ConnId -> Option Int) : Prop where
  news : News w.state pending
  tells : forall c, TaskTells (pending c) (w.tasks c)

theorem News.program {alpha : Type} {p p' : Program F alpha} (h : News s pending)
    (hfollows : tellMonitor.Follows p Whatever (pending c))
    (hstep : p.step exec c ch s = some (p', s')) :
    exists told, News s' (Function.update pending c told) ∧
      tellMonitor.Follows p' Whatever told := by
  rcases Prog.step_eq_some.mp hstep with ⟨o, next, rfl, ⟨hexec, rfl⟩ | ⟨r, hexec, rfl⟩⟩
  · refine ⟨pending c, ?_, hfollows⟩
    rw [Function.update_eq_self]
    apply h.mono
    · intro c'
      rw [State.toldTrips, exec_traffic_again hexec]
      rfl
    · exact fun tripId => executes_hasTrip (Or.inr hexec)
    · exact fun _ _ hp => hp
  · exact ⟨_, h.step hexec hfollows.1, hfollows.2 r _ rfl⟩

omit [Geo F] [Bcrypt] in
theorem NewsInv.setTask (h : NewsInv w pending) {told : Option Int} {t : Task F}
    (hnews : News s (Function.update pending c told)) (ht : TaskTells told t) :
    NewsInv (w.setTask c s t) (Function.update pending c told) where
  news := hnews
  tells := by
    intro c'
    by_cases hc : c' = c
    · subst hc
      rw [setTask_tasks_self, Function.update_self]
      exact ht
    · rw [setTask_tasks_of_ne _ _ _ hc, Function.update_of_ne hc]
      exact h.tells c'

theorem newsInv_next {l : Label F} (h : NewsInv w pending) (hnext : w.next l = some w') :
    exists pending', NewsInv w' pending' := by
  cases l with
  | accept c =>
      rcases accept_of_next hnext with ⟨_, rfl⟩
      refine ⟨Function.update pending c (pending c), h.setTask ?_ trivial⟩
      rw [Function.update_eq_self]
      exact h.news
  | receive c item =>
      rcases receive_of_next hnext with ⟨_, rfl⟩
      refine ⟨Function.update pending c none,
        h.setTask ?_ (taskTells_afterHandling (tell_serve item))⟩
      apply h.news.mono
      · intro c'
        by_cases hc : c' = c
        · subst hc
          rw [log_toldTrips]
          exact List.append_nil _
        · exact log_toldTrips_of_ne _ _ hc
      · exact fun _ hrow => hrow
      · intro c' i hp
        by_cases hc : c' = c
        · subst hc
          rw [Function.update_self] at hp
          cases hp
        · rwa [Function.update_of_ne hc] at hp
  | step c ch =>
      have htells := h.tells c
      rcases step_of_next hnext with ⟨start, item, p, p', s, htask, hstep, rfl⟩ |
        ⟨start, p, p', s, htask, hstep, rfl⟩
      · rw [htask] at htells
        rcases h.news.program htells hstep with ⟨told, hnews, hfollows⟩
        exact ⟨_, h.setTask hnews (taskTells_afterHandling hfollows)⟩
      · rw [htask] at htells
        rcases h.news.program htells hstep with ⟨told, hnews, hfollows⟩
        exact ⟨_, h.setTask hnews (taskTells_afterCleaning hfollows)⟩
  | restart =>
      cases hnext
      refine ⟨pending, h.news.mono (fun _ => rfl) (fun _ hrow => hrow) fun _ _ hp => hp, ?_⟩
      intro c
      cases hc : w.tasks c with
      | _ => simp only [hc, Task.killed, TaskTells]

theorem newsInv_reachable {users : Users} {trips : Trips} {positions : Positions F}
    {cond : World F -> Label F -> Prop} {w : World F}
    (h : Reachable cond (World.boot users trips positions) w) :
    exists pending, NewsInv w pending := by
  refine h.invariant (P := fun w => exists pending, NewsInv w pending)
    ⟨fun _ => none, ?_, fun _ => trivial⟩ ?_
  · constructor
    · intro c tripId hp
      cases hp
    · intro c c' tripId hp
      cases hp
    · intro c c' tripId hp
      cases hp
    · intro c
      exact List.nodup_nil
    · intro c c' tripId hmem
      cases hmem
    · intro c tripId hmem
      cases hmem
  · intro w1 w2 l hnews _ hnext
    rcases hnews with ⟨pending, hnews⟩
    exact newsInv_next hnews hnext

end

end Wanderust
