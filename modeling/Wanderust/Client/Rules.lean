import Wanderust.Client.Ledger

/-!
# Rules for the operations of the client

An operation that leaves the history alone keeps the books, and each event that
is added to the history keeps them under a condition on the event.
-/

namespace Wanderust.Cli

open Interleaving Prog Logs

variable {F : Type}

section

variable {s s' : State F} {e : Event F} {c : TaskId} {i : Int} {msg : Message F}

/-! # Operations without a trace -/

structure SameBooks (s s' : State F) : Prop where
  history : s'.history = s.history
  trip : s'.trip = s.trip
  token : s'.token = s.token

theorem SameBooks.holds (h : SameBooks s s') (i : Int) : s'.holds i = s.holds i := by
  rw [State.holds, State.holds, h.trip]

/-- The history decides everything but the token and the trip. -/
theorem inv_of_history (hinv : ClientInv s) (hhistory : s'.history = s.history)
    (htoken : forall t, s'.token = some t -> .received (.authOk t) ∈ s.history)
    (htrip : s'.trip = s.trip) : ClientInv s' where
  backed := by
    rw [hhistory]
    exact hinv.backed
  token := by
    rw [hhistory]
    exact htoken
  trip := by
    rw [hhistory, htrip]
    exact hinv.trip
  credit := by
    intro i
    rw [State.ends, State.stored, State.holds, hhistory, htrip]
    exact hinv.credit i
  stored := by
    intro i
    rw [State.starts, State.stored, hhistory]
    exact hinv.stored i
  late := by
    intro i
    rw [State.starts, State.late, hhistory]
    exact hinv.late i
  lateRequests := by
    intro i
    rw [State.starts, State.lateRequests, hhistory]
    exact hinv.lateRequests i

theorem rely_of_history (hhistory : s'.history = s.history) (htrip : s'.trip = s.trip)
    (c : TaskId) : ClientRely c s s' where
  kept := by
    rw [hhistory]
    exact fun _ he => he
  starts := by
    intro i
    rw [State.starts, State.starts, hhistory]
  stored := by
    intro i
    rw [State.stored, State.stored, hhistory]
  main := by
    intro _ i
    rw [State.ends, State.ends, State.stored, State.stored, State.holds, State.holds, hhistory,
      htrip]
    exact ⟨rfl, le_refl _⟩
  autopos := by
    intro _ i _
    rw [State.late, State.late, hhistory]
  receiver := by
    intro _ i
    rw [State.starts, State.starts, State.stored, State.stored, hhistory]
    exact ⟨rfl, rfl⟩

/-! # Operations that add an event -/

/-- What an event must meet for the invariant, with the trip that holds after it. -/
structure Fits (e : Event F) (s s' : State F) : Prop where
  grown : Grown s s' e
  token : s'.token = s.token
  backs : Backs s.history e
  trip : forall i, s'.trip = some i ->
    exists lat lon ts, .received (.tripStarted i lat lon ts) ∈ s'.history
  credit : forall i, s'.ends i + s'.holds i ≤ s'.stored i
  stored : forall i, s'.stored i ≤ s'.starts i
  late : forall i, e.isSample i = true -> s.starts i ≤ 1 -> s.late i = 0
  lateRequests : forall i, e.isMainRequest i = true -> s.starts i ≤ 1 -> s.ends i = 0

theorem Fits.inv (h : Fits e s s') (hinv : ClientInv s) : ClientInv s' where
  backed := by
    rw [h.grown]
    exact hinv.backed.snoc h.backs
  token := by
    intro t ht
    rw [h.token] at ht
    exact h.grown.kept _ (hinv.token t ht)
  trip := h.trip
  credit := h.credit
  stored := h.stored
  late := by
    intro i hi
    have hstarts : s.starts i ≤ 1 := by
      rw [h.grown.starts] at hi
      omega
    have hlate := hinv.late i hstarts
    rw [h.grown.late]
    split
    case isTrue => exact Nat.zero_le 1
    case isFalse =>
      split
      case isTrue hsample =>
        rw [h.late i hsample hstarts]
      case isFalse => exact hlate
  lateRequests := by
    intro i hi
    have hstarts : s.starts i ≤ 1 := by
      rw [h.grown.starts] at hi
      omega
    rw [h.grown.lateRequests]
    split
    case isTrue => rfl
    case isFalse hended =>
      split
      case isTrue hrequest => exact absurd (h.lateRequests i hrequest hstarts) hended
      case isFalse => exact hinv.lateRequests i hstarts

theorem Grown.late_eq (h : Grown s s' e) (hopen : e.isSample i = true -> s.ends i = 0) :
    s'.late i = s.late i := by
  rw [h.late]
  split
  case isTrue hends => exact (late_of_open hends).symm
  case isFalse hends =>
    split
    case isTrue hsample => exact absurd (hopen hsample) hends
    case isFalse => rfl

theorem Grown.rely (h : Grown s s' e)
    (hmain : c = .main -> forall i,
      e.isEnd i = false ∧ s.stored i + s'.holds i ≤ s'.stored i + s.holds i)
    (hautopos : c = .autopos -> forall i, e.isSample i = true -> s.starts i ≤ 1 -> s.ends i = 0)
    (hreceiver : c = .receiver -> forall i, e.isStart i = false ∧ e.isStored i = false) :
    ClientRely c s s' where
  kept := h.kept
  starts := by
    intro i
    rw [h.starts]
    exact Nat.le_add_right _ _
  stored := by
    intro i
    rw [h.stored]
    exact Nat.le_add_right _ _
  main := by
    intro hc i
    refine ⟨?_, (hmain hc i).2⟩
    rw [h.ends, (hmain hc i).1]
    rfl
  autopos := by
    intro hc i hi
    apply h.late_eq
    intro hsample
    apply hautopos hc i hsample
    rw [h.starts] at hi
    omega
  receiver := by
    intro hc i
    rw [h.starts, h.stored, (hreceiver hc i).1, (hreceiver hc i).2]
    exact ⟨rfl, rfl⟩

theorem grown_log (s : State F) (e : Event F) : Grown s (s.log e) e := rfl

theorem holds_log (s : State F) (e : Event F) (i : Int) : (s.log e).holds i = s.holds i := rfl

theorem fits_log (hinv : ClientInv s) (hbacks : Backs s.history e)
    (hstored : forall i, e.isStored i = false)
    (hcredit : forall i, e.isEnd i = true -> s.ends i + 1 + s.holds i ≤ s.stored i)
    (hlate : forall i, e.isSample i = true -> s.starts i ≤ 1 -> s.late i = 0)
    (hrequests : forall i, e.isMainRequest i = true -> s.starts i ≤ 1 -> s.ends i = 0) :
    Fits e s (s.log e) where
  grown := grown_log s e
  token := rfl
  backs := hbacks
  trip := by
    intro i hi
    rcases hinv.trip i hi with ⟨lat, lon, ts, hmem⟩
    exact ⟨lat, lon, ts, (grown_log s e).kept _ hmem⟩
  credit := by
    intro i
    have hold := hinv.credit i
    rw [(grown_log s e).ends, (grown_log s e).stored, hstored i, holds_log,
      if_neg Bool.false_ne_true, add_zero]
    split
    case isTrue hend =>
      have hspend := hcredit i hend
      omega
    case isFalse => exact hold
  stored := by
    intro i
    have hold := hinv.stored i
    rw [(grown_log s e).starts, (grown_log s e).stored, hstored i, if_neg Bool.false_ne_true,
      add_zero]
    exact le_trans hold (Nat.le_add_right _ _)
  late := hlate
  lateRequests := hrequests

/-- An event that the books do not count. -/
structure Uncounted (e : Event F) : Prop where
  isStart : forall i, e.isStart i = false
  isStored : forall i, e.isStored i = false
  isEnd : forall i, e.isEnd i = false
  isSample : forall i, e.isSample i = false
  isMainRequest : forall i, e.isMainRequest i = false

theorem Uncounted.fits (h : Uncounted e) (hinv : ClientInv s) (hbacks : Backs s.history e) :
    Fits e s (s.log e) := by
  refine fits_log hinv hbacks h.isStored ?_ ?_ ?_
  · intro i hi
    rw [h.isEnd] at hi
    cases hi
  · intro i hi
    rw [h.isSample] at hi
    cases hi
  · intro i hi
    rw [h.isMainRequest] at hi
    cases hi

theorem Uncounted.rely (h : Uncounted e) (c : TaskId) : ClientRely c s (s.log e) := by
  apply (grown_log s e).rely
  · intro _ i
    refine ⟨h.isEnd i, ?_⟩
    rw [(grown_log s e).stored, holds_log, h.isStored i, if_neg Bool.false_ne_true]
    exact le_refl _
  · intro _ i hi
    rw [h.isSample i] at hi
    cases hi
  · intro _ i
    exact ⟨h.isStart i, h.isStored i⟩

theorem uncounted_sendFailed (task : TaskId) (msg : Message F) :
    Uncounted (.sendFailed task msg) :=
  ⟨fun _ => rfl, fun _ => rfl, fun _ => rfl, fun _ => rfl, fun _ => rfl⟩

theorem uncounted_closeSent : Uncounted (.closeSent : Event F) :=
  ⟨fun _ => rfl, fun _ => rfl, fun _ => rfl, fun _ => rfl, fun _ => rfl⟩

/-! # Sending -/

theorem isEnd_iff {task : TaskId} {msg : Message F} :
    (Event.sent task msg).isEnd i = true <-> exists t ts, msg = .endTrip t i ts := by
  cases msg <;> simp [Event.isEnd]

theorem isSample_iff {task : TaskId} {msg : Message F} :
    (Event.sent task msg).isSample i = true <->
      exists t lat lon ts, msg = .position t i lat lon ts := by
  cases msg <;> simp [Event.isSample]

theorem isMainRequest_iff {task : TaskId} {msg : Message F} :
    (Event.sent task msg).isMainRequest i = true <-> task = .main ∧ msg.tripId? = some i := by
  cases task <;> simp [Event.isMainRequest]

theorem Ready.open_of_once (h : Ready msg s) (hinv : ClientInv s) (hi : msg.tripId? = some i)
    (honce : s.starts i ≤ 1) : s.ends i = 0 := by
  have hopen := h.open_ i hi
  have hstored := hinv.stored i
  omega

theorem Sendable.open_of_sample (h : Sendable msg s) (hinv : ClientInv s)
    (hsample : (Event.sent .main msg).isSample i = true) (honce : s.starts i ≤ 1) :
    s.ends i = 0 := by
  rcases isSample_iff.mp hsample with ⟨t, lat, lon, ts, rfl⟩
  exact h.1.open_of_once hinv rfl honce

theorem Sendable.fits (h : Sendable msg s) (hinv : ClientInv s) :
    Fits (.sent .main msg) s (s.log (.sent .main msg)) := by
  refine fits_log hinv ?_ (fun _ => rfl) ?_ ?_ ?_
  · exact h.1.backed
  · intro i hend
    rcases isEnd_iff.mp hend with ⟨t, ts, rfl⟩
    exact h.2 t i ts rfl
  · intro i hsample honce
    exact late_of_open (h.open_of_sample hinv hsample honce)
  · intro i hrequest honce
    exact h.1.open_of_once hinv (isMainRequest_iff.mp hrequest).2 honce

theorem InFlight.backed {token : String} (h : InFlight token i s) (lat lon : F) (ts : Int) :
    Backed s.history (.position token i lat lon ts) where
  token := by
    intro t ht
    cases ht
    exact Or.inl h.token
  trip := by
    intro j hj
    cases hj
    exact h.trip

theorem InFlight.fits {token : String} (h : InFlight token i s) (hinv : ClientInv s)
    (lat lon : F) (ts : Int) :
    Fits (.sent .autopos (.position token i lat lon ts)) s
      (s.log (.sent .autopos (.position token i lat lon ts))) := by
  refine fits_log hinv ?_ (fun _ => rfl) ?_ ?_ ?_
  · exact h.backed lat lon ts
  · intro j hend
    cases hend
  · intro j hsample honce
    rcases isSample_iff.mp hsample with ⟨t, lat', lon', ts', heq⟩
    cases heq
    exact h.first honce
  · intro j hrequest
    cases (isMainRequest_iff.mp hrequest).1

end

/-! # Triples of single operations -/

section

variable [Geo F] {c : TaskId} {P : State F -> Prop} {i : Int}

theorem keeps_of {s s' : State F} (hinv : ClientInv s')
    (hothers : forall c', c' ≠ c -> ClientRely c' s s') :
    clientSetting.Keeps c (fun _ _ => True) s s' :=
  ⟨hinv, hothers, trivial⟩

theorem client_act {o : Op F} {Q : o.Ret -> State F -> Prop}
    (hstable : forall s s', P s -> ClientRely c s s' -> P s')
    (hdone : forall ch r s s', ClientInv s -> P s -> exec c ch o s = .done r s' ->
      ClientInv s' ∧ (forall c', c' ≠ c -> ClientRely c' s s') ∧ Q r s') :
    ClientTriple c P (act o) Q := by
  apply Setting.triple_perform fun s s' h _ hrely => hstable s s' h hrely
  intro s hinv hs ch _
  cases hexec : (clientSetting (F := F)).exec c ch o s with
  | blocked => trivial
  | again s' =>
      exfalso
      cases o <;> simp only [clientSetting, exec] at hexec <;> grind
  | done r s' =>
      rcases hdone ch r s s' hinv hs hexec with ⟨hinv', hothers, hpost⟩
      exact ⟨keeps_of hinv' hothers, hpost⟩

/-- The operation leaves the token, the trip and the history alone. -/
def Op.Quiet (o : Op F) : Prop :=
  forall c ch r s s', exec c ch o s = .done r s' -> SameBooks s s'

theorem client_quiet {o : Op F} {Q : o.Ret -> State F -> Prop} (hquiet : o.Quiet)
    (hstable : forall s s', P s -> ClientRely c s s' -> P s')
    (hpost : forall ch r s s', ClientInv s' -> P s' -> SameBooks s s' ->
      exec c ch o s = .done r s' -> Q r s') :
    ClientTriple c P (act o) Q := by
  apply client_act hstable
  intro ch r s s' hinv hs hexec
  have hsame := hquiet c ch r s s' hexec
  have hinv' : ClientInv s' := by
    apply inv_of_history hinv hsame.history ?_ hsame.trip
    rw [hsame.token]
    exact hinv.token
  have hrely := rely_of_history hsame.history hsame.trip
  exact ⟨hinv', fun c' _ => hrely c', hpost ch r s s' hinv' (hstable s s' hs (hrely c)) hsame hexec⟩

theorem quiet_of_read {o : Op F} (h : forall c ch r s s', exec c ch o s = .done r s' -> s' = s) :
    o.Quiet := by
  intro c ch r s s' hexec
  rw [h c ch r s s' hexec]
  exact ⟨rfl, rfl, rfl⟩

theorem quiet_getToken : (Op.getToken : Op F).Quiet :=
  quiet_of_read fun _ _ _ _ _ h => by cases h; rfl

theorem quiet_getTrip : (Op.getTrip : Op F).Quiet :=
  quiet_of_read fun _ _ _ _ _ h => by cases h; rfl

theorem quiet_getAutopos : (Op.getAutopos : Op F).Quiet :=
  quiet_of_read fun _ _ _ _ _ h => by cases h; rfl

theorem quiet_nowSecs : (Op.nowSecs : Op F).Quiet :=
  quiet_of_read fun _ _ _ _ _ h => by cases h; rfl

theorem quiet_setAutopos (enabled : Bool) : (Op.setAutopos enabled : Op F).Quiet := by
  intro c ch r s s' h
  cases h
  exact ⟨rfl, rfl, rfl⟩

theorem quiet_setPos (lat lon : F) : (Op.setPos lat lon : Op F).Quiet := by
  intro c ch r s s' h
  cases h
  exact ⟨rfl, rfl, rfl⟩

theorem quiet_stepPos : (Op.stepPos : Op F).Quiet := by
  intro c ch r s s' h
  cases h
  exact ⟨rfl, rfl, rfl⟩

end

end Wanderust.Cli
