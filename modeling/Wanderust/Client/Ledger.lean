import Wanderust.Client.Tasks
import Wanderust.Logs.Histories

/-!
# The books of the client

The verification of the three tasks is set up here: what the history says of
tokens and trips, what holds of it at all times, and what one task may rely on
while the other two take their steps.
-/

namespace Wanderust.Cli

open Interleaving Prog Logs

variable {F : Type}

/-! # Events -/

def Event.isStart (tripId : Int) : Event F -> Bool
  | .received (.tripStarted i _ _ _) => i == tripId
  | _ => false

def Event.isStored (tripId : Int) : Event F -> Bool
  | .tripSet (some i) => i == tripId
  | _ => false

def Event.isEnd (tripId : Int) : Event F -> Bool
  | .sent _ (.endTrip _ i _) => i == tripId
  | _ => false

def Event.isSample (tripId : Int) : Event F -> Bool
  | .sent _ (.position _ i _ _ _) => i == tripId
  | _ => false

def Event.isMainRequest (tripId : Int) : Event F -> Bool
  | .sent .main msg => msg.tripId? == some tripId
  | _ => false

/-- Whatever the request names has come from the server. -/
structure Backed (h : List (Event F)) (msg : Message F) : Prop where
  token : forall t, msg.token? = some t -> .received (.authOk t) ∈ h ∨ msg = .disconnect ""
  trip : forall i, msg.tripId? = some i ->
    exists lat lon ts, .received (.tripStarted i lat lon ts) ∈ h

def Backs (h : List (Event F)) : Event F -> Prop
  | .sent _ msg => Backed h msg
  | .sendFailed _ msg => Backed h msg
  | _ => True

theorem Backed.mono {h h' : List (Event F)} {msg : Message F} (hbacked : Backed h msg)
    (hkept : forall e, e ∈ h -> e ∈ h') : Backed h' msg where
  token := fun t ht => (hbacked.token t ht).imp_left (hkept _)
  trip := by
    intro i hi
    rcases hbacked.trip i hi with ⟨lat, lon, ts, hmem⟩
    exact ⟨lat, lon, ts, hkept _ hmem⟩

/-! # Counts -/

namespace State

def starts (s : State F) (i : Int) : Nat := s.history.countP (Event.isStart i)

def stored (s : State F) (i : Int) : Nat := s.history.countP (Event.isStored i)

def ends (s : State F) (i : Int) : Nat := s.history.countP (Event.isEnd i)

def holds (s : State F) (i : Int) : Nat := if s.trip = some i then 1 else 0

/-- The samples of the trip that have been sent after its end. -/
def late (s : State F) (i : Int) : Nat :=
  (since (Event.isEnd i) s.history).countP (Event.isSample i)

def lateRequests (s : State F) (i : Int) : Nat :=
  (since (Event.isEnd i) s.history).countP (Event.isMainRequest i)

end State

def Grown (s s' : State F) (e : Event F) : Prop := s'.history = s.history ++ [e]

section

variable {s s' : State F} {e : Event F} {i : Int}

theorem Grown.starts (h : Grown s s' e) :
    s'.starts i = s.starts i + if e.isStart i then 1 else 0 := by
  rw [State.starts, h, List.countP_append, List.countP_singleton]
  rfl

theorem Grown.stored (h : Grown s s' e) :
    s'.stored i = s.stored i + if e.isStored i then 1 else 0 := by
  rw [State.stored, h, List.countP_append, List.countP_singleton]
  rfl

theorem Grown.ends (h : Grown s s' e) :
    s'.ends i = s.ends i + if e.isEnd i then 1 else 0 := by
  rw [State.ends, h, List.countP_append, List.countP_singleton]
  rfl

theorem Grown.late (h : Grown s s' e) :
    s'.late i = if s.ends i = 0 then 0 else s.late i + if e.isSample i then 1 else 0 := by
  rw [State.late, h]
  exact countP_since_snoc _ _

theorem Grown.lateRequests (h : Grown s s' e) :
    s'.lateRequests i =
      if s.ends i = 0 then 0 else s.lateRequests i + if e.isMainRequest i then 1 else 0 := by
  rw [State.lateRequests, h]
  exact countP_since_snoc _ _

theorem Grown.kept (h : Grown s s' e) (e0 : Event F) (he0 : e0 ∈ s.history) :
    e0 ∈ s'.history := by
  rw [h]
  exact List.mem_append_left _ he0

theorem late_of_open (h : s.ends i = 0) : s.late i = 0 := by
  rw [State.late, since_of_none h, List.countP_nil]

end

/-! # The setting -/

structure ClientInv (s : State F) : Prop where
  backed : Justified Backs s.history
  token : forall t, s.token = some t -> .received (.authOk t) ∈ s.history
  trip : forall i, s.trip = some i ->
    exists lat lon ts, .received (.tripStarted i lat lon ts) ∈ s.history
  /-- A trip that has been stored is the current one, or it is spent on one end at most. -/
  credit : forall i, s.ends i + s.holds i ≤ s.stored i
  stored : forall i, s.stored i ≤ s.starts i
  late : forall i, s.starts i ≤ 1 -> s.late i ≤ 1
  lateRequests : forall i, s.starts i ≤ 1 -> s.lateRequests i = 0

/-- Only `main` ends trips, only the receiver stores them, and only they make samples late. -/
structure ClientRely (c : TaskId) (s s' : State F) : Prop where
  kept : forall e, e ∈ s.history -> e ∈ s'.history
  starts : forall i, s.starts i ≤ s'.starts i
  stored : forall i, s.stored i ≤ s'.stored i
  main : c = .main -> forall i,
    s'.ends i = s.ends i ∧ s.stored i + s'.holds i ≤ s'.stored i + s.holds i
  autopos : c = .autopos -> forall i, s'.starts i ≤ 1 -> s'.late i = s.late i
  receiver : c = .receiver -> forall i, s'.starts i = s.starts i ∧ s'.stored i = s.stored i

theorem ClientRely.refl (c : TaskId) (s : State F) : ClientRely c s s where
  kept := fun _ he => he
  starts := fun _ => le_refl _
  stored := fun _ => le_refl _
  main := fun _ _ => ⟨rfl, le_refl _⟩
  autopos := fun _ _ _ => rfl
  receiver := fun _ _ => ⟨rfl, rfl⟩

theorem ClientRely.trans {c : TaskId} {s s' s'' : State F} (h : ClientRely c s s')
    (h' : ClientRely c s' s'') : ClientRely c s s'' where
  kept := fun e he => h'.kept e (h.kept e he)
  starts := fun i => le_trans (h.starts i) (h'.starts i)
  stored := fun i => le_trans (h.stored i) (h'.stored i)
  main := by
    intro hc i
    have h1 := h.main hc i
    have h2 := h'.main hc i
    omega
  autopos := by
    intro hc i hi
    rw [h'.autopos hc i hi, h.autopos hc i (le_trans (h'.starts i) hi)]
  receiver := by
    intro hc i
    have h1 := h.receiver hc i
    have h2 := h'.receiver hc i
    exact ⟨h2.1.trans h1.1, h2.2.trans h1.2⟩

section

variable [Geo F]

def clientSetting : Setting (@Op.Ret F) TaskId Choice (State F) where
  exec := exec
  allowed := fun _ _ _ _ => True
  inv := ClientInv
  rely := ClientRely
  rely_refl := ClientRely.refl
  rely_trans := ClientRely.trans

/-- The triples of the tasks promise nothing about single steps. -/
def ClientTriple (c : TaskId) {alpha : Type} (P : State F -> Prop) (p : Program F alpha)
    (Q : alpha -> State F -> Prop) : Prop :=
  clientSetting.Triple c (fun _ _ => True) P p Q

end

/-! # Assertions of a task -/

/-- `main` may still end every trip that the request names. -/
structure Ready (msg : Message F) (s : State F) : Prop where
  backed : Backed s.history msg
  open_ : forall i, msg.tripId? = some i -> s.ends i < s.stored i

/-- The trip has been taken out, so that its end can be sent. -/
def Spendable (i : Int) (s : State F) : Prop := s.ends i + 1 + s.holds i ≤ s.stored i

def Sendable (msg : Message F) (s : State F) : Prop :=
  Ready msg s ∧ forall token i ts, msg = .endTrip token i ts -> Spendable i s

/-- The sample that is under way to a trip is the first one after its end, if it is late. -/
structure InFlight (token : String) (i : Int) (s : State F) : Prop where
  token : .received (.authOk token) ∈ s.history
  trip : exists lat lon ts, .received (.tripStarted i lat lon ts) ∈ s.history
  first : s.starts i ≤ 1 -> s.late i = 0

/-- The receiver has been told of a trip that is not stored yet. -/
structure Told (i : Int) (s : State F) : Prop where
  trip : exists lat lon ts, .received (.tripStarted i lat lon ts) ∈ s.history
  unstored : s.stored i + 1 ≤ s.starts i

section

variable {s s' : State F} {msg : Message F} {i : Int} {token : String}

theorem Ready.env (h : Ready msg s) (hrely : ClientRely .main s s') : Ready msg s' where
  backed := h.backed.mono hrely.kept
  open_ := by
    intro i hi
    have hopen := h.open_ i hi
    have hmain := hrely.main rfl i
    have hstored := hrely.stored i
    omega

theorem Spendable.env (h : Spendable i s) (hrely : ClientRely .main s s') : Spendable i s' := by
  have hmain := hrely.main rfl i
  unfold Spendable at *
  omega

theorem Sendable.env (h : Sendable msg s) (hrely : ClientRely .main s s') : Sendable msg s' :=
  ⟨h.1.env hrely, fun token i ts hmsg => (h.2 token i ts hmsg).env hrely⟩

theorem InFlight.env (h : InFlight token i s) (hrely : ClientRely .autopos s s') :
    InFlight token i s' where
  token := hrely.kept _ h.token
  trip := by
    rcases h.trip with ⟨lat, lon, ts, hmem⟩
    exact ⟨lat, lon, ts, hrely.kept _ hmem⟩
  first := by
    intro hi
    rw [hrely.autopos rfl i hi]
    exact h.first (le_trans (hrely.starts i) hi)

theorem Told.env (h : Told i s) (hrely : ClientRely .receiver s s') : Told i s' where
  trip := by
    rcases h.trip with ⟨lat, lon, ts, hmem⟩
    exact ⟨lat, lon, ts, hrely.kept _ hmem⟩
  unstored := by
    have hreceiver := hrely.receiver rfl i
    have hunstored := h.unstored
    omega

end

end Wanderust.Cli
