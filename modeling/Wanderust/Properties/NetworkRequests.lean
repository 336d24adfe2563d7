import Mathlib.Algebra.Order.Field.Rat
import Wanderust.Client.Channels
import Wanderust.Session.Conditions

/-!
# Clients and server together

What the server can count on when all its clients are the client of this
repository: nobody uses a token or a trip of another connection, and a trip is
ended once and hardly used after that.
-/

namespace Wanderust

open Interleaving Json Logs Network

variable {F : Type}

def Message.isEndTrip (tripId : Int) : Message F -> Bool
  | .endTrip _ i _ => i == tripId
  | _ => false

def Message.isPosition (tripId : Int) : Message F -> Bool
  | .position _ i _ _ _ => i == tripId
  | _ => false

/-! # From the history of a client to its requests -/

namespace Cli

theorem isEnd_eq (i : Int) (e : Event F) : e.isEnd i = e.request?.any (Message.isEndTrip i) := by
  cases e with
  | sent task msg => cases msg <;> rfl
  | _ => rfl

theorem isSample_eq (i : Int) (e : Event F) :
    e.isSample i = e.request?.any (Message.isPosition i) := by
  cases e with
  | sent task msg => cases msg <;> rfl
  | _ => rfl

theorem countP_observed {E B : Type} (f : E -> Option B) (q : B -> Bool) (p : E -> Bool)
    (hp : forall e, p e = (f e).any q) (l : List E) : l.countP p = (l.filterMap f).countP q := by
  rw [List.countP_filterMap]
  apply List.countP_congr
  intro e _
  rw [hp e]
  cases f e with
  | none => simp
  | some b => simp

theorem ends_eq (s : State F) (i : Int) : s.ends i = s.requests.countP (Message.isEndTrip i) :=
  countP_observed _ _ _ (isEnd_eq i) _

theorem late_eq (s : State F) (i : Int) :
    s.late i = (since (Message.isEndTrip i) s.requests).countP (Message.isPosition i) := by
  have hend : (fun e : Event F => e.request?.any (Message.isEndTrip i)) = Event.isEnd i :=
    funext fun e => (isEnd_eq i e).symm
  rw [State.requests, since_filterMap, hend]
  exact countP_observed _ _ _ (isSample_eq i) _

def tellsOf (i : Int) (msg : Message F) : Bool := Wanderust.Event.told? (.sent msg) == some i

theorem starts_eq (s : State F) (i : Int) : s.starts i = s.answers.countP (tellsOf i) := by
  apply countP_observed
  intro e
  cases e with
  | received msg =>
      cases msg <;> simp [Event.isStart, Event.answer?, tellsOf, Wanderust.Event.told?]
  | _ => simp [Event.isStart, Event.answer?]

theorem toldTrips_eq (s : Wanderust.State F) (c : ConnId) (i : Int) :
    (s.toldTrips c).count i = (s.replies c).countP (tellsOf i) := by
  have htold := countP_observed Wanderust.Event.told? (fun j => j == i)
    (fun e => e.told?.any fun j => j == i) (fun _ => rfl) (s.traffic c)
  have hreplies := countP_observed Wanderust.Event.sent? (tellsOf i)
    (fun e => e.told?.any fun j => j == i) ?_ (s.traffic c)
  · exact htold.symm.trans hreplies
  · intro e
    cases e with
    | sent msg => cases msg <;> simp [Wanderust.Event.told?, Wanderust.Event.sent?, tellsOf]
    | _ => simp [Wanderust.Event.told?, Wanderust.Event.sent?]

end Cli

/-! # All runs of the network -/

section

variable [Geo F] [Bcrypt] [Cli.ParseF64 F] {users : Users} {trips : Trips}
variable {positions : Positions F} {n : Network F}

theorem starts_once (h : NetworkInv users trips positions n) (c : ConnId) (i : Int) :
    (n.clients c).state.starts i ≤ 1 := by
  rcases newsInv_reachable h.server with ⟨pending, hnews⟩
  have hnodup := List.nodup_iff_count_le_one.mp (hnews.news.nodup c) i
  have hsub : (n.clients c).state.answers.Sublist (n.server.state.replies c) :=
    (h.answers c).trans (List.take_sublist _ _)
  rw [Cli.starts_eq]
  rw [Cli.toldTrips_eq] at hnodup
  exact le_trans hsub.countP_le hnodup

theorem requests_sublist (h : NetworkInv users trips positions n) (c : ConnId) :
    (n.server.state.requests c).Sublist (n.clients c).state.requests :=
  (h.requests c).trans (List.take_sublist _ _)

theorem sent_of_request (h : NetworkInv users trips positions n) {c : ConnId} {msg : Message F}
    (hmsg : msg ∈ n.server.state.requests c) :
    exists before i after, (n.clients c).state.history = before ++ .sent i msg :: after := by
  have hsent := (requests_sublist h c).subset hmsg
  rcases List.mem_filterMap.mp hsent with ⟨e, he, hrequest⟩
  cases e with
  | sent i msg' =>
      cases hrequest
      rcases List.append_of_mem he with ⟨before, after, heq⟩
      exact ⟨before, i, after, heq⟩
  | _ => cases hrequest

theorem sent_of_answer (h : NetworkInv users trips positions n) {c : ConnId} {msg : Message F}
    (hmem : .received msg ∈ (n.clients c).state.history)
    (hchat : forall sender line, msg ≠ .chatFromServer sender line) :
    .sent msg ∈ n.server.state.traffic c := by
  have hanswer : msg ∈ (n.clients c).state.answers := by
    apply List.mem_filterMap.mpr
    refine ⟨_, hmem, ?_⟩
    cases msg with
    | chatFromServer sender line => exact absurd rfl (hchat sender line)
    | _ => rfl
  have hreply := ((h.answers c).trans (List.take_sublist _ _)).subset hanswer
  rcases List.mem_filterMap.mp hreply with ⟨e, he, hsent⟩
  cases e with
  | sent msg' =>
      cases hsent
      exact he
  | _ => cases hsent

theorem told_of_request (h : NetworkInv users trips positions n) {c : ConnId} {msg : Message F}
    (hmsg : msg ∈ n.server.state.requests c) {tripId : Int} (htrip : msg.tripId? = some tripId) :
    tripId ∈ n.server.state.toldTrips c := by
  rcases sent_of_request h hmsg with ⟨before, i, after, hhistory⟩
  have hbacked : Cli.Backed before msg :=
    (Cli.clientInv_reachable (h.clients c)).backed before _ after hhistory
  rcases hbacked.trip tripId htrip with ⟨lat, lon, ts, hmem⟩
  have hmem' : .received (.tripStarted tripId lat lon ts) ∈ (n.clients c).state.history := by
    rw [hhistory]
    exact List.mem_append_left _ hmem
  exact List.mem_filterMap.mpr
    ⟨_, sent_of_answer h hmem' fun _ _ heq => (by cases heq), rfl⟩

end

/-! # Rational numbers as text -/

/-- The numbers with six decimal places. -/
def microsOf (x : ℚ) : Int := (1000000 * x).num

instance : JsonFloat ℚ where
  isFinite x := (1000000 * x).den == 1
  ofInt i := i

theorem micros_mul (n : Int) : (1000000 : ℚ) * ((n : ℚ) / 1000000) = n := by
  field_simp

theorem microsOf_div {x : ℚ} (h : JsonFloat.isFinite x = true) :
    (microsOf x : ℚ) / 1000000 = x := by
  have hden : (1000000 * x).den = 1 := by simpa [JsonFloat.isFinite] using h
  have hnum : ((1000000 * x).num : ℚ) = 1000000 * x := Rat.coe_int_num_of_den_eq_one hden
  rw [microsOf, hnum]
  field_simp

/-- A number is written in units of the fifth decimal place, with an exponent. -/
def printMicros (x : ℚ) : List Char := Tenths.print (.tenths (microsOf x)) ++ ['e', '-', '5']

def readMicros (cs : List Char) : Option (Json.Finite ℚ) :=
  match cs.reverse with
  | '5' :: '-' :: 'e' :: rest =>
      match Tenths.read rest.reverse with
      | some ⟨.tenths n, _⟩ => some ⟨n / 1000000, by simp [JsonFloat.isFinite, micros_mul]⟩
      | _ => none
  | _ => none

theorem readMicros_print (x : Json.Finite ℚ) : readMicros (printMicros x.1) = some x := by
  rcases x with ⟨x, hx⟩
  have hreverse : (printMicros x).reverse =
      '5' :: '-' :: 'e' :: (Tenths.print (.tenths (microsOf x))).reverse := by
    unfold printMicros
    rw [List.reverse_append]
    rfl
  have hread := Tenths.read_print ⟨.tenths (microsOf x), rfl⟩
  unfold readMicros
  rw [hreverse]
  simp only [List.reverse_reverse, hread, Option.some.injEq]
  exact Subtype.ext (microsOf_div hx)

instance : FloatText ℚ where
  print x := printMicros x.1
  read := readMicros
  numeral x c h := by
    rcases List.mem_append.mp h with hmicros | hexponent
    · exact FloatText.numeral (F := Tenths) ⟨.tenths (microsOf x.1), rfl⟩ c hmicros
    · have hall : ['e', '-', '5'].all isNumeral = true := by rfl
      exact List.all_eq_true.mp hall c hexponent
  mark x := by
    rcases FloatText.mark (F := Tenths) ⟨.tenths (microsOf x.1), rfl⟩ with ⟨c, hmem, hmark⟩
    exact ⟨c, List.mem_append_left _ hmem, hmark⟩
  read_print := readMicros_print

/-! # A short trip -/

/-- A distance that is not asked for in the run. -/
instance : Geo ℚ where
  haversineM lat1 lon1 lat2 lon2 := |lat2 - lat1| + |lon2 - lon1|

/-- Numerals without a point are read as integers are. -/
instance : Cli.ParseF64 ℚ where
  parse cs := (parseI64 cs).map fun n => (n : ℚ)

attribute [local instance] plainBcrypt

def clientWorks (i : Cli.TaskId) (n : Nat) : List (NetworkLabel ℚ) :=
  List.replicate n (.client 0 (.step i { fails := false, now := 100 }))

def clientTypes (line : String) (n : Nat) : List (NetworkLabel ℚ) :=
  .client 0 (.start .main (.line line)) :: clientWorks .main n

def serves (n : Nat) : List (NetworkLabel ℚ) := .request 0 :: (stepsOf 0 n).map .server

/-- User `u` registers, starts a trip, and ends it while a sample is under way. -/
def shortTrip : List (NetworkLabel ℚ) :=
  .server (.accept 0) :: clientTypes "/register u pass" 1 ++
  serves 5 ++ .server (.step 0 (Choice.drawing "t1")) :: (stepsOf 0 5).map .server ++
  .reply 0 :: clientWorks .receiver 1 ++
  clientTypes "/start 45 9" 5 ++ serves 7 ++ .reply 0 :: clientWorks .receiver 1 ++
  .client 0 (.start .autopos ()) :: clientWorks .autopos 3 ++
  clientTypes "/end" 6 ++ clientWorks .autopos 3 ++ serves 5 ++ serves 0

def shortNetwork : Network ℚ :=
  Interleaving.after (next plainText) (fun _ _ => true) (boot ∅ ∅ ∅) shortTrip

theorem shortNetwork_reachable : ReachableFrom plainText ∅ ∅ ∅ shortNetwork :=
  reach_after (fun _ _ _ => trivial) _ _

def lateMessage : Message ℚ := .position "t1" 1 (45 + 45 / 100000) (9 + 45 / 100000) 100

theorem shortNetwork_traffic :
    shortNetwork.server.state.toldTrips 0 = [1] ∧
      lateMessage ∈ shortNetwork.server.state.requests 0 ∧
      (since (Message.isEndTrip 1) (shortNetwork.server.state.requests 0)).countP
        (Message.isPosition 1) = 1 := by
  decide +kernel

/-! # What the server tells -/

/-- The id of a trip is told once at most, on one connection, when the trip is in the database. -/
theorem trip_told_once {F : Type} [Geo F] [Bcrypt] (users : Users) (trips : Trips)
    (positions : Positions F) (cond : World F -> Label F -> Prop) (w : World F)
    (h : Reachable cond (World.boot users trips positions) w) (tripId : Int) :
    (forall c, (w.state.toldTrips c).count tripId ≤ 1) ∧
      (forall c c', tripId ∈ w.state.toldTrips c -> tripId ∈ w.state.toldTrips c' -> c = c') ∧
      forall c, tripId ∈ w.state.toldTrips c -> w.state.trips.lookup tripId ≠ none := by
  rcases newsInv_reachable h with ⟨pending, hnews⟩
  refine ⟨?_, ?_, ?_⟩
  · intro c
    exact List.nodup_iff_count_le_one.mp (hnews.news.nodup c) tripId
  · intro c c' hc hc'
    exact hnews.news.apart c c' tripId hc hc'
  · intro c hc
    exact hnews.news.toldRow c tripId hc

theorem trip_told_once_short :
    (shortNetwork.server.state.toldTrips 0).count 1 = 1 ∧
      (shortNetwork.server.state.toldTrips 0).count 1 ≤ 1 ∧
      shortNetwork.server.state.trips.lookup 1 ≠ none := by
  have htold := shortNetwork_traffic.1
  have h := trip_told_once ∅ ∅ ∅ _ shortNetwork.server
    (networkInv_reachable plainText_inverse shortNetwork_reachable).server 1
  exact ⟨by rw [htold]; rfl, h.1 0, h.2.2 0 (by rw [htold]; exact List.mem_cons_self)⟩

/-! # What the server reads -/

/-- Tokens and trips stay with the connection on which they were given out. -/
theorem network_requests [Geo F] [Bcrypt] [Cli.ParseF64 F] [JsonFloat F] (text : TextFormat F)
    (htext : text.Inverse) (users : Users) (trips : Trips) (positions : Positions F)
    (n : Network F) (h : ReachableFrom text users trips positions n) (c : ConnId)
    (msg : Message F) (hmsg : msg ∈ n.server.state.requests c) :
    (forall token, msg.token? = some token ->
      (token, c) ∈ n.server.state.drawn ∨ msg = .disconnect "") ∧
    (forall tripId, msg.tripId? = some tripId ->
      n.server.state.trips.lookup tripId ≠ none ∧
        forall c' msg', msg' ∈ n.server.state.requests c' -> msg'.tripId? = some tripId ->
          c' = c) := by
  have hinv := networkInv_reachable htext h
  rcases newsInv_reachable hinv.server with ⟨pending, hnews⟩
  constructor
  · intro token htoken
    rcases sent_of_request hinv hmsg with ⟨before, i, after, hhistory⟩
    have hbacked : Cli.Backed before msg :=
      (Cli.clientInv_reachable (hinv.clients c)).backed before _ after hhistory
    apply (hbacked.token token htoken).imp_left
    intro hmem
    have hmem' : .received (.authOk token) ∈ (n.clients c).state.history := by
      rw [hhistory]
      exact List.mem_append_left _ hmem
    exact (issues_reachable hinv.server c).1 token
      (sent_of_answer hinv hmem' fun _ _ heq => (by cases heq))
  · intro tripId htrip
    have htold := told_of_request hinv hmsg htrip
    refine ⟨hnews.news.toldRow c tripId htold, ?_⟩
    intro c' msg' hmsg' htrip'
    exact hnews.news.apart c' c tripId (told_of_request hinv hmsg' htrip') htold

theorem network_requests_late :
    ("t1", 0) ∈ shortNetwork.server.state.drawn ∧
      shortNetwork.server.state.trips.lookup 1 ≠ none := by
  have h := network_requests plainText plainText_inverse ∅ ∅ ∅ shortNetwork
    shortNetwork_reachable 0 lateMessage shortNetwork_traffic.2.1
  exact ⟨(h.1 "t1" rfl).resolve_right (by decide), (h.2 1 rfl).1⟩

/-- The server reads one end of a trip at most, and at most one sample of it after the end. -/
theorem network_trip_ends [Geo F] [Bcrypt] [Cli.ParseF64 F] [JsonFloat F] (text : TextFormat F)
    (htext : text.Inverse) (users : Users) (trips : Trips) (positions : Positions F)
    (n : Network F) (h : ReachableFrom text users trips positions n) (c : ConnId)
    (tripId : Int) :
    (n.server.state.requests c).countP (Message.isEndTrip tripId) ≤ 1 ∧
      (since (Message.isEndTrip tripId) (n.server.state.requests c)).countP
        (Message.isPosition tripId) ≤ 1 := by
  have hinv := networkInv_reachable htext h
  have hclient := Cli.clientInv_reachable (hinv.clients c)
  have honce := starts_once hinv c tripId
  have hends : (n.clients c).state.requests.countP (Message.isEndTrip tripId) ≤ 1 := by
    have hcredit := hclient.credit tripId
    have hstored := hclient.stored tripId
    rw [← Cli.ends_eq]
    omega
  have hlate := hclient.late tripId honce
  rw [Cli.late_eq] at hlate
  have hsub := requests_sublist hinv c
  exact ⟨le_trans hsub.countP_le hends,
    le_trans (since_sublist hsub hends).countP_le hlate⟩

theorem network_trip_ends_late :
    ((shortNetwork.server.state.requests 0).countP (Message.isEndTrip 1) ≤ 1 ∧
      (since (Message.isEndTrip 1) (shortNetwork.server.state.requests 0)).countP
        (Message.isPosition 1) ≤ 1) ∧
    (since (Message.isEndTrip 1) (shortNetwork.server.state.requests 0)).countP
      (Message.isPosition 1) = 1 :=
  ⟨network_trip_ends plainText plainText_inverse ∅ ∅ ∅ shortNetwork shortNetwork_reachable 0 1,
    shortNetwork_traffic.2.2⟩

end Wanderust
