import Wanderust.Client.Network
import Wanderust.Properties.WireFormat

/-!
# The channels of the network

Each side of the network runs as it does alone, and what one side has read is
what the other has sent: nothing is invented, repeated or put out of order.
-/

namespace Wanderust

open Interleaving Json

variable {F : Type}

/-! # What a step adds to the traffic of the server -/

def Grows (s s' : State F) : Prop :=
  forall c, exists es, s'.traffic c = s.traffic c ++ es ∧ es.filterMap Event.request? = []

theorem Grows.refl (s : State F) : Grows s s :=
  fun _ => ⟨[], (List.append_nil _).symm, rfl⟩

theorem Grows.requests {s s' : State F} (h : Grows s s') (c : ConnId) :
    s'.requests c = s.requests c := by
  rcases h c with ⟨es, htraffic, hes⟩
  rw [State.requests, State.requests, htraffic, List.filterMap_append, hes, List.append_nil]

theorem Grows.replies {s s' : State F} (h : Grows s s') (c : ConnId) :
    exists more, s'.replies c = s.replies c ++ more := by
  rcases h c with ⟨es, htraffic, _⟩
  exact ⟨es.filterMap Event.sent?, by rw [State.replies, htraffic, List.filterMap_append]; rfl⟩

theorem grows_log (s : State F) (c : ConnId) {e : Event F} (he : Event.request? e = none) :
    Grows s (s.log c e) := by
  intro c'
  by_cases hc : c' = c
  · subst hc
    exact ⟨[e], State.log_traffic s c' e, by rw [List.filterMap_cons, he]; rfl⟩
  · exact ⟨[], by rw [State.log_traffic_of_ne s e hc, List.append_nil], rfl⟩

section

variable [Geo F] [Bcrypt]

theorem executes_grows {c : ConnId} {ch : Choice} {o : Op F} {s s' : State F}
    (h : Executes c ch o s s') : Grows s s' := by
  rcases h with ⟨r, hdone⟩ | hagain
  · cases o with
    | send msg =>
        simp only [exec] at hdone
        split at hdone
        · cases hdone
          exact grows_log s c rfl
        · cases hdone
          exact grows_log s c rfl
    | sendClose =>
        simp only [exec] at hdone
        split at hdone
        · cases hdone
          exact Grows.refl s
        · cases hdone
          exact grows_log s c rfl
    | _ =>
        have hsame : s'.traffic = s.traffic := by
          simp only [exec, answerQuery] at hdone
          grind
        intro c'
        exact ⟨[], by rw [hsame, List.append_nil], rfl⟩
  · intro c'
    exact ⟨[], by rw [exec_traffic_again hagain, List.append_nil], rfl⟩

theorem next_grows {w w' : World F} {l : Label F} (hl : l.bringsRequest = false)
    (hnext : w.next l = some w') : Grows w.state w'.state := by
  cases l with
  | accept c =>
      rcases accept_of_next hnext with ⟨_, rfl⟩
      exact Grows.refl _
  | receive c item =>
      rcases receive_of_next hnext with ⟨_, rfl⟩
      apply grows_log
      cases item with
      | message msg => cases hl
      | _ => rfl
  | step c ch =>
      rcases executes_of_next hnext with ⟨o, _, hexec⟩
      exact executes_grows hexec
  | restart =>
      cases hnext
      exact Grows.refl _

end

/-! # What a step adds to the history of a client -/

namespace Cli

def Grows (s s' : State F) : Prop :=
  exists es, s'.history = s.history ++ es ∧ es.filterMap Event.answer? = []

theorem Grows.refl (s : State F) : Grows s s := ⟨[], (List.append_nil _).symm, rfl⟩

theorem Grows.answers {s s' : State F} (h : Grows s s') : s'.answers = s.answers := by
  rcases h with ⟨es, hhistory, hes⟩
  rw [State.answers, State.answers, hhistory, List.filterMap_append, hes, List.append_nil]

theorem Grows.requests {s s' : State F} (h : Grows s s') :
    exists more, s'.requests = s.requests ++ more := by
  rcases h with ⟨es, hhistory, _⟩
  exact ⟨es.filterMap Event.request?, by rw [State.requests, hhistory, List.filterMap_append]; rfl⟩

variable [Geo F]

theorem exec_grows {i : TaskId} {ch : Choice} {o : Op F} {r : o.Ret} {s s' : State F}
    (h : exec i ch o s = .done r s') : Grows s s' := by
  cases o with
  | setTrip trip =>
      cases h
      exact ⟨[_], rfl, rfl⟩
  | send msg =>
      simp only [exec] at h
      split at h
      · cases h
        exact ⟨[_], rfl, rfl⟩
      · cases h
        exact ⟨[_], rfl, rfl⟩
  | sendClose =>
      simp only [exec] at h
      split at h
      · cases h
        exact Grows.refl _
      · cases h
        exact ⟨[_], rfl, rfl⟩
  | _ =>
      cases h
      exact ⟨[], (List.append_nil _).symm, rfl⟩

theorem exec_never_again {i : TaskId} {ch : Choice} {o : Op F} {s s' : State F} :
    exec i ch o s ≠ .again s' := by
  intro h
  cases o <;> simp only [exec] at h <;> grind

theorem next_grows [ParseF64 F] {client client' : Client F} {l : Label F}
    (hl : bringsMessage l = false) (hnext : Client.next client l = some client') :
    Grows client.state client'.state := by
  cases l with
  | start i x =>
      rcases Loops.start_of_next hnext with ⟨_, rfl⟩
      cases i with
      | receiver =>
          cases x with
          | message msg => cases hl
          | _ => exact Grows.refl _
      | _ => exact Grows.refl _
  | step i ch =>
      rcases Loops.step_of_next hnext with ⟨p, p', s, _, hstep, rfl⟩
      rcases Prog.step_eq_some.mp hstep with ⟨o, next, _, ⟨hagain, _⟩ | ⟨r, hdone, _⟩⟩
      · exact absurd hagain exec_never_again
      · exact exec_grows hdone

theorem arrival_answers [ParseF64 F] {item : Arrival F} {msg : Message F}
    {client client' : Client F}
    (hitem : item = .message msg ∨ item = .unreadable)
    (hnext : Client.next client (.start .receiver item) = some client') :
    client'.state.requests = client.state.requests ∧
      (client'.state.answers = client.state.answers ++ (Event.answer? (.received msg)).toList ∨
        client'.state.answers = client.state.answers) := by
  rcases Loops.start_of_next hnext with ⟨_, rfl⟩
  rcases hitem with rfl | rfl
  · have hhistory : (note .receiver (.message msg) client.state).history =
        client.state.history ++ [.received msg] := rfl
    constructor
    · show List.filterMap _ (note .receiver (.message msg) client.state).history = _
      rw [hhistory, List.filterMap_append]
      exact List.append_nil _
    · left
      show List.filterMap _ (note .receiver (.message msg) client.state).history = _
      rw [hhistory, List.filterMap_append]
      cases hanswer : Event.answer? (.received msg) <;> simp [State.answers, hanswer]
  · exact ⟨rfl, Or.inr rfl⟩

omit [Geo F] in
theorem answer_toList (msg : Message F) :
    (Event.answer? (.received msg)).toList = [msg] ∨
      (Event.answer? (.received msg)).toList = [] := by
  cases msg with
  | chatFromServer sender line => exact Or.inr rfl
  | _ => exact Or.inl rfl

end Cli

/-! # What is carried -/

section

variable [JsonFloat F] {text : TextFormat F} {msg : Message F}

theorem decode_sent (htext : text.Inverse) (hrange : msg.InRange) {msg' : Message F}
    (h : decode text (encode text msg) = some msg') : msg' = msg := by
  rw [decode_encode htext hrange] at h
  split at h
  · exact (Option.some.inj h).symm
  · cases h

theorem carried_request (htext : text.Inverse) {item : Incoming F}
    (h : Network.carried text msg = some item) :
    Event.request? (.received item) = some msg ∨ Event.request? (.received item) = none := by
  unfold Network.carried at h
  split at h
  case isFalse => cases h
  case isTrue hrange =>
    have hitem : receiveLine (decode text) (encode text msg) = item := Option.some.inj h
    rw [← hitem, receiveLine]
    split
    · exact Or.inr rfl
    · cases hdecode : decode text (encode text msg) with
      | none => exact Or.inr rfl
      | some msg' => exact Or.inl (congrArg some (decode_sent htext hrange hdecode))

theorem carriedBack_answer (htext : text.Inverse) {item : Cli.Arrival F}
    (h : Network.carriedBack text msg = some item) :
    item = .message msg ∨ item = .unreadable := by
  unfold Network.carriedBack at h
  split at h
  case isFalse => cases h
  case isTrue hrange =>
    have hitem : Cli.arrival (decode text) (some (.ok (.text (encode text msg)))) = item :=
      Option.some.inj h
    rw [← hitem, Cli.arrival]
    cases hdecode : decode text (encode text msg) with
    | none => exact Or.inr rfl
    | some msg' => exact Or.inl (congrArg _ (decode_sent htext hrange hdecode))

end

/-! # The invariant of the network -/

theorem sublist_take_append {alpha : Type} {l l1 : List alpha} {k : Nat}
    (h : l.Sublist (l1.take k)) (hk : k ≤ l1.length) (more : List alpha) :
    l.Sublist ((l1 ++ more).take k) := by
  rwa [List.take_append_of_le_length hk]

/-- The next entry has been read: it is new at the other end, or it got lost. -/
theorem sublist_take_succ {alpha : Type} {l l1 new : List alpha} {k : Nat} {x : alpha}
    (h : l.Sublist (l1.take k)) (hx : l1[k]? = some x) (hnew : new = [x] ∨ new = []) :
    (l ++ new).Sublist (l1.take (k + 1)) := by
  rw [List.take_add_one, hx]
  rcases hnew with rfl | rfl
  · exact h.append (List.Sublist.refl _)
  · exact h.append (List.nil_sublist _)

theorem lt_of_getElem?_some {alpha : Type} {l : List alpha} {k : Nat} {x : alpha}
    (h : l[k]? = some x) : k < l.length := (List.getElem?_eq_some_iff.mp h).1

namespace Network

section

variable [Geo F] [Bcrypt] [Cli.ParseF64 F]

/-- Both sides run as they do alone, and what has been read has been sent before. -/
structure NetworkInv (users : Users) (trips : Trips) (positions : Positions F)
    (n : Network F) : Prop where
  server : Reachable (fun _ _ => True) (World.boot users trips positions) n.server
  clients : forall c, Cli.Reachable (n.clients c)
  requests : forall c, (n.server.state.requests c).Sublist
    ((n.clients c).state.requests.take (n.requestsRead c))
  requestsRead : forall c, n.requestsRead c ≤ (n.clients c).state.requests.length
  answers : forall c, (n.clients c).state.answers.Sublist
    ((n.server.state.replies c).take (n.repliesRead c))
  repliesRead : forall c, n.repliesRead c ≤ (n.server.state.replies c).length

variable {users : Users} {trips : Trips} {positions : Positions F} {n : Network F}

theorem networkInv_boot : NetworkInv users trips positions (boot users trips positions) where
  server := Reach.refl
  clients := fun _ => Reach.refl
  requests := fun _ => List.Sublist.refl _
  requestsRead := fun _ => le_refl _
  answers := fun _ => List.Sublist.refl _
  repliesRead := fun _ => le_refl _

theorem NetworkInv.ofServer (h : NetworkInv users trips positions n) {l : Label F} {w : World F}
    (hnext : n.server.next l = some w) {read : ConnId -> Nat}
    (hread : forall c, read c ≤ (n.clients c).state.requests.length)
    (hrequests : forall c, (w.state.requests c).Sublist
      ((n.clients c).state.requests.take (read c)))
    (hreplies : forall c, exists more, w.state.replies c = n.server.state.replies c ++ more) :
    NetworkInv users trips positions { n.ofServer w with requestsRead := read } where
  server := h.server.tail l trivial hnext
  clients := h.clients
  requests := hrequests
  requestsRead := hread
  answers := by
    intro c
    rcases hreplies c with ⟨more, hmore⟩
    show List.Sublist _ ((w.state.replies c).take _)
    rw [hmore]
    exact sublist_take_append (h.answers c) (h.repliesRead c) more
  repliesRead := by
    intro c
    rcases hreplies c with ⟨more, hmore⟩
    show _ ≤ (w.state.replies c).length
    rw [hmore, List.length_append]
    exact le_trans (h.repliesRead c) (Nat.le_add_right _ _)

theorem NetworkInv.ofClient (h : NetworkInv users trips positions n) {c : ConnId}
    {l : Cli.Label F} {client : Cli.Client F}
    (hnext : Cli.Client.next (n.clients c) l = some client) {read : ConnId -> Nat}
    (hread : forall c', read c' ≤ (n.server.state.replies c').length)
    (hothers : forall c', c' ≠ c -> read c' = n.repliesRead c')
    (hanswers : client.state.answers.Sublist ((n.server.state.replies c).take (read c)))
    (hrequests : exists more, client.state.requests = (n.clients c).state.requests ++ more) :
    NetworkInv users trips positions { n.ofClient c client with repliesRead := read } := by
  rcases hrequests with ⟨more, hmore⟩
  refine ⟨h.server, ?_, ?_, ?_, ?_, hread⟩
  all_goals
    intro c'
    by_cases hc : c' = c
  · subst hc
    simpa [Network.ofClient] using (h.clients c').tail l trivial hnext
  · simpa [Network.ofClient, hc] using h.clients c'
  · subst hc
    simpa [Network.ofClient, hmore] using
      sublist_take_append (h.requests c') (h.requestsRead c') more
  · simpa [Network.ofClient, hc] using h.requests c'
  · subst hc
    have hle := h.requestsRead c'
    simp only [Network.ofClient, Function.update_self, hmore, List.length_append]
    omega
  · simpa [Network.ofClient, hc] using h.requestsRead c'
  · subst hc
    simpa [Network.ofClient] using hanswers
  · simpa [Network.ofClient, hc, hothers c' hc] using h.answers c'

/-! # Steps of the network -/

variable [JsonFloat F] {text : TextFormat F} {n' : Network F} {c : ConnId}

theorem request_of_next (hnext : next text n (.request c) = some n') :
    exists msg item w, (n.clients c).state.requests[n.requestsRead c]? = some msg ∧
      carried text msg = some item ∧ n.server.next (.receive c item) = some w ∧
      n' = { n.ofServer w with
        requestsRead := Function.update n.requestsRead c (n.requestsRead c + 1) } := by
  simp only [next, Option.bind_eq_bind, Option.bind_eq_some_iff] at hnext
  rcases hnext with ⟨msg, hmsg, item, hitem, w, hw, hn'⟩
  exact ⟨msg, item, w, hmsg, hitem, hw, (Option.some.inj hn').symm⟩

theorem reply_of_next (hnext : next text n (.reply c) = some n') :
    exists msg item client, (n.server.state.replies c)[n.repliesRead c]? = some msg ∧
      carriedBack text msg = some item ∧
      Cli.Client.next (n.clients c) (.start .receiver item) = some client ∧
      n' = { n.ofClient c client with
        repliesRead := Function.update n.repliesRead c (n.repliesRead c + 1) } := by
  simp only [next, Option.bind_eq_bind, Option.bind_eq_some_iff] at hnext
  rcases hnext with ⟨msg, hmsg, item, hitem, client, hclient, hn'⟩
  exact ⟨msg, item, client, hmsg, hitem, hclient, (Option.some.inj hn').symm⟩

theorem chat_of_next {sender : Option String} {line : String}
    (hnext : next text n (.chat c sender line) = some n') :
    exists item client, carriedBack text (.chatFromServer sender line) = some item ∧
      Cli.Client.next (n.clients c) (.start .receiver item) = some client ∧
      n' = n.ofClient c client := by
  simp only [next, Option.bind_eq_bind, Option.bind_eq_some_iff] at hnext
  rcases hnext with ⟨item, hitem, client, hclient, hn'⟩
  exact ⟨item, client, hitem, hclient, (Option.some.inj hn').symm⟩

theorem networkInv_next (htext : text.Inverse) {l : NetworkLabel F}
    (h : NetworkInv users trips positions n) (hnext : next text n l = some n') :
    NetworkInv users trips positions n' := by
  cases l with
  | server l =>
      simp only [next] at hnext
      split at hnext
      case isTrue => cases hnext
      case isFalse hl =>
        rcases Option.map_eq_some_iff.mp hnext with ⟨w, hw, rfl⟩
        have hgrows := next_grows (eq_false_of_ne_true hl) hw
        apply h.ofServer hw h.requestsRead
        · intro c
          rw [hgrows.requests]
          exact h.requests c
        · exact hgrows.replies
  | client c l =>
      simp only [next] at hnext
      split at hnext
      case isTrue => cases hnext
      case isFalse hl =>
        rcases Option.map_eq_some_iff.mp hnext with ⟨client, hclient, rfl⟩
        have hgrows := Cli.next_grows (eq_false_of_ne_true hl) hclient
        apply h.ofClient hclient h.repliesRead (fun _ _ => rfl)
        · rw [hgrows.answers]
          exact h.answers c
        · exact hgrows.requests
  | request c =>
      rcases request_of_next hnext with ⟨msg, item, w, hmsg, hitem, hw, rfl⟩
      have htraffic : w.state = n.server.state.log c (.received item) := by
        rcases receive_of_next hw with ⟨_, rfl⟩
        rfl
      apply h.ofServer hw
      · intro c'
        by_cases hc : c' = c
        · subst hc
          rw [Function.update_self]
          exact lt_of_getElem?_some hmsg
        · rw [Function.update_of_ne hc]
          exact h.requestsRead c'
      · intro c'
        by_cases hc : c' = c
        · subst hc
          rw [Function.update_self, htraffic, State.requests, State.log_traffic,
            List.filterMap_append]
          apply sublist_take_succ (h.requests c') hmsg
          rcases carried_request htext hitem with hsome | hnone
          · left
            rw [List.filterMap_cons, hsome]
            rfl
          · right
            rw [List.filterMap_cons, hnone]
            rfl
        · rw [Function.update_of_ne hc, htraffic, State.requests,
            State.log_traffic_of_ne _ _ hc]
          exact h.requests c'
      · intro c'
        by_cases hc : c' = c
        · subst hc
          exact ⟨[], by rw [htraffic, State.replies, State.log_traffic, List.filterMap_append]; rfl⟩
        · refine ⟨[], ?_⟩
          rw [htraffic, State.replies, State.log_traffic_of_ne _ _ hc, List.append_nil]
          rfl
  | reply c =>
      rcases reply_of_next hnext with ⟨msg, item, client, hmsg, hitem, hclient, rfl⟩
      rcases Cli.arrival_answers (carriedBack_answer htext hitem) hclient with ⟨hrequests, hanswers⟩
      apply h.ofClient hclient
      · intro c'
        by_cases hc : c' = c
        · subst hc
          rw [Function.update_self]
          exact lt_of_getElem?_some hmsg
        · rw [Function.update_of_ne hc]
          exact h.repliesRead c'
      · exact fun c' hc => Function.update_of_ne hc _ _
      · rw [Function.update_self]
        rcases hanswers with hanswers | hanswers
        · rw [hanswers]
          exact sublist_take_succ (h.answers c) hmsg (Cli.answer_toList msg)
        · rw [hanswers, ← List.append_nil (n.clients c).state.answers]
          exact sublist_take_succ (h.answers c) hmsg (Or.inr rfl)
      · exact ⟨[], by rw [hrequests, List.append_nil]⟩
  | chat c sender line =>
      rcases chat_of_next hnext with ⟨item, client, hitem, hclient, rfl⟩
      rcases Cli.arrival_answers (carriedBack_answer htext hitem) hclient with ⟨hrequests, hanswers⟩
      apply h.ofClient hclient h.repliesRead (fun _ _ => rfl)
      · rcases hanswers with hanswers | hanswers
        · rw [hanswers]
          simpa [Cli.Event.answer?] using h.answers c
        · rw [hanswers]
          exact h.answers c
      · exact ⟨[], by rw [hrequests, List.append_nil]⟩

theorem networkInv_reachable (htext : text.Inverse)
    (h : ReachableFrom text users trips positions n) : NetworkInv users trips positions n := by
  refine h.invariant networkInv_boot ?_
  intro n1 n2 l hinv _ hnext
  exact networkInv_next htext hinv hnext

end

end Network

end Wanderust
