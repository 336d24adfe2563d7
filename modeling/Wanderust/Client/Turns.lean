import Wanderust.Client.CommandRules

/-!
# The tasks keep the books

Triples of the turns of the three tasks, and from them the invariant of all runs
of the client.
-/

namespace Wanderust.Cli

open Interleaving Prog Logs

variable {F : Type} {c : TaskId} {P : State F -> Prop} {s s' : State F} {i : Int}
variable {msg : Message F}

/-! # What is added to the history -/

theorem Sendable.rely (h : Sendable msg s) (hinv : ClientInv s) {c' : TaskId}
    (hc' : c' ≠ .main) : ClientRely c' s (s.log (.sent .main msg)) := by
  apply (grown_log s _).rely
  · intro hmain
    exact absurd hmain hc'
  · intro _ i hsample honce
    exact h.open_of_sample hinv hsample honce
  · intro _ i
    exact ⟨rfl, rfl⟩

theorem inFlight_of_trip {token : String} (hinv : ClientInv s) (htoken : Known token s)
    (htrip : s.trip = some i) : InFlight token i s where
  token := htoken
  trip := hinv.trip i htrip
  first := by
    intro honce
    have hopen := (held_of_trip hinv htrip).open_
    have hstored := hinv.stored i
    exact late_of_open (by omega)

theorem InFlight.rely {token : String} {lat lon : F} {ts : Int} {c' : TaskId}
    (hc' : c' ≠ .autopos) :
    ClientRely c' s (s.log (.sent .autopos (.position token i lat lon ts))) := by
  apply (grown_log s _).rely
  · intro _ j
    refine ⟨rfl, ?_⟩
    rw [(grown_log s _).stored, holds_log]
    exact le_refl _
  · intro hautopos
    exact absurd hautopos hc'
  · intro _ j
    exact ⟨rfl, rfl⟩

theorem received_fits (hinv : ClientInv s) (msg : Message F) :
    Fits (.received msg) s (s.log (.received msg)) := by
  refine fits_log hinv trivial (fun _ => rfl) ?_ ?_ ?_
  · intro i hi
    cases hi
  · intro i hi
    cases hi
  · intro i hi
    cases hi

theorem received_rely (msg : Message F) {c' : TaskId} (hc' : c' ≠ .receiver) :
    ClientRely c' s (s.log (.received msg)) := by
  apply (grown_log s _).rely
  · intro _ i
    refine ⟨rfl, ?_⟩
    rw [(grown_log s _).stored, holds_log]
    exact le_refl _
  · intro _ i hi
    cases hi
  · intro hreceiver
    exact absurd hreceiver hc'

structure Noted (msg : Message F) (s : State F) : Prop where
  received : .received msg ∈ s.history
  told : forall tripId lat lon ts, msg = .tripStarted tripId lat lon ts -> Told tripId s

theorem noted_log (hinv : ClientInv s) (msg : Message F) :
    Noted msg (s.log (.received msg)) where
  received := List.mem_append_right _ List.mem_cons_self
  told := by
    intro tripId lat lon ts hmsg
    subst hmsg
    have hgrown := grown_log s (.received (.tripStarted tripId lat lon ts))
    have hstored := hinv.stored tripId
    refine ⟨⟨lat, lon, ts, List.mem_append_right _ List.mem_cons_self⟩, ?_⟩
    rw [hgrown.stored, hgrown.starts]
    simpa [Event.isStored, Event.isStart] using hstored

section

variable [Geo F]

/-! # Turns -/

/-- Nothing is asserted of a task between two turns. -/
abbrev TurnTriple (c : TaskId) (P : State F -> Prop) (p : Program F Turn) : Prop :=
  ClientTriple c P p (fun _ _ => True)

theorem turn_return {t : Turn} : TurnTriple c P (.pure t : Program F Turn) :=
  Setting.triple_pure fun _ _ _ => trivial

/-! # The task that reads the lines -/

/-- `main` takes the trip out before it sends the end. -/
theorem turn_setTrip_none {t : String} {ts : Int} :
    ClientTriple .main (Ready (.endTrip t i ts)) (act (.setTrip none))
      (fun _ s => Sendable (.endTrip t i ts : Message F) s) := by
  apply client_act fun _ _ h hrely => Ready.env h hrely
  intro ch r s s' hinv hs hexec
  cases hexec
  have hfits := fits_setTrip hinv none fun _ h => (by cases h)
  refine ⟨hfits.inv hinv, ?_, ⟨⟨hs.backed.mono hfits.grown.kept, ?_⟩, ?_⟩⟩
  · intro c' hc'
    apply hfits.grown.rely
    · intro hmain
      exact absurd hmain hc'
    · intro _ j hj
      cases hj
    · intro _ j
      exact ⟨rfl, rfl⟩
  · intro j hj
    rw [hfits.grown.ends, hfits.grown.stored]
    exact hs.open_ j hj
  · intro t' j ts' heq
    cases heq
    have hopen := hs.open_ i rfl
    unfold Spendable
    rw [hfits.grown.ends, hfits.grown.stored]
    exact hopen

theorem turn_beforeSend :
    ClientTriple .main (Ready msg) (beforeSend msg) (fun _ s => Sendable msg s) := by
  unfold beforeSend
  split
  · apply Setting.triple_bind turn_setTrip_none
    intro _
    exact client_skip (quiet_setAutopos _) fun _ _ h hrely => Sendable.env h hrely
  · rename_i hother
    apply Setting.triple_pure
    intro s _ hs
    exact ⟨hs, fun t i ts heq => absurd heq (hother t i ts)⟩

theorem turn_send : ClientTriple .main (Sendable msg) (act (.send msg)) (fun _ _ => True) := by
  apply client_act fun _ _ h hrely => Sendable.env h hrely
  intro ch r s s' hinv hs hexec
  simp only [exec] at hexec
  split at hexec
  · cases hexec
    have huncounted := uncounted_sendFailed .main msg
    exact ⟨(huncounted.fits hinv hs.1.backed).inv hinv, fun c' _ => huncounted.rely c', trivial⟩
  · cases hexec
    exact ⟨(hs.fits hinv).inv hinv, fun c' hc' => hs.rely hinv hc', trivial⟩

theorem turn_finish : TurnTriple c (fun _ => True) (finish : Program F Turn) := by
  apply Setting.triple_bind
  · apply client_act (Q := fun _ _ => True) fun _ _ h _ => h
    intro ch r s s' hinv _ hexec
    simp only [exec] at hexec
    split at hexec
    · cases hexec
      exact ⟨hinv, fun c' _ => ClientRely.refl c' s, trivial⟩
    · cases hexec
      exact ⟨(uncounted_closeSent.fits hinv trivial).inv hinv,
        fun c' _ => uncounted_closeSent.rely c', trivial⟩
  · intro _
    exact turn_return

theorem turn_transmit : TurnTriple .main (Ready msg) (transmit msg) := by
  apply Setting.triple_bind turn_beforeSend
  intro _
  apply Setting.triple_bind turn_send
  intro sent
  cases sent with
  | false => exact turn_return
  | true =>
      cases msg with
      | disconnect token => exact turn_finish
      | _ => exact turn_return

theorem turn_line [ParseF64 F] (line : List Char) :
    TurnTriple .main (fun _ => True) (lineTurn line : Program F Turn) := by
  unfold lineTurn
  split
  · exact turn_return
  · apply Setting.triple_bind (command_parseCmd line)
    intro r
    cases r with
    | message msg =>
        exact Setting.triple_conseq turn_transmit (fun s _ h => h msg rfl) fun _ _ h => h
    | nothing => exact turn_return
    | panicked => exact turn_return

theorem turn_main [ParseF64 F] (item : Stdin) :
    TurnTriple .main (fun _ => True) (mainTurn item : Program F Turn) := by
  cases item with
  | line s => exact turn_line _
  | endOfInput => exact turn_finish
  | readError => exact turn_return

/-! # The task of the automatic positions -/

theorem turn_sendPosition {token : String} :
    TurnTriple .autopos (InFlight token i) (sendPosition token i : Program F Turn) := by
  apply Setting.triple_bind
    (client_skip quiet_stepPos fun _ _ h hrely => InFlight.env h hrely)
  intro pos
  apply Setting.triple_bind
    (client_skip quiet_nowSecs fun _ _ h hrely => InFlight.env h hrely)
  intro ts
  apply Setting.triple_bind
  · apply client_act (Q := fun _ _ => True) fun _ _ h hrely => InFlight.env h hrely
    intro ch r s s' hinv hs hexec
    simp only [exec] at hexec
    split at hexec
    · cases hexec
      have huncounted := uncounted_sendFailed .autopos (.position token i pos.1 pos.2 ts)
      exact ⟨(huncounted.fits hinv (hs.backed _ _ _)).inv hinv, fun c' _ => huncounted.rely c',
        trivial⟩
    · cases hexec
      exact ⟨(hs.fits hinv _ _ _).inv hinv, fun c' hc' => InFlight.rely hc', trivial⟩
  · intro sent
    cases sent with
    | true => exact turn_return
    | false => exact turn_return

theorem turn_autopos : TurnTriple .autopos (fun _ => True) (autoposTurn : Program F Turn) := by
  apply Setting.triple_bind (client_skip quiet_getAutopos fun _ _ h _ => h)
  intro enabled
  cases enabled with
  | false => exact turn_return
  | true =>
      apply Setting.triple_bind (client_getToken fun _ _ h _ => h)
      intro token
      cases token with
      | none => exact turn_return
      | some token =>
          apply Setting.triple_bind
          · apply Setting.triple_conseq
              (client_getTrip fun _ _ (h : Known token _) hrely => h.env hrely)
              (fun s _ h => h.2 token rfl) fun _ _ h => h
          · intro trip
            cases trip with
            | none => exact turn_return
            | some tripId =>
                apply Setting.triple_conseq turn_sendPosition ?_ fun _ _ h => h
                intro s _ h
                exact inFlight_of_trip h.2.1 h.1 (h.2.2 tripId rfl)

/-! # The task that receives -/

theorem turn_setToken {token : String} :
    ClientTriple .receiver (Known token) (act (.setToken token))
      (fun _ (_ : State F) => True) := by
  apply client_act fun _ _ h hrely => Known.env h hrely
  intro ch r s s' hinv hs hexec
  cases hexec
  refine ⟨inv_of_history hinv rfl ?_ rfl, ?_, trivial⟩
  · intro t ht
    cases ht
    exact hs
  · intro c' _
    apply rely_of_history
    · rfl
    · rfl

theorem turn_setTrip :
    ClientTriple .receiver (Told i) (act (.setTrip (some i))) (fun _ (_ : State F) => True) := by
  apply client_act fun _ _ h hrely => Told.env h hrely
  intro ch r s s' hinv hs hexec
  cases hexec
  have hfits := fits_setTrip hinv (some i) fun j hj => (by cases hj; exact hs)
  refine ⟨hfits.inv hinv, ?_, trivial⟩
  intro c' hc'
  apply hfits.grown.rely
  · intro _ j
    refine ⟨rfl, ?_⟩
    rw [hfits.grown.stored]
    by_cases hj : i = j
    · simp [Event.isStored, State.holds, State.log, hj]
    · simp [Event.isStored, State.holds, State.log, hj]
  · intro _ j hj
    cases hj
  · intro hreceiver
    exact absurd hreceiver hc'

theorem turn_receiver_message :
    TurnTriple .receiver (Noted msg) (receiverTurn (.message msg) : Program F Turn) := by
  cases msg with
  | authOk token =>
      apply Setting.triple_bind
        (Setting.triple_conseq turn_setToken (fun s _ h => h.received) fun _ _ h => h)
      intro _
      exact turn_return
  | tripStarted tripId lat lon ts =>
      apply Setting.triple_bind
        (Setting.triple_conseq turn_setTrip (fun s _ h => h.told tripId lat lon ts rfl)
          fun _ _ h => h)
      intro _
      exact turn_return
  | _ => exact turn_return

/-! # Runs -/

def clientSpec : LoopSpec TaskId (State F) where
  guar := fun _ _ _ => True
  rest := fun _ _ => True

theorem client_verified [ParseF64 F] :
    clientSetting.VerifiedLoops clientSpec (system : LoopSystem (@Op.Ret F) _ _ _) where
  admits := by
    intro i x s hinv _
    cases i with
    | receiver =>
        cases x with
        | message msg =>
            exact ⟨(received_fits hinv msg).inv hinv, fun c' hc' => received_rely msg hc'⟩
        | _ => exact ⟨hinv, fun c' _ => ClientRely.refl c' s⟩
    | _ => exact ⟨hinv, fun c' _ => ClientRely.refl c' s⟩
  triple := by
    intro i x
    cases i with
    | main => exact Setting.triple_conseq (turn_main x) (fun _ _ _ => trivial) fun _ _ h => h
    | autopos => exact Setting.triple_conseq turn_autopos (fun _ _ _ => trivial) fun _ _ h => h
    | receiver =>
        cases x with
        | message msg =>
            apply Setting.triple_conseq turn_receiver_message ?_ fun _ _ h => h
            intro s _ hentered
            rcases hentered with ⟨s0, hinv, _, rfl⟩
            exact noted_log hinv msg
        | _ => exact turn_return
  stable_rest := fun _ _ _ _ _ _ => trivial

theorem clientInv_initial : ClientInv (State.initial : State F) where
  backed := justified_nil
  token := fun _ h => (by cases h)
  trip := fun _ h => (by cases h)
  credit := fun _ => le_refl _
  stored := fun _ => le_refl _
  late := fun _ _ => Nat.zero_le 1
  lateRequests := fun _ _ => rfl

theorem clientInv_reachable [ParseF64 F] {client : Client F} (h : Reachable client) :
    ClientInv client.state := by
  have hinv := Setting.loopsInv_reach client_verified clientInv_initial (fun _ => trivial)
    (h.mono fun _ _ _ _ _ _ _ _ _ => trivial)
  exact hinv.inv

end

end Wanderust.Cli
