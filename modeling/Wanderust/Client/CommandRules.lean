import Wanderust.Client.Rules

/-!
# The commands keep the books

A message that a command makes is ready to be sent: its token and its trip have
come from the server, and the trip has not been spent.
-/

namespace Wanderust.Cli

open Interleaving Prog Logs

variable {F : Type} {c : TaskId} {P : State F -> Prop} {s s' : State F} {i : Int}
variable {msg : Message F}

/-! # What has been read -/

def Known (token : String) (s : State F) : Prop := .received (.authOk token) ∈ s.history

/-- The trip has come from the server, and `main` may still end it. -/
structure Held (i : Int) (s : State F) : Prop where
  trip : exists lat lon ts, .received (.tripStarted i lat lon ts) ∈ s.history
  open_ : s.ends i < s.stored i

theorem Known.env {token : String} (h : Known token s) (hrely : ClientRely c s s') :
    Known token s' :=
  hrely.kept _ h

theorem Held.env (h : Held i s) (hrely : ClientRely .main s s') : Held i s' where
  trip := by
    rcases h.trip with ⟨lat, lon, ts, hmem⟩
    exact ⟨lat, lon, ts, hrely.kept _ hmem⟩
  open_ := by
    have hopen := h.open_
    have hmain := hrely.main rfl i
    have hstored := hrely.stored i
    omega

theorem known_held_env {t : String} (h : Known t s ∧ Held i s) (hrely : ClientRely .main s s') :
    Known t s' ∧ Held i s' :=
  ⟨h.1.env hrely, h.2.env hrely⟩

theorem held_of_trip (hinv : ClientInv s) (htrip : s.trip = some i) : Held i s where
  trip := hinv.trip i htrip
  open_ := by
    have hcredit := hinv.credit i
    rw [State.holds, if_pos htrip] at hcredit
    omega

/-- A message that has been parsed is ready. -/
def ParsedReady (r : Parsed F) (s : State F) : Prop :=
  forall msg, r = .message msg -> Ready msg s

theorem parsedReady_nothing : ParsedReady .nothing s := fun _ h => (by cases h)

theorem parsedReady_panicked : ParsedReady .panicked s := fun _ h => (by cases h)

theorem parsedReady_message (htoken : forall t, msg.token? = some t -> Known t s)
    (htrip : msg.tripId? = none) : ParsedReady (.message msg) s := by
  intro msg' h
  cases h
  refine ⟨⟨fun t ht => Or.inl (htoken t ht), ?_⟩, ?_⟩
  · intro i hi
    rw [htrip] at hi
    cases hi
  · intro i hi
    rw [htrip] at hi
    cases hi

theorem parsedReady_held {t : String} (htoken : Known t s) (hheld : Held i s)
    (hmsg : msg.token? = some t) (htrip : msg.tripId? = some i) :
    ParsedReady (.message msg) s := by
  intro msg' h
  cases h
  refine ⟨⟨?_, ?_⟩, ?_⟩
  · intro t' ht'
    rw [hmsg] at ht'
    cases ht'
    exact Or.inl htoken
  · intro i' hi'
    rw [htrip] at hi'
    cases hi'
    exact hheld.trip
  · intro i' hi'
    rw [htrip] at hi'
    cases hi'
    exact hheld.open_

/-! # What is written -/

theorem fits_setTrip (hinv : ClientInv s) (trip : Option Int)
    (htold : forall i, trip = some i -> Told i s) :
    Fits (.tripSet trip) s ({ s with trip }.log (.tripSet trip)) where
  grown := rfl
  token := rfl
  backs := trivial
  trip := by
    intro i hi
    rcases (htold i hi).trip with ⟨lat, lon, ts, hmem⟩
    exact ⟨lat, lon, ts, List.mem_append_left _ hmem⟩
  credit := by
    intro i
    have hgrown : Grown s ({ s with trip }.log (.tripSet trip)) (.tripSet trip) := rfl
    have hcredit := hinv.credit i
    rw [hgrown.ends, hgrown.stored]
    cases trip with
    | none =>
        simp only [Event.isEnd, Event.isStored, State.holds, State.log]
        simp
        omega
    | some j =>
        by_cases hj : j = i
        · simp [Event.isEnd, Event.isStored, State.holds, State.log, hj]
          omega
        · simp [Event.isEnd, Event.isStored, State.holds, State.log, hj]
          omega
  stored := by
    intro i
    have hgrown : Grown s ({ s with trip }.log (.tripSet trip)) (.tripSet trip) := rfl
    have hstored := hinv.stored i
    rw [hgrown.starts, hgrown.stored]
    cases trip with
    | none => simpa [Event.isStart, Event.isStored] using hstored
    | some j =>
        by_cases hj : j = i
        · subst hj
          simpa [Event.isStart, Event.isStored] using (htold j rfl).unstored
        · simpa [Event.isStart, Event.isStored, hj] using hstored
  late := fun _ h => (by cases h)
  lateRequests := fun _ h => (by cases h)

section

variable [Geo F]

/-! # Single operations -/

theorem client_getToken (hstable : forall s s', P s -> ClientRely c s s' -> P s') :
    ClientTriple c P (act .getToken) (fun r s => P s ∧ forall t, r = some t -> Known t s) := by
  apply client_quiet quiet_getToken hstable
  intro ch r s s' hinv hs _ hexec
  cases hexec
  exact ⟨hs, hinv.token⟩

theorem client_getTrip (hstable : forall s s', P s -> ClientRely c s s' -> P s') :
    ClientTriple c P (act .getTrip)
      (fun r s => P s ∧ ClientInv s ∧ forall i, r = some i -> s.trip = some i) := by
  apply client_quiet quiet_getTrip hstable
  intro ch r s s' hinv hs _ hexec
  cases hexec
  exact ⟨hs, hinv, fun _ h => h⟩

theorem client_skip {o : Op F} (hquiet : o.Quiet)
    (hstable : forall s s', P s -> ClientRely c s s' -> P s') :
    ClientTriple c P (act o) (fun _ s => P s) :=
  client_quiet hquiet hstable fun _ _ _ _ _ hs _ _ => hs

/-! # The commands -/

/-- A triple of `main` for a command. -/
abbrev CommandTriple (P : State F -> Prop) (p : Program F (Parsed F)) : Prop :=
  ClientTriple .main P p ParsedReady

theorem command_return {r : Parsed F} (h : forall s, P s -> ParsedReady r s) :
    CommandTriple P (.pure r) :=
  Setting.triple_pure fun s _ hs => h s hs

theorem command_requireToken {body : String -> Program F (Parsed F)}
    (hbody : forall t, CommandTriple (Known t) (body t)) :
    CommandTriple (fun _ => True) (requireToken body) := by
  apply Setting.triple_bind (client_getToken fun _ _ h _ => h)
  intro r
  cases r with
  | some t => exact Setting.triple_conseq (hbody t) (fun s _ h => h.2 t rfl) fun _ _ h => h
  | none => exact command_return fun _ _ => parsedReady_nothing

theorem command_requireTrip {t : String} {body : Int -> Program F (Parsed F)}
    (hbody : forall i, CommandTriple (fun s => Known t s ∧ Held i s) (body i)) :
    CommandTriple (Known t) (requireTrip body) := by
  apply Setting.triple_bind (client_getTrip fun _ _ h hrely => Known.env h hrely)
  intro r
  cases r with
  | some i =>
      apply Setting.triple_conseq (hbody i) ?_ fun _ _ h => h
      intro s _ h
      exact ⟨h.1, held_of_trip h.2.1 (h.2.2 i rfl)⟩
  | none => exact command_return fun _ _ => parsedReady_nothing

theorem command_skip {o : Op F} {next : o.Ret -> Program F (Parsed F)} (hquiet : o.Quiet)
    (hstable : forall s s', P s -> ClientRely .main s s' -> P s')
    (hnext : forall r, CommandTriple P (next r)) : CommandTriple P ((act o).bind next) :=
  Setting.triple_bind (client_skip hquiet hstable) hnext

variable (rest : List Char)

theorem command_credentials {message : String -> String -> Message F}
    (htoken : forall u p, (message u p).token? = none)
    (htrip : forall u p, (message u p).tripId? = none) :
    CommandTriple (fun _ => True) (.pure (credentials rest message)) := by
  apply command_return
  intro s _
  unfold credentials
  split
  · apply parsedReady_message ?_ (htrip _ _)
    intro t ht
    rw [htoken] at ht
    cases ht
  · exact parsedReady_nothing

theorem command_start [ParseF64 F] :
    CommandTriple (fun _ => True) (startCommand rest : Program F _) := by
  apply command_requireToken
  intro t
  apply command_skip (quiet_setPos _ _) fun _ _ h hrely => Known.env h hrely
  intro _
  apply command_skip (quiet_setAutopos _) fun _ _ h hrely => Known.env h hrely
  intro _
  apply command_skip quiet_nowSecs fun _ _ h hrely => Known.env h hrely
  intro ts
  apply command_return
  intro s hs
  exact parsedReady_message (fun t' ht' => by cases ht'; exact hs) rfl

theorem command_pos [ParseF64 F] :
    CommandTriple (fun _ => True) (posCommand rest : Program F _) := by
  apply command_requireToken
  intro t
  apply command_requireTrip
  intro i
  split
  · apply command_skip (quiet_setPos _ _) fun _ _ h hrely => known_held_env h hrely
    intro _
    exact command_return fun s hs => parsedReady_held hs.1 hs.2 rfl rfl
  · exact command_return fun _ _ => parsedReady_nothing

theorem command_stats : CommandTriple (fun _ => True) (statsCommand rest : Program F _) := by
  apply command_requireToken
  intro t
  apply command_skip quiet_nowSecs fun _ _ h hrely => Known.env h hrely
  intro now
  split
  · apply command_return
    intro s hs
    exact parsedReady_message (fun t' ht' => by cases ht'; exact hs) rfl
  · exact command_return fun _ _ => parsedReady_nothing
  · exact command_return fun _ _ => parsedReady_panicked

theorem command_statsRange :
    CommandTriple (fun _ => True) (statsRangeCommand rest : Program F _) := by
  apply command_requireToken
  intro t
  split
  · apply command_return
    intro s hs
    exact parsedReady_message (fun t' ht' => by cases ht'; exact hs) rfl
  · exact command_return fun _ _ => parsedReady_nothing

theorem command_end : CommandTriple (fun _ => True) (endCommand : Program F _) := by
  apply command_requireToken
  intro t
  apply command_requireTrip
  intro i
  apply command_skip quiet_nowSecs fun _ _ h hrely => known_held_env h hrely
  intro ts
  exact command_return fun s hs => parsedReady_held hs.1 hs.2 rfl rfl

theorem command_chat : CommandTriple (fun _ => True) (chatCommand rest : Program F _) := by
  unfold chatCommand
  split
  · exact command_return fun _ _ => parsedReady_nothing
  · apply command_requireToken
    intro t
    apply command_return
    intro s hs
    exact parsedReady_message (fun t' ht' => by cases ht'; exact hs) rfl

theorem command_quit : CommandTriple (fun _ => True) (quitCommand : Program F _) := by
  apply Setting.triple_bind (client_getToken fun _ _ h _ => h)
  intro r
  apply command_return
  intro s hs msg hmsg
  cases hmsg
  refine ⟨⟨?_, fun i hi => (by cases hi)⟩, fun i hi => (by cases hi)⟩
  intro t ht
  cases r with
  | none => exact Or.inr rfl
  | some t0 =>
      cases ht
      exact Or.inl (hs.2 t0 rfl)

theorem command_parseCmd [ParseF64 F] (line : List Char) :
    CommandTriple (fun _ => True) (parseCmd line : Program F _) := by
  unfold parseCmd
  dsimp only
  split
  · exact command_credentials _ (fun _ _ => rfl) fun _ _ => rfl
  · exact command_credentials _ (fun _ _ => rfl) fun _ _ => rfl
  · exact command_start _
  · exact command_pos _
  · exact command_stats _
  · exact command_statsRange _
  · exact command_end
  · exact command_chat _
  · exact command_quit
  · exact command_return fun _ _ => parsedReady_nothing

end

end Wanderust.Cli
