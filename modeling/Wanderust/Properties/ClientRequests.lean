import Wanderust.Client.Turns

/-!
# What the client sends

In any interleaving of the three tasks of the client, and with any server, the
requests name only what the server has sent before, and a trip that has been
ended is left alone, but for one sample that is under way.
-/

namespace Wanderust

open Interleaving Cli Logs

/-! # A sample that is late -/

/-- Numerals without a point are read as integers are. -/
noncomputable instance : ParseF64 ℝ where
  parse cs := (parseI64 cs).map fun n => (n : ℝ)

def clientSteps (i : TaskId) (n : Nat) : List (Cli.Label ℝ) :=
  List.replicate n (.step i { fails := false, now := 100 })

/-- The end of trip 7 is typed while a sample of it is under way. -/
def lateSample : List (Cli.Label ℝ) :=
  .start .receiver (.message (.authOk "t1")) :: clientSteps .receiver 1 ++
  .start .main (.line "/start 45 9") :: clientSteps .main 5 ++
  .start .receiver (.message (.tripStarted 7 45 9 100)) :: clientSteps .receiver 1 ++
  .start .autopos () :: clientSteps .autopos 3 ++
  .start .main (.line "/end") :: clientSteps .main 6 ++ clientSteps .autopos 3

noncomputable def lateClient : Client ℝ :=
  Interleaving.after Client.next (fun _ _ => true) Client.initial lateSample

theorem lateClient_reachable : Cli.Reachable lateClient :=
  reach_after (fun _ _ _ => trivial) _ _

/-! # All runs -/

/-- Every token and every trip of a request has come from the server before. -/
theorem client_request_backed {F : Type} [Geo F] [ParseF64 F] (client : Client F)
    (h : Cli.Reachable client) (before after : List (Cli.Event F)) (i : TaskId)
    (msg : Message F) (hsent : client.state.history = before ++ .sent i msg :: after) :
    (forall t, msg.token? = some t ->
      .received (.authOk t) ∈ before ∨ msg = .disconnect "") ∧
    (forall tripId, msg.tripId? = some tripId ->
      exists lat lon ts, .received (.tripStarted tripId lat lon ts) ∈ before) := by
  have hbacked : Backed before msg := (clientInv_reachable h).backed before _ after hsent
  exact ⟨hbacked.token, hbacked.trip⟩

theorem client_request_backed_late :
    exists msg : Message ℝ, msg.tripId? = some 7 ∧
      (forall t, msg.token? = some t ->
        .received (.authOk t) ∈ lateClient.state.history.dropLast ∨ msg = .disconnect "") ∧
      (forall tripId, msg.tripId? = some tripId -> exists lat lon ts,
        .received (.tripStarted tripId lat lon ts) ∈ lateClient.state.history.dropLast) :=
  ⟨.position "t1" 7 _ _ 100, rfl, client_request_backed lateClient lateClient_reachable
    lateClient.state.history.dropLast [] .autopos _ rfl⟩

/-- No trip is ended more often than it has been started. -/
theorem client_ends_le_starts {F : Type} [Geo F] [ParseF64 F] (client : Client F)
    (h : Cli.Reachable client) (tripId : Int) :
    client.state.history.countP (Event.isEnd tripId) ≤
      client.state.history.countP (Event.isStart tripId) := by
  have hinv := clientInv_reachable h
  have hcredit := hinv.credit tripId
  have hstored := hinv.stored tripId
  unfold State.ends State.stored State.starts at *
  omega

theorem client_ends_le_starts_late :
    lateClient.state.history.countP (Event.isEnd 7) ≤
        lateClient.state.history.countP (Event.isStart 7) ∧
      lateClient.state.history.countP (Event.isEnd 7) = 1 :=
  ⟨client_ends_le_starts lateClient lateClient_reachable 7, rfl⟩

/-- After the end of a trip `main` sends nothing for it, and one sample at most is late. -/
theorem client_after_end {F : Type} [Geo F] [ParseF64 F] (client : Client F)
    (h : Cli.Reachable client) (tripId : Int)
    (honce : client.state.history.countP (Event.isStart tripId) ≤ 1) :
    (since (Event.isEnd tripId) client.state.history).countP (Event.isSample tripId) ≤ 1 ∧
      forall msg, .sent .main msg ∈ since (Event.isEnd tripId) client.state.history ->
        msg.tripId? ≠ some tripId := by
  have hinv := clientInv_reachable h
  refine ⟨hinv.late tripId honce, ?_⟩
  intro msg hmem htrip
  have hnone := List.countP_eq_zero.mp (hinv.lateRequests tripId honce) _ hmem
  exact hnone (isMainRequest_iff.mpr ⟨rfl, htrip⟩)

/-- The bound is reached: the sample that was under way is sent after the end. -/
theorem client_after_end_late :
    ((since (Event.isEnd 7) lateClient.state.history).countP (Event.isSample 7) ≤ 1 ∧
      forall msg, .sent .main msg ∈ since (Event.isEnd 7) lateClient.state.history ->
        msg.tripId? ≠ some 7) ∧
    (since (Event.isEnd 7) lateClient.state.history).countP (Event.isSample 7) = 1 :=
  ⟨client_after_end lateClient lateClient_reachable 7 (by decide), rfl⟩

end Wanderust
