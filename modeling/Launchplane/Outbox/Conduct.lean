import Launchplane.Outbox.World

/-!
# Launchplane.Outbox.Conduct

**How a worker's programs keep to the protocol**: the rules for the parts they
share. A part that only reads leaves the stage alone (`conducts_quiet`), and a marker
is asked for once (`conducts_markProviderStarted`). A report that still has a marker is
always allowed (`Reports.of_key`), which settles most ways out of a handler.
-/

namespace Launchplane.Outbox

open Launchplane.Interaction

/-- The calls of no consequence for the protocol. -/
def OutboxCall.Quiet : OutboxCall → Prop
  | .claim .. | .mark .. | .complete .. | .startDispatch .. | .dispatchAnswer _ | .startWebhook ..
  | .webhookAnswer _ | .otherHandler _ => False
  | _ => True

theorem OutboxCall.Quiet.allowed {w : LeaseOwner} {stage : WorkerStage} {call : OutboxCall}
    (h : call.Quiet) : (outboxProtocol w).Allowed stage call := by
  cases call <;> trivial

theorem OutboxCall.Quiet.next {w : LeaseOwner} {stage : WorkerStage} {call : OutboxCall}
    (h : call.Quiet) (answer : Fallible OutboxError OutboxResponse call) :
    (outboxProtocol w).next stage call answer = stage := by
  cases call <;> first | rfl | exact h.elim

/-- `_mark_provider_started`. -/
def markProviderStarted (leaseOwner : String) (record : OutboxDeliveryRecord)
    (providerOperationKey providerId : String) : WorkerProgram Unit := do
  let update : OutboxCompletion ← ask (.mark record leaseOwner providerOperationKey providerId)
  if update.status = .notificationStateChanged then throw .superseded
  else if update.status ≠ .updated then throw (.other "outbox_provider_marker_not_recorded")
  else return ()

/-- A record with another outcome, of the same claim. -/
structure CopyOf (copy record : OutboxDeliveryRecord) : Prop where
  id : record.deliveryId = copy.deliveryId
  kind : record.kind = copy.kind
  attempt : record.attempt = copy.attempt
  maxAttempts : record.maxAttempts = copy.maxAttempts

theorem CopyOf.trans {a b c : OutboxDeliveryRecord} (h : CopyOf a b) (h' : CopyOf b c) :
    CopyOf a c :=
  ⟨h'.id.trans h.id, h'.kind.trans h.kind, h'.attempt.trans h.attempt,
    h'.maxAttempts.trans h.maxAttempts⟩

theorem copyOf_retry (record : OutboxDeliveryRecord) (errorCode : String) :
    CopyOf record (retryOutboxDelivery record errorCode) := ⟨rfl, rfl, rfl, rfl⟩

namespace WorkerStage.Reports

variable {stage : WorkerStage} {copy record : OutboxDeliveryRecord}

theorem of_key (h : CopyOf copy record) (hkey : pyStrip record.providerOperationKey ≠ "") :
    stage.Reports copy record :=
  ⟨h.id, h.kind, h.attempt, h.maxAttempts, fun _ _ hempty => absurd hempty hkey⟩

theorem of_terminal (h : CopyOf copy record) (hterminal : record.state.Terminal) :
    stage.Reports copy record :=
  ⟨h.id, h.kind, h.attempt, h.maxAttempts, fun _ hopen => absurd hterminal hopen⟩

theorem of_unsent (h : CopyOf copy record) (hunsent : stage.Unsent) : stage.Reports copy record :=
  ⟨h.id, h.kind, h.attempt, h.maxAttempts, fun _ _ _ => hunsent⟩

/-- A worker that asked for nothing may report its own copy. -/
theorem of_holding (h : CopyOf copy record)
    (hkey : record.providerOperationKey = copy.providerOperationKey) :
    (holding copy).Reports copy record :=
  ⟨h.id, h.kind, h.attempt, h.maxAttempts, fun _ _ hempty => by rwa [hkey] at hempty⟩

end WorkerStage.Reports

variable {w : LeaseOwner} {α : Type}

/-- A part that only reads. -/
theorem conducts_quiet {p : WorkerProgram α} {Q : α → Prop} {stage : WorkerStage}
    (honly : Act.Only OutboxCall.Quiet p) (hgives : Act.Gives Q p) :
    (outboxProtocol w).Conducts p (fun a s => s = stage ∧ Q a) (fun _ s => s = stage) stage :=
  Protocol.conducts_of_only honly hgives (fun _ h => h.allowed) fun _ answer h => h.next answer

theorem conducts_ask {call : OutboxCall} {Q : OutboxResponse call → WorkerStage → Prop}
    {X : OutboxError → WorkerStage → Prop} {stage : WorkerStage} :
    (outboxProtocol w).Conducts (ask call) Q X stage ↔
      (outboxProtocol w).Allowed stage call ∧
        (∀ a, Q a ((outboxProtocol w).next stage call (.ok a))) ∧
        ∀ e, X e ((outboxProtocol w).next stage call (.error e)) :=
  Protocol.conducts_perform

/-- The marker is stored, or the worker knows no more than that it asked for it. -/
theorem conducts_markProviderStarted {copy record : OutboxDeliveryRecord} {key providerId : String}
    {leaseOwner : String} (howner : pyStrip leaseOwner = w.text) (hkind : copy.kind.SentOnce)
    (hkey : copy.providerOperationKey = "") (hid : record.deliveryId = copy.deliveryId) :
    (outboxProtocol w).Conducts (markProviderStarted leaseOwner record key providerId)
      (fun _ s => s = .marked copy) (fun _ s => s = .unsure copy) (.holding copy) := by
  unfold markProviderStarted
  rw [Protocol.conducts_bind, conducts_ask]
  refine ⟨⟨copy, rfl, hkind, hkey, hid, howner⟩, ?_, fun e => rfl⟩
  rintro ⟨status, row⟩
  cases status <;> simp [outboxProtocol]

end Launchplane.Outbox
