import Launchplane.Outbox.NotificationConduct
import Launchplane.Outbox.WorkflowDispatch

/-!
# Launchplane.Outbox.Worker

**One round of an outbox worker**: claim a delivery, hand it to the handler of
its kind, and complete it with what the handler reports. An exception of a handler
that reaches the round ends it; the lease of the delivery then runs out.
-/

namespace Launchplane.Outbox

open Launchplane.Interaction

/-- `OutboxWorkerStepResult`. -/
structure OutboxWorkerStepResult where
  status : String
  deliveryId : String := ""
  kind : String := ""
  errorCode : String := ""
  deriving Repr, DecidableEq

/-- A kind whose handler marks the record by itself. -/
def deliverOther (record : OutboxDeliveryRecord) : WorkerProgram OutboxDeliveryRecord := do
  let result : HandlerResult ← ask (.otherHandler record)
  return { record with
    state := result.state
    action := result.action
    errorCode := result.errorCode
    providerOperationKey := result.providerOperationKey
    providerId := result.providerId
    leaseOwner := ""
    leaseExpiresAt := none }

/-- The handler of a delivery's kind. -/
def deliver (leaseOwner : String) (record : OutboxDeliveryRecord) :
    WorkerProgram OutboxDeliveryRecord :=
  match record.kind with
  | .githubWorkflowDispatch => dispatchWorkflowDelivery record (markProviderStarted leaseOwner)
  | .publicIngressNotification => deliverNotification record (markProviderStarted leaseOwner)
  | .releaseDigest => deliverOther record
  | .discussionReminder => deliverOther record
  | .operatorAuthorizationRecoveryAlert =>
    return { record with
      state := .delivered
      action := "recorded_local_authorization_recovery_alert"
      errorCode := "" }

/-- `run_outbox_worker_once`. -/
def runOutboxWorkerOnce (leaseOwner : String) (leaseSeconds : Int) :
    WorkerProgram OutboxWorkerStepResult := do
  let claim : Option OutboxDeliveryRow ← ask (.claim leaseOwner leaseSeconds)
  match claim with
  | none => return { status := "idle" }
  | some row =>
    let result ← deliver leaseOwner row.record
    let completion : OutboxCompletion ← ask (.complete result leaseOwner)
    let completed := (completion.record.map OutboxDeliveryRow.record).getD result
    if completion.status ≠ .updated then
      return { status := "completion_failed", deliveryId := row.record.deliveryId
               kind := row.record.kind.text, errorCode := completion.status.text }
    else
      return { status := completed.state.text, deliveryId := completed.deliveryId
               kind := completed.kind.text, errorCode := completed.errorCode }

/-! ### The protocol -/

variable {w : LeaseOwner}

theorem deliverOther_conducts {copy : OutboxDeliveryRecord} (hkind : ¬ copy.kind.SentOnce) :
    (outboxProtocol w).Conducts (deliverOther copy)
      (fun result stage => stage.copy = some copy ∧ stage.Reports copy result)
      (fun _ _ => True) (.holding copy) := by
  unfold deliverOther
  rw [Protocol.conducts_bind, conducts_ask]
  refine ⟨⟨rfl, hkind⟩, fun result => ?_, fun _ => trivial⟩
  exact (Protocol.conducts_pure _).mpr
    ⟨rfl, rfl, rfl, rfl, rfl, fun hsentOnce => absurd hsentOnce hkind⟩

theorem deliver_conducts {leaseOwner : String} (howner : pyStrip leaseOwner = w.text)
    (copy : OutboxDeliveryRecord) :
    (outboxProtocol w).Conducts (deliver leaseOwner copy)
      (fun result stage => stage.copy = some copy ∧ stage.Reports copy result)
      (fun _ _ => True) (.holding copy) := by
  unfold deliver
  split
  · rename_i hkind
    exact Protocol.conducts_mono (dispatchWorkflowDelivery_conducts howner hkind) (fun _ _ h => h)
      (fun _ _ _ => trivial)
  · rename_i hkind
    exact deliverNotification_conducts howner hkind
  · rename_i hkind
    exact deliverOther_conducts (by simp [OutboxDeliveryKind.SentOnce, hkind])
  · rename_i hkind
    exact deliverOther_conducts (by simp [OutboxDeliveryKind.SentOnce, hkind])
  · exact (Protocol.conducts_pure _).mpr
      ⟨rfl, .of_terminal ⟨rfl, rfl, rfl, rfl⟩ (.inl rfl)⟩

/-- **A round of a worker keeps to the protocol.** -/
theorem runOutboxWorkerOnce_conducts {leaseOwner : String}
    (howner : pyStrip leaseOwner = w.text) (leaseSeconds : Int) :
    (outboxProtocol w).Conducts (runOutboxWorkerOnce leaseOwner leaseSeconds)
      (fun _ _ => True) (fun _ _ => True) .idle := by
  unfold runOutboxWorkerOnce
  rw [Protocol.conducts_bind, conducts_ask]
  refine ⟨⟨rfl, howner⟩, ?_, fun _ => trivial⟩
  intro claim
  cases claim with
  | none => exact (Protocol.conducts_pure _).mpr trivial
  | some row =>
      dsimp only
      rw [Protocol.conducts_bind]
      refine Protocol.conducts_mono (deliver_conducts howner row.record) ?_ (fun _ _ h => h)
      rintro result stage ⟨hstage, hreports⟩
      rw [Protocol.conducts_bind, conducts_ask]
      refine ⟨⟨row.record, hstage, hreports, howner⟩, ?_, fun _ => trivial⟩
      intro completion
      split <;> exact (Protocol.conducts_pure _).mpr trivial

/-- The programs a worker runs: rounds under its lease owner, however that is spaced. -/
def WorkerStarts (w : LeaseOwner)
    (p : Prog (Fallible OutboxError OutboxResponse) (Except OutboxError OutboxWorkerStepResult)) :
    Prop :=
  ∃ leaseOwner leaseSeconds, pyStrip leaseOwner = w.text ∧
    p = (runOutboxWorkerOnce leaseOwner leaseSeconds).run

theorem workerStarts_follows (w : LeaseOwner)
    (p : Prog (Fallible OutboxError OutboxResponse) (Except OutboxError OutboxWorkerStepResult))
    (h : WorkerStarts w p) : (outboxProtocol w).Follows p .idle := by
  obtain ⟨leaseOwner, leaseSeconds, howner, rfl⟩ := h
  exact Protocol.follows_of_conducts (runOutboxWorkerOnce_conducts howner leaseSeconds)

end Launchplane.Outbox
