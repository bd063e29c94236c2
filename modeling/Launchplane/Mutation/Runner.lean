import Launchplane.Interaction.Pool
import Launchplane.Mutation.Store

/-!
# Launchplane.Mutation.Runner

**The runner of provider operations.** A call reserves its target, lets the
adapter change it, and records the outcome. What stands in the way of that is
left as a reservation that has to be reconciled: whoever comes next observes the
provider first, and takes over only where the effect is absent.

The adapter is any program over the lease it is given. The thread that renews the
lease meanwhile takes the same lock as the adapter's own calls, so what the two
do together is what some such program does.
-/

namespace Launchplane.Mutation

open Interaction

/-! ### Adapters -/

/-- `ProviderObservationOutcome`. -/
inductive ObservationOutcome
  | present | absent | unknown
  deriving Repr, DecidableEq

/-- `ProviderObservation`; `bindingEvidence` is whether the records of `expected_binding_evidence`
are the stored ones, where there are any. -/
structure ProviderObservation where
  outcome : ObservationOutcome
  responseStatusCode : Nat := 202
  responsePayload : Payload := []
  retrySafe : Bool := false
  preserveEffectCheckpoint : Bool := false
  bindingEvidence : Option Bool := none
  deriving Repr, DecidableEq

/-- `ProviderMutationOutcome`. -/
structure ProviderMutationOutcome where
  responseStatusCode : Nat
  responsePayload : Payload := []
  durable : Bool := true
  providerEffectPerformed : Bool := true
  deriving Repr, DecidableEq

/-- What a provider operation key is the digest of. -/
structure ProviderOperationKey where
  key : ReservationKey
  requestFingerprint : String
  reconciliationKey : String
  deriving Repr, DecidableEq

/-- The exceptions that the runner tells apart. -/
inductive OperationError
  | leaseLost (status : String)
  | rejected (cause : String)
  | unknown
  | checkpoint
  | admissionRefused (cause : String)
  | error (message : String)
  deriving Repr, DecidableEq

instance nonemptyOperationError : Nonempty OperationError := ⟨.unknown⟩

/-- The calls of an adapter: its lease, and the provider. -/
inductive LeaseCall
  | assertCurrent
  | checkpointEffect (phase : String)
  | evidenceReservation
  | dispatch (request : String)

/-- What a call of an adapter returns. -/
def LeaseResponse : LeaseCall → Type
  | .assertCurrent | .checkpointEffect _ => Unit
  | .evidenceReservation => IdempotencyRecord
  | .dispatch _ => Payload

/-- A program of an adapter. -/
abbrev AdapterProgram : Type :=
  Prog (Fallible OperationError LeaseResponse) (Except OperationError ProviderMutationOutcome)

/-- `DurableProviderMutationAdapter`; what it observes is the answer of a call. -/
structure ProviderAdapter where
  targetKey : String
  reconciliationKey : String
  apply : ProviderOperationKey → AdapterProgram

/-- `build_provider_operation_key`. -/
@[irreducible] def buildProviderOperationKey (key : ReservationKey) (requestFingerprint reconciliationKey : String) :
    Except OperationError ProviderOperationKey :=
  let texts := [key.scope, key.routePath, key.idempotencyKey, requestFingerprint,
    reconciliationKey].map pyStrip
  if texts.any fun text => [] ∈ text.toList.splitOn '\x1f' then
    .error (.error "Provider operation keys require complete durable identity.")
  else .ok {
    key := ⟨pyStrip key.scope, pyStrip key.routePath, pyStrip key.idempotencyKey⟩
    requestFingerprint := pyStrip requestFingerprint
    reconciliationKey := pyStrip reconciliationKey }

/-! ### Calls -/

/-- The calls of the runner. -/
inductive OperationCall
  | insertReservation (request : ReserveRequest)
  | resolveCollision (request : ReserveRequest)
  | readOriginalIntent (reservation : IdempotencyRecord)
  | supersede (supersession : MutationStore.SupersessionRequest) (request : ReserveRequest)
  | release (reservation : IdempotencyRecord)
  | renew (reservation : IdempotencyRecord) (leaseSeconds : Nat)
  | checkpoint (reservation : IdempotencyRecord) (phase : String) (leaseSeconds : Nat)
  | markReconcileRequired (reservation : IdempotencyRecord) (reconciliationKey : String)
  | complete (completion : IdempotencyRecord)
  | adopt (reservation : IdempotencyRecord) (response : MutationStore.Response)
      (expectedOriginalIntent : Option Payload) (bindingEvidence : Option Bool)
  | retry (reservation : IdempotencyRecord) (leaseOwner : String) (leaseSeconds : Nat)
      (preserveEffectCheckpoint : Bool)
  | observe (operation : ProviderOperationKey) (phase : String) (effectStartedAt : Option Nat)
  | quiescent (reservation : IdempotencyRecord)
  | retainEffectCustody (reservation : IdempotencyRecord)
  | dispatch (request : String)
  | persist (reservation : IdempotencyRecord)

/-- What a call of the runner returns. -/
def OperationResponse : OperationCall → Type
  | .insertReservation _ | .resolveCollision _ => Option MutationResult
  | .readOriginalIntent _ | .dispatch _ => Payload
  | .observe .. => ProviderObservation
  | .quiescent _ | .retainEffectCustody _ => Bool
  | .persist _ => IdempotencyRecord
  | _ => MutationResult

/-- A program of the runner. -/
abbrev OperationProgram (α : Type) : Type :=
  Act (Fallible OperationError OperationResponse) OperationError α

/-- Perform a call. -/
def ask (call : OperationCall) : OperationProgram (OperationResponse call) := Act.perform call

/-- Perform a call and keep the exception it may raise. -/
def askCaught (call : OperationCall) :
    OperationProgram (Except OperationError (OperationResponse call)) :=
  tryCatch (do return .ok (← ask call)) fun error => return .error error

/-! ### The lease -/

/-- `_ReservationHeartbeat`. -/
structure Heartbeat where
  reservation : IdempotencyRecord
  failureStatus : String := ""
  deriving Repr, DecidableEq

namespace Heartbeat

/-- What a write under the lease tells the adapter. -/
def afterUpdate (heartbeat : Heartbeat) :
    Except OperationError MutationResult → Except OperationError Unit × Heartbeat
  | .error (.admissionRefused cause) => (.error (.error cause), heartbeat)
  | .error _ => (.error (.leaseLost "error"), { heartbeat with failureStatus := "error" })
  | .ok result =>
      match result.status, result.record with
      | .updated, some record => (.ok (), ⟨record, ""⟩)
      | _, _ => (.error (.leaseLost "refused"), { heartbeat with failureStatus := "refused" })

/-- A call of the adapter, with the lease it leaves. -/
def perform (heartbeat : Heartbeat) (leaseSeconds : Nat) : (call : LeaseCall) →
    OperationProgram (Fallible OperationError LeaseResponse call × Heartbeat)
  | .assertCurrent => do
      let renewal ← askCaught (.renew heartbeat.reservation leaseSeconds)
      return heartbeat.afterUpdate renewal
  | .checkpointEffect phase =>
      if pyStrip phase = "" then
        return (.error (.error "Provider effect checkpoints require a phase."), heartbeat)
      else do
        let checkpoint ← askCaught (.checkpoint heartbeat.reservation (pyStrip phase) leaseSeconds)
        return heartbeat.afterUpdate checkpoint
  | .evidenceReservation => return (.ok heartbeat.reservation, heartbeat)
  | .dispatch request => do
      let answer ← askCaught (.dispatch request)
      return (answer, heartbeat)

/-- An adapter's program, under the lease. -/
def conduct {α : Type} (leaseSeconds : Nat) :
    Prog (Fallible OperationError LeaseResponse) α → Heartbeat → OperationProgram (α × Heartbeat)
  | .ret a, heartbeat => return (a, heartbeat)
  | .call i k, heartbeat => do
      let next ← heartbeat.perform leaseSeconds i
      conduct leaseSeconds (k next.1) next.2

end Heartbeat

/-! ### Results -/

/-- `DurableProviderOperationStatus`. -/
inductive OperationStatus
  | completed | unstored | adopted | replayed | conflict | targetBusy | inProgress
  | reconcileRequired | checkpointed
  deriving Repr, DecidableEq

/-- `DurableProviderOperationResult`. -/
structure OperationResult where
  status : OperationStatus
  record : Option IdempotencyRecord
  responseStatusCode : Nat
  responsePayload : Payload := []
  originalTraceId : String := ""
  deriving Repr, DecidableEq

/-- `_reconcile_required_payload`. -/
def reconcileRequiredPayload : Payload :=
  let description :=
    "The provider outcome is unknown; reconciliation is required before retrying."
  [("result.status", "fail"), ("result.error_code", "reconcile_required"),
    ("result.error_description", description), ("result.error_message", description)]

/-- What is left to reconcile. -/
def OperationResult.unknown (record : Option IdempotencyRecord) : OperationResult :=
  ⟨.reconcileRequired, record, 409, reconcileRequiredPayload, ""⟩

/-- `_replayed_result`. -/
def replayedResult : Option IdempotencyRecord → Except OperationError OperationResult
  | none => .error (.error "Replayed mutation reservation requires a stored record.")
  | some record => .ok ⟨.replayed, some record, record.responseStatusCode.getD 202,
      record.responsePayload, record.responseTraceId⟩

/-! ### Applying -/

/-- `_mark_reconcile_required`. -/
def markReconcileRequired (reservation : IdempotencyRecord) (reconciliationKey : String) :
    OperationProgram OperationResult := do
  let transition : MutationResult ← ask (.markReconcileRequired reservation reconciliationKey)
  if transition.record.any (·.state = .completed) then Act.ofExcept (replayedResult transition.record)
  else if transition.status = .missing then
    throw (.error "Provider operation state disappeared during reconciliation.")
  else return .unknown (transition.record.or (some reservation))

/-- `_adopt_reconciled_result`. -/
def adoptReconciledResult (reservation : IdempotencyRecord) (response : MutationStore.Response)
    (originalIntent : Option Payload) (bindingEvidence : Option Bool) :
    OperationProgram (Option OperationResult × Option IdempotencyRecord) := do
  let adoption : MutationResult ← ask (.adopt reservation response originalIntent bindingEvidence)
  if adoption.status = .adopted then
    return (some ⟨.adopted, adoption.record, response.statusCode, response.payload, ""⟩,
      adoption.record)
  else if adoption.status = .replayed then do
    let replayed ← Act.ofExcept (replayedResult adoption.record)
    return (some replayed, adoption.record)
  else return (none, adoption.record)

/-- `_complete_or_adopt_outcome`. -/
def completeOrAdoptOutcome (reservation : IdempotencyRecord) (traceId : String)
    (outcome : ProviderMutationOutcome) : OperationProgram OperationResult := do
  let completion ← Act.ofExcept ((completeMutationReservation reservation
    outcome.responseStatusCode traceId reservation.updatedAt outcome.responsePayload).mapError
      OperationError.error)
  let result : MutationResult ← ask (.complete completion)
  match result.status with
  | .completed =>
      return ⟨.completed, result.record, outcome.responseStatusCode, outcome.responsePayload, ""⟩
  | .replayed => Act.ofExcept (replayedResult result.record)
  | .reconcileRequired => do
      let adoption ← adoptReconciledResult reservation
        ⟨outcome.responseStatusCode, traceId, outcome.responsePayload⟩ none none
      return adoption.1.getD (.unknown result.record)
  | _ => return .unknown result.record

/-- How an attempt ends that changed nothing: the reservation is given back, if nothing of an effect
was recorded and the attempt may do so. -/
def releaseOrMark (reservation : IdempotencyRecord) (reconciliationKey : String)
    (releasePreEffectFailures : Bool) (released : OperationProgram OperationResult) :
    OperationProgram OperationResult :=
  if reservation.providerEffectStartedAt ≠ none ∨ releasePreEffectFailures = false then
    markReconcileRequired reservation reconciliationKey
  else do
    let release : MutationResult ← ask (.release reservation)
    if release.status = .released then released
    else markReconcileRequired reservation reconciliationKey

/-- What an adapter raised, or what became of it: `_apply_acquired` after `apply`. -/
def settleApplied (current : IdempotencyRecord) (reconciliationKey traceId : String)
    (releasePreEffectFailures : Bool) :
    Except OperationError ProviderMutationOutcome → OperationProgram OperationResult
  | .error .checkpoint => do
      let held ← askCaught (.persist current)
      match held with
      | .ok held => return ⟨.checkpointed, some held, 202, [("status", "accepted"),
          ("trace_id", traceId), ("result.state", "checkpointed"),
          ("result.original_key_required", "true")], ""⟩
      | .error _ => markReconcileRequired current reconciliationKey
  | .error (.leaseLost _) => markReconcileRequired current reconciliationKey
  | .error (.rejected cause) =>
      releaseOrMark current reconciliationKey releasePreEffectFailures (throw (.error cause))
  | .error .unknown => markReconcileRequired current reconciliationKey
  | .error error => do
      let _ ← markReconcileRequired current reconciliationKey
      throw error
  | .ok outcome =>
      if outcome.providerEffectPerformed = true ∧ current.providerEffectStartedAt = none then
        markReconcileRequired current reconciliationKey
      else if outcome.durable = false then
        releaseOrMark current reconciliationKey releasePreEffectFailures
          (return ⟨.unstored, none, outcome.responseStatusCode, outcome.responsePayload, ""⟩)
      else completeOrAdoptOutcome current traceId outcome

/-- `_apply_acquired`. -/
def applyAcquired (adapter : ProviderAdapter) (reservation : IdempotencyRecord)
    (reconciliationKey : String) (operationKey : ProviderOperationKey) (traceId : String)
    (leaseSeconds : Nat) (releasePreEffectFailures : Bool) : OperationProgram OperationResult := do
  let applied ← Heartbeat.conduct leaseSeconds (adapter.apply operationKey) ⟨reservation, ""⟩
  settleApplied applied.2.reservation reconciliationKey traceId releasePreEffectFailures applied.1

/-! ### Runs -/

/-- `ProviderTargetSupersession`, of which the checks are calls. -/
structure TargetSupersession where
  responseStatusCode : Nat
  responsePayload : Payload := []
  minimumExpiredSeconds : Nat := 0
  deriving Repr, DecidableEq

/-- The arguments of `run_durable_provider_operation`. -/
structure DurableOperation where
  key : ReservationKey
  requestFingerprint : String
  leaseOwner : String
  responseTraceId : String
  adapter : ProviderAdapter
  leaseSeconds : Nat := 300
  targetSupersession : Option TargetSupersession := none
  allowMutation : Bool := true
  originalIntent : Option Payload := none

namespace DurableOperation

variable (operation : DurableOperation)

/-- The request for a reservation. -/
def request : ReserveRequest where
  key := operation.key
  requestFingerprint := operation.requestFingerprint
  leaseOwner := operation.leaseOwner
  leaseSeconds := operation.leaseSeconds
  reconciliationKey := pyStrip operation.adapter.reconciliationKey
  providerTargetKey := pyStrip operation.adapter.targetKey
  originalIntent := operation.originalIntent.getD []

end DurableOperation

/-- `reserve_mutation`; an insert that finds nothing in its way any more is tried once again. -/
def reserveMutation (request : ReserveRequest) : OperationProgram MutationResult := do
  let inserted : Option MutationResult ← ask (.insertReservation request)
  match inserted with
  | some result => return result
  | none => do
      let resolved : Option MutationResult ← ask (.resolveCollision request)
      match resolved with
      | some result => return result
      | none => do
          let inserted : Option MutationResult ← ask (.insertReservation request)
          match inserted with
          | some result => return result
          | none => do
              let resolved : Option MutationResult ← ask (.resolveCollision request)
              match resolved with
              | some result => return result
              | none => throw (.error "IntegrityError")

namespace DurableOperation

variable (operation : DurableOperation)

/-- `_reconcile`, after the observation. -/
def reconcileObserved (operationKey : ProviderOperationKey) (reconciliationKey : String)
    (record : IdempotencyRecord) (observation : ProviderObservation) :
    OperationProgram OperationResult :=
  if operation.allowMutation = true ∧ observation.outcome = .absent ∧
      (record.providerEffectStartedAt = none ∨ observation.retrySafe = true) then do
    let retry : MutationResult ← ask (.retry record operation.leaseOwner operation.leaseSeconds
      observation.preserveEffectCheckpoint)
    match retry.status, retry.record with
    | .replayed, stored => Act.ofExcept (replayedResult stored)
    | .acquired, some reservation =>
        applyAcquired operation.adapter reservation reconciliationKey operationKey
          (pyStrip operation.responseTraceId) operation.leaseSeconds true
    | _, _ => return .unknown (some record)
  else if observation.outcome ≠ .present then return .unknown (some record)
  else do
    let adoption ← adoptReconciledResult record ⟨observation.responseStatusCode,
      pyStrip operation.responseTraceId, observation.responsePayload⟩ operation.originalIntent
      observation.bindingEvidence
    return adoption.1.getD (.unknown (adoption.2.or (some record)))

/-- `_reconcile`. -/
def reconcile (fallback : Option IdempotencyRecord) : OperationProgram OperationResult := do
  let reconciliationKey := match fallback with
    | some record =>
        if record.reconciliationKey = "" then pyStrip operation.adapter.reconciliationKey
        else record.reconciliationKey
    | none => pyStrip operation.adapter.reconciliationKey
  let operationKey ← Act.ofExcept (buildProviderOperationKey operation.key
    operation.requestFingerprint reconciliationKey)
  let observation : ProviderObservation ← ask (.observe operationKey
    ((fallback.map (·.providerEffectPhase)).getD "")
    (fallback.bind (·.providerEffectStartedAt)))
  match fallback with
  | none => return .unknown none
  | some record => operation.reconcileObserved operationKey reconciliationKey record observation

/-- What a reservation without a mutation ends with. -/
def withoutMutation (reservation : IdempotencyRecord) : OperationProgram OperationResult := do
  let release : MutationResult ← ask (.release reservation)
  if release.status = .released then return .unknown none
  else markReconcileRequired reservation (pyStrip operation.adapter.reconciliationKey)

/-- `run_durable_provider_operation`, after the decision about its reservation. -/
def decide (result : MutationResult) : OperationProgram OperationResult :=
  match result.status with
  | .replayed => Act.ofExcept (replayedResult result.record)
  | .conflict => return ⟨.conflict, result.record, 409, [], ""⟩
  | .targetBusy => return ⟨.targetBusy, result.record, 409, [], ""⟩
  | .inProgress => return ⟨.inProgress, result.record, 409, [], ""⟩
  | .reconcileRequired => operation.reconcile result.record
  | .acquired =>
      match result.record with
      | none => throw (.error "An acquired provider operation requires its reservation.")
      | some reservation =>
          if operation.allowMutation = false then operation.withoutMutation reservation
          else do
            let reconciliationKey := pyStrip operation.adapter.reconciliationKey
            let operationKey ← Act.ofExcept (buildProviderOperationKey operation.key
              operation.requestFingerprint reconciliationKey)
            applyAcquired operation.adapter reservation reconciliationKey operationKey
              (pyStrip operation.responseTraceId) operation.leaseSeconds true
  | _ => throw (.error "Unsupported mutation reservation decision")

/-- A request that finds its target held by a reservation that has to be reconciled may end that
one, if the provider is quiescent, and take its place. -/
def supersede (supersession : TargetSupersession) (result : MutationResult)
    (reservation : IdempotencyRecord) (supersededIntent : Option Payload) :
    OperationProgram OperationResult := do
  let quiescent : Bool ← ask (.quiescent reservation)
  if quiescent = false then operation.decide result
  else do
    let retainEffectCustody : Bool ← ask (.retainEffectCustody reservation)
    let superseded : MutationResult ← ask (.supersede
      { reservation
        response := ⟨supersession.responseStatusCode, pyStrip operation.responseTraceId,
          supersession.responsePayload⟩
        minimumExpiredSeconds := supersession.minimumExpiredSeconds
        expectedOriginalIntent :=
          if operation.originalIntent.getD [] = [] then none else supersededIntent
        retainEffectCustody }
      operation.request)
    match superseded.status, superseded.record with
    | .acquired, some record => operation.decide ⟨.acquired, some record⟩
    | .retry, _ => do
        let again ← reserveMutation operation.request
        operation.decide again
    | _, _ => operation.decide result

/-- The stored intent of a reservation, where the request came with one. -/
def storedIntent (result : MutationResult) : OperationProgram (Option Payload) :=
  match result.record, operation.originalIntent with
  | some reservation, some _ => do
      let stored : Payload ← ask (.readOriginalIntent reservation)
      return some stored
  | _, _ => return none

/-- Whether the stored intent is another one than the request came with. -/
def intentConflicts (result : MutationResult) : OperationProgram Bool :=
  if result.status = .targetBusy ∨ result.status = .replayed then return false
  else do
    let stored ← operation.storedIntent result
    return stored.isSome && stored ≠ operation.originalIntent

/-- `run_durable_provider_operation`. -/
def run : OperationProgram OperationResult := do
  Act.ofExcept (raiseIf (pyStrip operation.adapter.targetKey = "")
    (.error "Durable provider operations require a provider target key."))
  Act.ofExcept (raiseIf (pyStrip operation.adapter.reconciliationKey = "")
    (.error "Durable provider operations require a reconciliation key."))
  Act.ofExcept (raiseIf (pyStrip operation.responseTraceId = "")
    (.error "Durable provider operations require a response trace id."))
  let result ← reserveMutation operation.request
  let conflicts ← operation.intentConflicts result
  if conflicts = true then return ⟨.conflict, result.record, 409, [], ""⟩
  else do
    let supersededIntent ← operation.storedIntent result
    match operation.targetSupersession, result.record with
    | some supersession, some reservation =>
        if operation.allowMutation = true ∧ result.status = .targetBusy ∧
            reservation.state = .reconcileRequired then
          operation.supersede supersession result reservation supersededIntent
        else operation.decide result
    | _, _ => operation.decide result

end DurableOperation

end Launchplane.Mutation
