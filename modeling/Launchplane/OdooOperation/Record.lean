import Launchplane.Dict
import Launchplane.Text

/-!
# Launchplane.OdooOperation.Record

**Queued promotions and rollbacks.** The record of an operation, as it is stored
and as it is read back. Reading trims the texts of the record and checks how its
status, phase, checkpoints, lease, result and error go together.

`readable_iff` is what a record needs to be read back: what the steps of an
operation never touch, and what they do.
-/

namespace Launchplane.OdooOperation

/-- The two kinds of release operations. -/
inductive OperationKind
  | promotion | rollback
  deriving Repr, DecidableEq

/-- The label of a kind in messages. -/
def OperationKind.label : OperationKind → String
  | promotion => "Odoo prod promotion"
  | rollback => "Odoo prod rollback"

/-- `OdooProdPromotionOperationStatus`, which the rollbacks have too. -/
inductive OperationStatus
  | pending | running | reconciliationRequired | pass | fail | cancelled
  deriving Repr, DecidableEq

/-- The phases of both kinds. -/
inductive OperationPhase
  | created | running | validated | logicalBackupStarted | logicalBackupCompleted
  | promotionStarted | rollbackStarted | completed | failed | cancelled
  deriving Repr, DecidableEq

namespace OperationPhase

/-- The literal of a phase. -/
def text : OperationPhase → String
  | created => "created"
  | running => "running"
  | validated => "validated"
  | logicalBackupStarted => "logical_backup_started"
  | logicalBackupCompleted => "logical_backup_completed"
  | promotionStarted => "promotion_started"
  | rollbackStarted => "rollback_started"
  | completed => "completed"
  | failed => "failed"
  | cancelled => "cancelled"

/-- The phases that end an operation. -/
def ended (phase : OperationPhase) : Bool := phase ∈ [completed, failed, cancelled]

end OperationPhase

namespace OperationKind

/-- The phases of a kind, in their order. -/
def phaseSequence : OperationKind → List OperationPhase
  | promotion => [.created, .running, .validated, .logicalBackupStarted, .logicalBackupCompleted,
      .promotionStarted, .completed, .failed, .cancelled]
  | rollback => [.created, .running, .validated, .rollbackStarted, .completed, .failed, .cancelled]

/-- The phases from which an expired operation may run again. -/
def safeRetryPhases (_ : OperationKind) : List OperationPhase := [.created, .running, .validated]

end OperationKind

/-! ### The parts of a record -/

/-- A checkpoint of either kind. -/
structure OperationCheckpoint where
  phase : OperationPhase
  recordedAt : String
  evidence : Dict String String := []
  deriving Repr, DecidableEq

/-- The outcome that a run reports. -/
inductive RunStatus
  | pass | fail | blocked
  deriving Repr, DecidableEq

/-- The result of a run, as far as its ending and its completion read it. -/
structure OperationResult where
  runStatus : RunStatus
  artifactId : String := ""
  promotionRecordId : String := ""
  errorMessage : String := ""
  deriving Repr, DecidableEq

/-- `DurableOperationCancellation`, as far as its validator reads it. -/
structure OperationCancellation where
  reason : String
  cancelledAt : String
  deriving Repr, DecidableEq

/-- The request of either kind, after its own validation. -/
structure OperationRequest where
  product : String := ""
  context : String
  instanceName : String
  /-- The artifact that a promotion is about. -/
  expectedArtifactId : String := ""
  /-- The artifact that a rollback brings back, the promotion it undoes, and why. -/
  artifactId : String := ""
  promotionRecordId : String := ""
  reason : String := ""
  wait : Bool := true
  deriving Repr, DecidableEq

/-- `DurableOperationAuthorization`, as far as the operations read it, after its own validation. -/
structure OperationAuthorization where
  action : String
  product : String
  context : String
  instances : List String
  grant : String
  releaseDecisionRecordId : String := ""
  callerGithubId : Nat := 0
  deriving Repr, DecidableEq

/-- What of a record no step changes. -/
structure OperationIdentity where
  operationId : String
  product : String
  context : String
  idempotencyKey : String
  idempotencyScope : String
  requestFingerprint : String
  createdAt : String
  request : OperationRequest
  /-- The artifact and the deployment of the target of a rollback. -/
  targetArtifactId : String := ""
  targetDeploymentRecordId : String := ""
  authorization : OperationAuthorization
  deriving Repr, DecidableEq

/-- `OdooProdPromotionOperationRecord` and `OdooProdRollbackOperationRecord`. -/
structure OperationRecord where
  identity : OperationIdentity
  status : OperationStatus := .pending
  phase : OperationPhase := .created
  checkpoints : List OperationCheckpoint := []
  updatedAt : String
  startedAt : String := ""
  finishedAt : String := ""
  leaseOwner : String := ""
  leaseExpiresAt : String := ""
  heartbeatAt : String := ""
  attempt : Nat := 0
  result : Option OperationResult := none
  cancellation : Option OperationCancellation := none
  errorCode : String := ""
  errorMessage : String := ""
  deriving Repr, DecidableEq

/-! ### Reading -/

/-- A text that has to be there. -/
def required (label fieldName value : String) : Except String String :=
  if pyStrip value = "" then .error (label ++ " operation requires " ++ fieldName ++ ".")
  else .ok (pyStrip value)

theorem required_eq_ok {label fieldName value text : String} :
    required label fieldName value = .ok text ↔ pyStrip value ≠ "" ∧ text = pyStrip value := by
  unfold required
  by_cases hblank : pyStrip value = ""
  · simp [hblank]
  · simp [hblank, eq_comm]

/-- `RELEASE_DECISION_GRANTS`. -/
def releaseDecisionGrants : List String := ["client_release_acceptance", "temporary_hotfix"]

/-- The grants that may queue a release operation. -/
def releaseGrants : List String := "policy_administrator" :: releaseDecisionGrants

/-- What the validator of a kind asks of the request, the target and the authorization. -/
def OperationIdentity.checkTarget (kind : OperationKind) (identity : OperationIdentity) :
    Except String Unit :=
  let authorization := identity.authorization
  match kind with
  | .promotion =>
      if identity.product ≠ identity.request.product ∨ identity.context ≠ identity.request.context ∨
          "prod" ≠ identity.request.instanceName then
        .error "Odoo prod promotion operation target must match request."
      else if !identity.request.wait then
        .error "Odoo prod promotion operations wait for the deploy to finish."
      else if authorization.action ≠ "odoo_prod_promotion_run.execute" then
        .error "Odoo prod promotion authorization action must match operation."
      else if authorization.product ≠ identity.product ∨ authorization.context ≠ identity.context ∨
          authorization.instances ≠ ["prod"] then
        .error "Odoo prod promotion authorization target must match operation."
      else if authorization.grant ∉ releaseGrants then
        .error "Only the admin or a Client's release may queue an Odoo prod promotion."
      else .ok ()
  | .rollback =>
      if identity.context ≠ identity.request.context ∨ "prod" ≠ identity.request.instanceName then
        .error "Odoo prod rollback operation target must match request."
      else if !identity.request.wait then
        .error "Odoo prod rollback operations wait for the redeploy to finish."
      else if identity.request.artifactId ≠ "" ∧
          identity.request.artifactId ≠ identity.targetArtifactId then
        .error "Odoo prod rollback target must be the requested artifact."
      else if authorization.action ≠ "odoo_prod_rollback.execute" ∨
          authorization.product ≠ identity.product ∨ authorization.context ≠ identity.context ∨
          authorization.instances ≠ ["prod"] then
        .error "Odoo prod rollback authorization must match the operation."
      else if authorization.grant ∉ releaseGrants then
        .error "Only the admin or a Client's release may queue an Odoo prod rollback."
      else .ok ()

/-- The part of the validators that reads what no step changes. -/
def OperationIdentity.validate (kind : OperationKind) (identity : OperationIdentity) :
    Except String OperationIdentity := do
  let operationId ← required kind.label "operation_id" identity.operationId
  let product ← required kind.label "product" identity.product
  let context ← required kind.label "context" identity.context
  let idempotencyKey ← required kind.label "idempotency_key" identity.idempotencyKey
  let idempotencyScope ← required kind.label "idempotency_scope" identity.idempotencyScope
  let requestFingerprint ← required kind.label "request_fingerprint" identity.requestFingerprint
  let createdAt ← required kind.label "created_at" identity.createdAt
  let read : OperationIdentity := { identity with
    operationId, product, context := pyLower context, idempotencyKey, idempotencyScope,
    requestFingerprint, createdAt }
  read.checkTarget kind
  return read

theorem pyLower_ne_empty {s : String} (h : s ≠ "") : pyLower s ≠ "" := by
  intro hempty
  have hchars : (pyLower s).toList = [] := by rw [hempty]; rfl
  rw [pyLower, String.toList_ofList, List.map_eq_nil_iff] at hchars
  exact h (String.toList_inj.mp hchars)

/-- What was read once is read again as it is. -/
theorem OperationIdentity.validate_idempotent {kind : OperationKind}
    {identity read : OperationIdentity} (h : identity.validate kind = .ok read) :
    read.validate kind = .ok read := by
  unfold OperationIdentity.validate at h
  obtain ⟨operationId, hoperation, h⟩ := bind_eq_ok.mp h
  obtain ⟨product, hproduct, h⟩ := bind_eq_ok.mp h
  obtain ⟨context, hcontext, h⟩ := bind_eq_ok.mp h
  obtain ⟨key, hkey, h⟩ := bind_eq_ok.mp h
  obtain ⟨keyScope, hscope, h⟩ := bind_eq_ok.mp h
  obtain ⟨fingerprint, hfingerprint, h⟩ := bind_eq_ok.mp h
  obtain ⟨createdAt, hcreated, h⟩ := bind_eq_ok.mp h
  obtain ⟨⟨⟩, hchecked, h⟩ := bind_eq_ok.mp h
  cases h
  have hagain {fieldName value text : String} (htext : required kind.label fieldName value = .ok text) :
      required kind.label fieldName text = .ok text := by
    obtain ⟨hne, rfl⟩ := required_eq_ok.mp htext
    exact required_eq_ok.mpr ⟨by rwa [pyStrip_pyStrip], (pyStrip_pyStrip value).symm⟩
  have hlower : required kind.label "context" (pyLower context) = .ok (pyLower context) := by
    obtain ⟨hne, rfl⟩ := required_eq_ok.mp hcontext
    refine required_eq_ok.mpr ⟨?_, by rw [pyStrip_pyLower, pyStrip_pyStrip]⟩
    rw [pyStrip_pyLower, pyStrip_pyStrip]
    exact pyLower_ne_empty hne
  unfold OperationIdentity.validate
  simp only [hagain hoperation, hagain hproduct, hlower, hagain hkey, hagain hscope,
    hagain hfingerprint, hagain hcreated, bind, Except.bind, pyLower_pyLower]
  rw [hchecked]
  rfl

/-- A checkpoint as it is read. -/
def OperationCheckpoint.validate (kind : OperationKind) (checkpoint : OperationCheckpoint) :
    Except String OperationCheckpoint :=
  if checkpoint.phase ∉ kind.phaseSequence then .error "phase should be one of the literals"
  else if pyStrip checkpoint.recordedAt = "" then
    .error (kind.label ++ " checkpoint requires recorded_at.")
  else .ok { checkpoint with recordedAt := pyStrip checkpoint.recordedAt }

/-- `DurableOperationCancellation`'s validator. -/
def OperationCancellation.validate (cancellation : OperationCancellation) :
    Except String OperationCancellation :=
  if pyStrip cancellation.reason = "" then
    .error "Durable operation cancellation requires reason."
  else if pyStrip cancellation.cancelledAt = "" then
    .error "Durable operation cancellation requires cancelled_at."
  else .ok { reason := pyStrip cancellation.reason, cancelledAt := pyStrip cancellation.cancelledAt }

/-- Whether the record names a lease. -/
def OperationRecord.holdsLease (record : OperationRecord) : Bool :=
  [record.leaseOwner, record.leaseExpiresAt, record.heartbeatAt].any (pyStrip · ≠ "")

/-- `validate_release_operation_state`. -/
def validateReleaseOperationState (label : String) (record : OperationRecord) :
    Except String Unit := do
  let finishedAt := pyStrip record.finishedAt
  let errorCode := pyStrip record.errorCode
  let errorMessage := pyStrip record.errorMessage
  raiseIf (!record.phase.ended ∧ record.checkpoints.getLast?.any (·.phase ≠ record.phase))
    (label ++ " operation phase must match its latest checkpoint.")
  match record.status with
  | .pass =>
      raiseIf (finishedAt = "") ("Terminal " ++ label ++ " operations require finished_at.")
      raiseIf (errorCode ≠ "" ∨ errorMessage ≠ "")
        ("Passing " ++ label ++ " operations cannot include errors.")
  | .fail =>
      raiseIf (finishedAt = "") ("Terminal " ++ label ++ " operations require finished_at.")
      raiseIf (errorMessage = "") ("Failed " ++ label ++ " operations require error_message.")
  | .cancelled =>
      raiseIf (finishedAt = "") ("Terminal " ++ label ++ " operations require finished_at.")
      raiseIf (record.cancellation = none)
        ("Cancelled " ++ label ++ " operations require evidence.")
      raiseIf (record.result ≠ none ∨ errorCode ≠ "" ∨ errorMessage ≠ "")
        ("Cancelled " ++ label ++ " operations cannot include result or error.")
  | .reconciliationRequired =>
      raiseIf (finishedAt ≠ "" ∨ record.holdsLease)
        ("Reconciliation-required " ++ label ++
          " operations cannot retain terminal or lease state.")
      raiseIf (record.result ≠ none ∨ errorCode = "" ∨ errorMessage = "")
        ("Reconciliation-required " ++ label ++ " operations require an error and no result.")
  | .pending | .running =>
      raiseIf (record.cancellation ≠ none)
        ("Only cancelled " ++ label ++ " operations can include cancellation.")

/-- `model_validate` of a stored record. -/
def OperationRecord.validate (kind : OperationKind) (record : OperationRecord) :
    Except String OperationRecord := do
  raiseIf (record.phase ∉ kind.phaseSequence) "phase should be one of the literals"
  let checkpoints ← record.checkpoints.mapM (·.validate kind)
  let cancellation ← record.cancellation.mapM (·.validate)
  let identity ← record.identity.validate kind
  let updatedAt ← required kind.label "updated_at" record.updatedAt
  let read : OperationRecord := { record with
    identity, checkpoints, cancellation, updatedAt
    startedAt := pyStrip record.startedAt
    finishedAt := pyStrip record.finishedAt
    leaseOwner := pyStrip record.leaseOwner
    leaseExpiresAt := pyStrip record.leaseExpiresAt
    heartbeatAt := pyStrip record.heartbeatAt
    errorCode := pyStrip record.errorCode
    errorMessage := pyStrip record.errorMessage }
  validateReleaseOperationState kind.label read
  return read

/-! ### What a record needs -/

/-- How the parts of a record have to go together. -/
def StateOk (record : OperationRecord) : Prop :=
  (record.phase.ended = false → ∀ checkpoint ∈ record.checkpoints.getLast?,
    checkpoint.phase = record.phase) ∧
  match record.status with
  | .pass => pyStrip record.finishedAt ≠ "" ∧ pyStrip record.errorCode = "" ∧
      pyStrip record.errorMessage = ""
  | .fail => pyStrip record.finishedAt ≠ "" ∧ pyStrip record.errorMessage ≠ ""
  | .cancelled => pyStrip record.finishedAt ≠ "" ∧ record.cancellation ≠ none ∧
      record.result = none ∧ pyStrip record.errorCode = "" ∧ pyStrip record.errorMessage = ""
  | .reconciliationRequired => pyStrip record.finishedAt = "" ∧ record.holdsLease = false ∧
      record.result = none ∧ pyStrip record.errorCode ≠ "" ∧ pyStrip record.errorMessage ≠ ""
  | .pending | .running => record.cancellation = none

theorem validateReleaseOperationState_eq_ok {label : String} {record : OperationRecord} :
    validateReleaseOperationState label record = .ok () ↔ StateOk record := by
  have hmatch : ¬(!record.phase.ended ∧ record.checkpoints.getLast?.any (·.phase ≠ record.phase)) ↔
      (record.phase.ended = false → ∀ checkpoint ∈ record.checkpoints.getLast?,
        checkpoint.phase = record.phase) := by
    cases hlast : record.checkpoints.getLast? with
    | none => simp
    | some checkpoint => simp
  unfold validateReleaseOperationState StateOk
  rw [guard_eq_ok, raiseIf_eq_ok, hmatch]
  refine and_congr_right fun _ => ?_
  cases record.status with
  | pending | running => simp
  | pass => simp [guard_eq_ok]
  | fail => simp [guard_eq_ok]
  | cancelled => simp [guard_eq_ok]
  | reconciliationRequired => simp [guard_eq_ok, and_assoc]

/-- The parts of a record that a step may not spoil, but for how they go together. -/
structure PartsOk (kind : OperationKind) (record : OperationRecord) : Prop where
  identity : record.identity.validate kind = .ok record.identity
  phase : record.phase ∈ kind.phaseSequence
  checkpoints : ∀ checkpoint ∈ record.checkpoints, checkpoint.validate kind = .ok checkpoint
  cancellation : ∀ cancellation, record.cancellation = some cancellation →
    cancellation.validate = .ok cancellation
  updatedAt : pyStrip record.updatedAt ≠ ""

/-- A record that can be read back. -/
def Readable (kind : OperationKind) (record : OperationRecord) : Prop :=
  ∃ read, record.validate kind = .ok read

section

variable {kind : OperationKind} {record read : OperationRecord}

/-- The texts of a record, trimmed. -/
def OperationRecord.trimmed (record : OperationRecord) (updatedAt : String) : OperationRecord :=
  { record with
    updatedAt
    startedAt := pyStrip record.startedAt
    finishedAt := pyStrip record.finishedAt
    leaseOwner := pyStrip record.leaseOwner
    leaseExpiresAt := pyStrip record.leaseExpiresAt
    heartbeatAt := pyStrip record.heartbeatAt
    errorCode := pyStrip record.errorCode
    errorMessage := pyStrip record.errorMessage }

theorem holdsLease_trimmed (updatedAt : String) :
    (record.trimmed updatedAt).holdsLease = record.holdsLease := by
  simp [OperationRecord.holdsLease, OperationRecord.trimmed]

/-- Trimming changes nothing that the state check sees. -/
theorem stateOk_trimmed (updatedAt : String) :
    StateOk (record.trimmed updatedAt) ↔ StateOk record := by
  unfold StateOk
  rw [holdsLease_trimmed]
  simp only [OperationRecord.trimmed, pyStrip_pyStrip]

/-- **A record whose parts are in order is read back when they go together.** -/
theorem readable_iff (h : PartsOk kind record) : Readable kind record ↔ StateOk record := by
  have hcheckpoints : record.checkpoints.mapM (·.validate kind) = .ok record.checkpoints :=
    mapM_eq_ok_self h.checkpoints
  have hcancellation : record.cancellation.mapM (·.validate) = .ok record.cancellation := by
    cases hsome : record.cancellation with
    | none => rfl
    | some cancellation =>
        rw [Option.mapM_some, h.cancellation cancellation hsome]
        rfl
  have hphase : raiseIf (record.phase ∉ kind.phaseSequence) "phase should be one of the literals" =
      .ok () := raiseIf_eq_ok.mpr (not_not.mpr h.phase)
  have hupdated : required kind.label "updated_at" record.updatedAt = .ok (pyStrip record.updatedAt) :=
    required_eq_ok.mpr ⟨h.updatedAt, rfl⟩
  have hvalidate : record.validate kind =
      (validateReleaseOperationState kind.label (record.trimmed (pyStrip record.updatedAt))).map
        fun _ => record.trimmed (pyStrip record.updatedAt) := by
    unfold OperationRecord.validate
    simp only [hphase, hcheckpoints, hcancellation, h.identity, hupdated, bind, Except.bind]
    change Except.bind (validateReleaseOperationState kind.label
        (record.trimmed (pyStrip record.updatedAt)))
      (fun _ => Except.ok (record.trimmed (pyStrip record.updatedAt))) = _
    cases validateReleaseOperationState kind.label (record.trimmed (pyStrip record.updatedAt)) with
    | error message => rfl
    | ok _ => rfl
  rw [← stateOk_trimmed (pyStrip record.updatedAt), ← validateReleaseOperationState_eq_ok]
  unfold Readable
  rw [hvalidate]
  simp only [map_eq_ok]
  exact ⟨fun ⟨_, ⟨⟩, hchecked, _⟩ => hchecked, fun hchecked => ⟨_, (), hchecked, rfl⟩⟩

theorem OperationCheckpoint.validate_idempotent {checkpoint read : OperationCheckpoint}
    (h : checkpoint.validate kind = .ok read) : read.validate kind = .ok read := by
  unfold OperationCheckpoint.validate at h
  split_ifs at h with hphase hblank
  cases h
  unfold OperationCheckpoint.validate
  rw [if_neg (not_not.mpr hphase), if_neg (by simpa using hblank)]
  simp

theorem OperationCancellation.validate_idempotent {cancellation read : OperationCancellation}
    (h : cancellation.validate = .ok read) : read.validate = .ok read := by
  unfold OperationCancellation.validate at h
  split_ifs at h with hreason hat
  cases h
  unfold OperationCancellation.validate
  rw [if_neg (by simpa using hreason), if_neg (by simpa using hat)]
  simp

/-- **What is read is in order.** -/
theorem ok_of_validate (h : record.validate kind = .ok read) : PartsOk kind read ∧ StateOk read := by
  unfold OperationRecord.validate at h
  obtain ⟨⟨⟩, hphase, h⟩ := bind_eq_ok.mp h
  obtain ⟨checkpoints, hcheckpoints, h⟩ := bind_eq_ok.mp h
  obtain ⟨cancellation, hcancellation, h⟩ := bind_eq_ok.mp h
  obtain ⟨identity, hidentity, h⟩ := bind_eq_ok.mp h
  obtain ⟨updatedAt, hupdated, h⟩ := bind_eq_ok.mp h
  obtain ⟨⟨⟩, hstate, h⟩ := bind_eq_ok.mp h
  cases h
  obtain ⟨hblank, rfl⟩ := required_eq_ok.mp hupdated
  refine ⟨⟨OperationIdentity.validate_idempotent hidentity, not_not.mp (raiseIf_eq_ok.mp hphase),
    ?_, ?_, by rwa [pyStrip_pyStrip]⟩, validateReleaseOperationState_eq_ok.mp hstate⟩
  · intro checkpoint hmem
    obtain ⟨raw, -, hraw⟩ := forall_of_mapM hcheckpoints checkpoint hmem
    exact OperationCheckpoint.validate_idempotent hraw
  · intro read hread
    cases hraw : record.cancellation with
    | none =>
        rw [hraw] at hcancellation
        cases hcancellation
        cases hread
    | some raw =>
        rw [hraw, Option.mapM_some] at hcancellation
        obtain ⟨validated, hvalidated, hsome⟩ := map_eq_ok.mp hcancellation
        rw [← hsome] at hread
        cases hread
        exact OperationCancellation.validate_idempotent hvalidated

/-- Reading keeps the status. -/
theorem status_of_validate (h : record.validate kind = .ok read) : read.status = record.status := by
  unfold OperationRecord.validate at h
  obtain ⟨⟨⟩, -, h⟩ := bind_eq_ok.mp h
  obtain ⟨checkpoints, -, h⟩ := bind_eq_ok.mp h
  obtain ⟨cancellation, -, h⟩ := bind_eq_ok.mp h
  obtain ⟨identity, -, h⟩ := bind_eq_ok.mp h
  obtain ⟨updatedAt, -, h⟩ := bind_eq_ok.mp h
  obtain ⟨⟨⟩, -, h⟩ := bind_eq_ok.mp h
  cases h
  rfl

end

end Launchplane.OdooOperation
