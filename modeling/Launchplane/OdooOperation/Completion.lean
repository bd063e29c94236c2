import Launchplane.OdooOperation.Steps

/-!
# Launchplane.OdooOperation.Completion

**How a promotion is completed.** A promotion that failed for a release decision
after it wrote production is not left at that. If the store still has all of the
release, a rollback to the pinned deployment is queued with the failure. If not,
the promotion does not end: it is held, under a message of its own.

So a completion spoils no record that the ending did not (`completion_spec`), and
where it holds the promotion, it mends the record.
-/

namespace Launchplane.OdooOperation

/-! ### What is stored of a release -/

/-- A release decision, as far as the recovery reads it. -/
structure ReleaseDecision where
  decision : String
  releaseStart : String
  releaseIssueUrl : String
  product : String
  actorGithubId : String
  /-- The artifacts of its checklist. -/
  candidateArtifactId : String
  productionArtifactId : String

/-- A deployment, as far as the recovery reads it. -/
structure ReleaseDeployment where
  context : String
  instanceName : String
  passed : Bool
  artifactId : Option String

/-- The record of a promotion, as far as the recovery reads it. -/
structure ReleasePromotion where
  recordId : String
  context : String
  toInstance : String
  artifactId : String

/-- The cutover of an operation, as far as the recovery reads it. -/
structure OdooCutover where
  step : String
  abortReconciliationEligible : Bool

/-- A digest. -/
structure Digest where
  text : String
  notBlank : pyStrip text ≠ ""

/-- What is stored of a release when its run ends, and how the store digests a rollback. -/
structure ReleaseEvidence where
  decision : String → String → Option ReleaseDecision := fun _ _ => none
  deployment : String → Option ReleaseDeployment := fun _ => none
  promotion : String → Option ReleasePromotion := fun _ => none
  /-- `operation_cutover`. -/
  cutover : Option OdooCutover := none
  /-- `odoo_prod_rollback_request_fingerprint`. -/
  requestFingerprint : String → OperationRequest → Digest
  /-- What `build_odoo_prod_rollback_operation_id` digests its texts to. -/
  digest : List String → String

/-- `OdooProdRollbackTarget`. -/
structure RollbackTarget where
  artifactId : String
  deploymentRecordId : String

/-- `OdooProdRollbackTarget`'s validator. -/
def RollbackTarget.validate (target : RollbackTarget) : Option RollbackTarget :=
  if pyStrip target.artifactId = "" then none
  else some { artifactId := pyStrip target.artifactId
              deploymentRecordId := pyStrip target.deploymentRecordId }

namespace ReleaseEvidence

variable (release : ReleaseEvidence)

/-- `operation_aborted`. -/
def operationAborted : Bool :=
  release.cutover.any fun cutover => cutover.step = "aborted" && cutover.abortReconciliationEligible

/-- `build_odoo_prod_rollback_operation_id`. -/
def rollbackOperationId (product context idempotencyKey idempotencyScope : String) : String :=
  "odoo-prod-rollback-" ++ release.digest
    [pyLower (pyStrip product), pyLower (pyStrip context), "prod", pyStrip idempotencyKey,
      pyStrip idempotencyScope]

/-- What a rollback of a failed promotion would bring back, and the promotion that it would undo, if
all that is stored of the release agrees. -/
def recovery (source : OperationRecord) (result : OperationResult) :
    Option (RollbackTarget × ReleasePromotion) := do
  let identity := source.identity
  let decision ← release.decision identity.product identity.authorization.releaseDecisionRecordId
  let pin ← source.checkpoints.head?
  let artifactId ← pin.evidence.get "recovery_artifact_id"
  let deploymentRecordId ← pin.evidence.get "recovery_deployment_record_id"
  let target ← RollbackTarget.validate { artifactId, deploymentRecordId }
  let deployment ← release.deployment target.deploymentRecordId
  let promotion ← release.promotion result.promotionRecordId
  -- every record is of this release: of its candidate, its caller and its production
  if decision.decision ∉ ["accepted", "temporary_hotfix"] ∨ decision.releaseStart = "" ∨
      decision.releaseIssueUrl = "" ∨ decision.product ≠ identity.product ∨
      decision.actorGithubId ≠ toString identity.authorization.callerGithubId ∨
      identity.request.expectedArtifactId ≠ decision.candidateArtifactId ∨
      result.artifactId ≠ decision.candidateArtifactId ∨
      target.artifactId ≠ decision.productionArtifactId ∨
      deployment.context ≠ identity.context ∨ deployment.instanceName ≠ "prod" ∨
      !deployment.passed ∨ deployment.artifactId ≠ some target.artifactId ∨
      promotion.context ≠ identity.context ∨ promotion.toInstance ≠ "prod" ∨
      promotion.artifactId ≠ result.artifactId then none
  else some (target, promotion)

/-- The request of the rollback. -/
def recoveryRequest (source : OperationRecord) (target : RollbackTarget)
    (promotion : ReleasePromotion) : OperationRequest where
  context := pyLower (pyStrip source.identity.context)
  instanceName := "prod"
  artifactId := pyStrip target.artifactId
  promotionRecordId := pyStrip promotion.recordId
  reason := pyStrip ("Automatic recovery of failed Client release operation " ++
    source.identity.operationId ++ ".")

/-- The rollback, before it is validated. -/
def recoveryRecord (source : OperationRecord) (target : RollbackTarget)
    (promotion : ReleasePromotion) : OperationRecord :=
  let identity := source.identity
  let idempotencyKey := identity.operationId ++ ":failure-recovery"
  let request := recoveryRequest source target promotion
  { identity :=
      { operationId := release.rollbackOperationId identity.product identity.context idempotencyKey
          identity.idempotencyScope
        product := identity.product
        context := identity.context
        idempotencyKey
        idempotencyScope := identity.idempotencyScope
        requestFingerprint := (release.requestFingerprint (pyStrip identity.product) request).text
        createdAt := source.finishedAt
        request
        targetArtifactId := target.artifactId
        targetDeploymentRecordId := target.deploymentRecordId
        authorization := { identity.authorization with action := "odoo_prod_rollback.execute" } }
    updatedAt := source.finishedAt
    checkpoints := [{
      phase := .created, recordedAt := source.finishedAt
      evidence := [("recovery_promotion_operation_id", identity.operationId)] }] }

/-- `build_odoo_release_recovery`. -/
def buildOdooReleaseRecovery (source : OperationRecord) : Except String (Option OperationRecord) :=
  match source.result with
  | none => .ok none
  | some result =>
      if source.status ≠ .fail ∨ release.operationAborted ∨
          source.identity.authorization.grant ∉ releaseDecisionGrants ∨
          source.identity.idempotencyScope ≠ "client-release" ∨
          !odooReleaseWroteProduction source ∨ result.runStatus ≠ .fail ∨
          result.promotionRecordId = "" then .ok none
      else match release.recovery source result with
        | none => .ok none
        | some (target, promotion) =>
            some <$> (release.recoveryRecord source target promotion).validate .rollback

end ReleaseEvidence

/-! ### The completion -/

namespace OperationRecord

/-- When a failed promotion is held instead: it wrote production for a release decision, and neither
a rollback nor its cutover answers for that. -/
def lacksRecovery (release : ReleaseEvidence) (recovery : Option OperationRecord)
    (record : OperationRecord) : Bool :=
  record.status = .fail ∧ record.identity.authorization.grant ∈ releaseDecisionGrants ∧
    odooReleaseWroteProduction record ∧ recovery = none ∧ release.operationAborted = false ∧
      ¬(record.errorCode = "odoo_cutover_entry_refused" ∧ release.cutover.isNone)

/-- The record of a promotion that is held instead. -/
def heldInstead (record : OperationRecord) : OperationRecord :=
  { record.released with
    status := .reconciliationRequired
    phase := (record.checkpoints.getLast?.map (·.phase)).getD record.phase
    finishedAt := ""
    result := none
    errorCode := "operation_reconciliation_required"
    errorMessage := "The failed Odoo release lacks verified recovery provenance; " ++
      "reconcile production before releasing the lane." }

end OperationRecord

/-- What `complete_odoo_prod_promotion_operation_record` and its sibling write for the record of an
ending, and the rollback that they queue. -/
def completion (kind : OperationKind) (release : ReleaseEvidence) (record : OperationRecord) :
    Except String (OperationRecord × Option OperationRecord) :=
  match kind with
  | .rollback => .ok (record, none)
  | .promotion =>
      (fun recovery =>
        (if record.lacksRecovery release recovery then record.heldInstead else record, recovery)) <$>
      release.buildOdooReleaseRecovery record

/-! ### When a promotion is held instead -/

/-- A rollback brings back what a failed promotion with this result has written. -/
def ReleaseEvidence.Recovers (release : ReleaseEvidence) (current : OperationRecord)
    (result : Option OperationResult) : Prop :=
  current.identity.idempotencyScope = "client-release" ∧ ∃ failed, result = some failed ∧
    failed.runStatus = .fail ∧ failed.promotionRecordId ≠ "" ∧
      (release.recovery current failed).isSome = true

/-- A failure with this code and result is held: the promotion wrote production for a release
decision, no rollback brings that back, and its cutover was neither aborted nor refused. -/
def ReleaseEvidence.Holds (release : ReleaseEvidence) (current : OperationRecord)
    (errorCode : String) (result : Option OperationResult) : Prop :=
  current.identity.authorization.grant ∈ releaseDecisionGrants ∧
    odooReleaseWroteProduction current = true ∧ ¬release.Recovers current result ∧
      release.operationAborted = false ∧
        ¬(errorCode = "odoo_cutover_entry_refused" ∧ release.cutover.isNone = true)

/-- The ending is a failure that is held. -/
def Ending.Held (kind : OperationKind) (release : ReleaseEvidence) (current : OperationRecord) :
    Ending → Prop
  | terminal result => kind = .promotion ∧ result.runStatus ≠ .pass ∧
      release.Holds current (terminalErrorCode kind result) (some result)
  | failed _ code => kind = .promotion ∧ release.Holds current code current.result
  | _ => False

/-! ### What a completion leaves readable -/

section

variable {kind : OperationKind} {release : ReleaseEvidence}
  {current record source : OperationRecord}

theorem readable_of_validate {read : OperationRecord} (h : record.validate kind = .ok read) :
    Readable kind read :=
  (readable_iff (ok_of_validate h).1).mpr (ok_of_validate h).2

theorem mapM_singleton {α : Type} {f : α → Except String α} {x y : α} (h : f x = .ok y) :
    [x].mapM f = .ok [y] := by
  rw [List.mapM_cons, h]
  rfl

/-- The identity of a promotion that was read, as far as its rollback needs it. -/
theorem promotion_of_validate {identity : OperationIdentity}
    (h : identity.validate .promotion = .ok identity) :
    (pyStrip identity.operationId ≠ "" ∧ pyStrip identity.product ≠ "" ∧
      pyStrip identity.context ≠ "" ∧ pyStrip identity.idempotencyScope ≠ "") ∧
    (pyStrip identity.product = identity.product ∧
      pyLower (pyStrip identity.context) = identity.context) ∧
    identity.authorization.product = identity.product ∧
      identity.authorization.context = identity.context ∧
        identity.authorization.instances = ["prod"] := by
  unfold OperationIdentity.validate at h
  obtain ⟨operationId, hoperation, h⟩ := bind_eq_ok.mp h
  obtain ⟨product, hproduct, h⟩ := bind_eq_ok.mp h
  obtain ⟨context, hcontext, h⟩ := bind_eq_ok.mp h
  obtain ⟨key, -, h⟩ := bind_eq_ok.mp h
  obtain ⟨keyScope, hscope, h⟩ := bind_eq_ok.mp h
  obtain ⟨fingerprint, -, h⟩ := bind_eq_ok.mp h
  obtain ⟨createdAt, -, h⟩ := bind_eq_ok.mp h
  obtain ⟨⟨⟩, hchecked, h⟩ := bind_eq_ok.mp h
  have hread := Except.ok.inj h
  rw [hread] at hchecked
  have hsameProduct : product = identity.product := congrArg OperationIdentity.product hread
  have hsameContext : pyLower context = identity.context := congrArg OperationIdentity.context hread
  obtain ⟨hproductNe, heqProduct⟩ := required_eq_ok.mp hproduct
  obtain ⟨hcontextNe, heqContext⟩ := required_eq_ok.mp hcontext
  unfold OperationIdentity.checkTarget at hchecked
  dsimp only at hchecked
  split_ifs at hchecked with htarget hwait haction hmatch hgrant
  rw [not_or, not_or, not_not, not_not, not_not] at hmatch
  exact ⟨⟨(required_eq_ok.mp hoperation).1, hproductNe, hcontextNe, (required_eq_ok.mp hscope).1⟩,
    ⟨heqProduct.symm.trans hsameProduct, heqContext ▸ hsameContext⟩, hmatch⟩

/-- A computation succeeds if its first step does and the rest does then. -/
theorem exists_ok_bind {α β : Type} {x : Except String α} {f : α → Except String β} {a : α}
    (hx : x = .ok a) (hf : ∃ b, f a = .ok b) : ∃ b, x >>= f = .ok b := by
  obtain ⟨b, hb⟩ := hf
  exact ⟨b, bind_eq_ok.mpr ⟨a, hx, hb⟩⟩

/-- The identity of the rollback of a promotion that was read is valid. -/
theorem validate_recoveryIdentity (release : ReleaseEvidence) (target : RollbackTarget)
    (promotion : ReleasePromotion)
    (hidentity : source.identity.validate .promotion = .ok source.identity)
    (hfinished : pyStrip source.finishedAt ≠ "")
    (hgrant : source.identity.authorization.grant ∈ releaseDecisionGrants)
    (htarget : pyStrip target.artifactId = target.artifactId) :
    ∃ read, (release.recoveryRecord source target promotion).identity.validate .rollback =
      .ok read := by
  obtain ⟨⟨-, hproduct, hcontext, hscope⟩, ⟨hsameProduct, hsameContext⟩, hauthProduct, hauthContext,
    hinstances⟩ := promotion_of_validate hidentity
  have hoperation : pyStrip (release.recoveryRecord source target promotion).identity.operationId ≠
      "" := pyStrip_append_ne (by decide : 'o' ∈ _) (by decide)
  have hkey : pyStrip (source.identity.operationId ++ ":failure-recovery") ≠ "" := by
    have hmem : 'f' ∈ (":failure-recovery" : String).toList := by decide
    refine pyStrip_ne_empty ?_ (by decide : isPySpace 'f' = false)
    rw [String.toList_append]
    exact List.mem_append_right _ hmem
  have hgrants : source.identity.authorization.grant ∈ releaseGrants := List.mem_cons_of_mem _ hgrant
  unfold OperationIdentity.validate
  refine exists_ok_bind (required_eq_ok.mpr ⟨hoperation, rfl⟩) ?_
  refine exists_ok_bind (required_eq_ok.mpr ⟨hproduct, rfl⟩) ?_
  refine exists_ok_bind (required_eq_ok.mpr ⟨hcontext, rfl⟩) ?_
  refine exists_ok_bind (required_eq_ok.mpr ⟨hkey, rfl⟩) ?_
  refine exists_ok_bind (required_eq_ok.mpr ⟨hscope, rfl⟩) ?_
  refine exists_ok_bind (required_eq_ok.mpr
    ⟨(release.requestFingerprint _ (ReleaseEvidence.recoveryRequest source target promotion)).notBlank,
      rfl⟩) ?_
  refine exists_ok_bind (required_eq_ok.mpr ⟨hfinished, rfl⟩) ?_
  refine exists_ok_bind (a := ()) ?_ ⟨_, rfl⟩
  simp [OperationIdentity.checkTarget, ReleaseEvidence.recoveryRecord,
    ReleaseEvidence.recoveryRequest, hauthProduct, hauthContext, hinstances, hsameProduct,
    hsameContext, htarget, hgrants]

/-- The rollback of a promotion that was read is valid. -/
theorem validate_recoveryRecord (release : ReleaseEvidence) (target : RollbackTarget)
    (promotion : ReleasePromotion)
    (hidentity : source.identity.validate .promotion = .ok source.identity)
    (hfinished : pyStrip source.finishedAt ≠ "")
    (hgrant : source.identity.authorization.grant ∈ releaseDecisionGrants)
    (htarget : pyStrip target.artifactId = target.artifactId) :
    ∃ read, (release.recoveryRecord source target promotion).validate .rollback = .ok read := by
  obtain ⟨identity, hread⟩ :=
    validate_recoveryIdentity release target promotion hidentity hfinished hgrant htarget
  have hcheckpoint : ∀ evidence : Dict String String,
      (OperationCheckpoint.mk .created source.finishedAt evidence).validate .rollback =
        .ok (.mk .created (pyStrip source.finishedAt) evidence) := by
    intro evidence
    unfold OperationCheckpoint.validate
    rw [if_neg (not_not.mpr (mem_phaseSequence .rollback).1), if_neg hfinished]
  have hcheckpoints := mapM_singleton (hcheckpoint [("recovery_promotion_operation_id",
    source.identity.operationId)])
  unfold OperationRecord.validate
  refine exists_ok_bind (a := ()) (raiseIf_eq_ok.mpr (not_not.mpr (mem_phaseSequence .rollback).1)) ?_
  refine exists_ok_bind hcheckpoints ?_
  refine exists_ok_bind (show _ = Except.ok none from rfl) ?_
  refine exists_ok_bind hread ?_
  refine exists_ok_bind (required_eq_ok.mpr ⟨hfinished, rfl⟩) ?_
  refine exists_ok_bind (a := ())
    (validateReleaseOperationState_eq_ok.mpr ⟨fun _ checkpoint hlast => ?_, rfl⟩) ⟨_, rfl⟩
  cases hlast
  rfl

/-- The artifact of a rollback target that was read is trimmed. -/
theorem artifactId_of_recovery {result : OperationResult} {target : RollbackTarget}
    {promotion : ReleasePromotion} (h : release.recovery source result = some (target, promotion)) :
    pyStrip target.artifactId = target.artifactId := by
  unfold ReleaseEvidence.recovery at h
  simp only [Option.bind_eq_bind, Option.bind_eq_some_iff] at h
  obtain ⟨decision, -, pin, -, artifactId, -, deploymentRecordId, -, read, hread, deployment, -,
    found, -, h⟩ := h
  split_ifs at h
  cases h
  unfold RollbackTarget.validate at hread
  split_ifs at hread
  cases hread
  exact pyStrip_pyStrip artifactId

/-- The recovery of a promotion never fails, queues a rollback that can be read, and finds one where
one brings the release back. -/
theorem buildOdooReleaseRecovery_spec (release : ReleaseEvidence)
    (hidentity : record.identity.validate .promotion = .ok record.identity)
    (hfinished : record.status = .fail → pyStrip record.finishedAt ≠ "") :
    ∃ recovery, release.buildOdooReleaseRecovery record = .ok recovery ∧
      (∀ rollback ∈ recovery, Readable .rollback rollback) ∧
      (record.status = .fail → record.identity.authorization.grant ∈ releaseDecisionGrants →
        odooReleaseWroteProduction record = true → release.operationAborted = false →
          (recovery = none ↔ ¬release.Recovers record record.result)) := by
  have hnone : ∀ rollback ∈ (none : Option OperationRecord), Readable .rollback rollback :=
    fun _ h => absurd h (Option.not_mem_none _)
  unfold ReleaseEvidence.buildOdooReleaseRecovery ReleaseEvidence.Recovers
  cases hresult : record.result with
  | none => exact ⟨none, rfl, hnone, fun _ _ _ _ => by simp⟩
  | some result =>
      dsimp only
      split_ifs with hrefused
      · refine ⟨none, rfl, hnone, fun hfail hgrant hwrote haborted => ⟨?_, fun _ => rfl⟩⟩
        rintro - ⟨hscope, failed, hfailed, hstatus, hpromotion, -⟩
        cases hfailed
        simp [hfail, hgrant, hwrote, haborted, hscope, hstatus, hpromotion] at hrefused
      · simp only [not_or, not_not] at hrefused
        obtain ⟨hfail, -, hgrant, hscope, -, hstatus, hpromotion⟩ := hrefused
        cases hrecovery : release.recovery record result with
        | none =>
            refine ⟨none, rfl, hnone, fun _ _ _ _ => ⟨?_, fun _ => rfl⟩⟩
            rintro - ⟨-, failed, hfailed, -, -, hsome⟩
            cases hfailed
            rw [hrecovery] at hsome
            cases hsome
        | some basis =>
            obtain ⟨target, promotion⟩ := basis
            obtain ⟨rollback, hread⟩ := validate_recoveryRecord release target promotion hidentity
              (hfinished hfail) hgrant (artifactId_of_recovery hrecovery)
            refine ⟨some rollback, ?_, ?_, fun _ _ _ _ => iff_of_false (by simp) (not_not.mpr ?_)⟩
            · dsimp only
              rw [hread]
              rfl
            · intro found hfound
              cases hfound
              exact readable_of_validate hread
            · exact ⟨hscope, result, rfl, hstatus, hpromotion, by rw [hrecovery]; rfl⟩

/-- What is held instead can be read. -/
theorem readable_heldInstead (hparts : PartsOk kind record)
    (hwrote : odooReleaseWroteProduction record = true) : Readable kind record.heldInstead := by
  -- the write to production is a checkpoint, so there is a last one, and the record is held at it
  obtain ⟨wrote, hmem, -⟩ := List.any_eq_true.mp hwrote
  obtain ⟨last, hlast⟩ :=
    Option.isSome_iff_exists.mp (List.getLast?_isSome.mpr (List.ne_nil_of_mem hmem))
  have hphase : record.heldInstead.phase = last.phase := by
    simp [OperationRecord.heldInstead, hlast]
  have hknown : last.phase ∈ kind.phaseSequence := by
    have hvalid := hparts.checkpoints last (List.mem_of_getLast? hlast)
    by_contra hunknown
    rw [OperationCheckpoint.validate, if_pos hunknown] at hvalid
    cases hvalid
  refine (readable_iff ?_).mpr ⟨?_, rfl, holdsLease_released record, rfl, ?_, ?_⟩
  · exact hparts.keep rfl (hphase ▸ hknown) (fun _ hmem => .inl hmem) rfl hparts.updatedAt
  · intro _ checkpoint hcheckpoint
    cases hlast.symm.trans hcheckpoint
    exact hphase.symm
  · exact (by decide : pyStrip "operation_reconciliation_required" ≠ "")
  · exact pyStrip_append_ne (by decide : 'T' ∈ _) (by decide)

/-- The two endings that fail an operation: a result that is not `pass`, and an exception. -/
theorem fail_cases {run : ReleaseRun} {ending : Ending}
    (h : (ending.record kind run current).status = .fail) :
    (∃ result, ending = .terminal result ∧ result.runStatus ≠ .pass) ∨
      ∃ message code, ending = .failed message code := by
  cases ending with
  | terminal result =>
      refine .inl ⟨result, rfl, fun hpass => ?_⟩
      simp [Ending.record, releaseTerminal, hpass] at h
  | failed message code => exact .inr ⟨message, code, rfl⟩
  | deniedHold code => cases h
  | reconciliationHeld message => cases h
  | retriedHeld message => cases h
  | sourceOrderRetry => cases h
  | uncertain message => cases h

/-- What such an ending writes, as far as its completion reads it. -/
theorem record_of_fail {run : ReleaseRun} {ending : Ending} (hparts : PartsOk kind current)
    (h : (ending.record kind run current).status = .fail) :
    PartsOk kind (ending.record kind run current) ∧
      pyStrip (ending.record kind run current).finishedAt ≠ "" := by
  have hfinished := run.finishedAt.pyStrip_ne
  have hfailed := (mem_phaseSequence kind).2.2.2
  rcases fail_cases h with ⟨result, rfl, hpass⟩ | ⟨message, code, rfl⟩
  · refine ⟨hparts.keep rfl ?_ (fun _ hmem => .inl hmem) rfl hfinished, hfinished⟩
    simpa [Ending.record, releaseTerminal, hpass] using hfailed
  · exact ⟨hparts.keep rfl hfailed (fun _ hmem => .inl hmem) rfl hfinished, hfinished⟩

/-- A promotion is held instead exactly when its ending is one that is. -/
theorem lacksRecovery_iff {run : ReleaseRun} {ending : Ending} {recovery : Option OperationRecord}
    (hrecovery : (ending.record .promotion run current).status = .fail →
      current.identity.authorization.grant ∈ releaseDecisionGrants →
        odooReleaseWroteProduction current = true → release.operationAborted = false →
          (recovery = none ↔ ¬release.Recovers current (ending.record .promotion run current).result)) :
    (ending.record .promotion run current).lacksRecovery release recovery = true ↔
      ending.Held .promotion release current := by
  -- either failure is held under its own code when no rollback is found
  have hfailed {code : String} {result : Option OperationResult}
      (hiff : current.identity.authorization.grant ∈ releaseDecisionGrants →
        odooReleaseWroteProduction current = true → release.operationAborted = false →
          (recovery = none ↔ ¬release.Recovers current result)) :
      (current.identity.authorization.grant ∈ releaseDecisionGrants ∧
        odooReleaseWroteProduction current = true ∧ recovery = none ∧
          release.operationAborted = false ∧
            ¬(code = "odoo_cutover_entry_refused" ∧ release.cutover.isNone = true)) ↔
        release.Holds current code result := by
    constructor
    · rintro ⟨hgrant, hwrote, hnone, haborted, hrefused⟩
      exact ⟨hgrant, hwrote, (hiff hgrant hwrote haborted).mp hnone, haborted, hrefused⟩
    · rintro ⟨hgrant, hwrote, hlost, haborted, hrefused⟩
      exact ⟨hgrant, hwrote, (hiff hgrant hwrote haborted).mpr hlost, haborted, hrefused⟩
  by_cases hfail : (ending.record .promotion run current).status = .fail
  · rcases fail_cases hfail with ⟨result, rfl, hpass⟩ | ⟨message, code, rfl⟩
    · have hcode : ((Ending.terminal result).record .promotion run current).errorCode =
          terminalErrorCode .promotion result := by
        simp [Ending.record, releaseTerminal, hpass]
      simp only [OperationRecord.lacksRecovery, decide_eq_true_eq, hfail, hcode, true_and]
      exact (hfailed (hrecovery hfail)).trans ⟨fun h => ⟨rfl, hpass, h⟩, fun h => h.2.2⟩
    · simp only [OperationRecord.lacksRecovery, decide_eq_true_eq]
      exact (and_iff_right rfl).trans ((hfailed (hrecovery rfl)).trans (and_iff_right rfl).symm)
  · -- the other endings write no failure, and none of them is held
    refine iff_of_false (fun hlacks => ?_) fun hheld => ?_
    · simp only [OperationRecord.lacksRecovery, decide_eq_true_eq] at hlacks
      exact hfail hlacks.1
    · cases ending with
      | terminal result => exact hfail (by simp [Ending.record, releaseTerminal, hheld.2.1])
      | failed message code => exact hfail rfl
      | _ => exact hheld

theorem not_held_rollback {ending : Ending} : ¬ending.Held .rollback release current := by
  cases ending with
  | terminal result => exact fun h => by cases h.1
  | failed message code => exact fun h => by cases h.1
  | _ => exact id

/-- **The completion of an ending never fails, and leaves a record that can be read when the ending
is sound or held instead.** -/
theorem completion_spec (hparts : PartsOk kind current) (hstate : StateOk current)
    (release : ReleaseEvidence) (run : ReleaseRun) (ending : Ending) :
    ∃ terminal recovery,
      completion kind release (ending.record kind run current) = .ok (terminal, recovery) ∧
        (∀ rollback ∈ recovery, Readable .rollback rollback) ∧
          (Readable kind terminal ↔ ending.Sound current ∨ ending.Held kind release current) := by
  have hending := readable_ending hparts hstate run ending
  cases kind with
  | rollback =>
      refine ⟨_, none, rfl, fun _ h => absurd h (Option.not_mem_none _), ?_⟩
      rw [hending, or_iff_left not_held_rollback]
  | promotion =>
      have hidentity : (ending.record .promotion run current).identity = current.identity := by
        cases ending <;> rfl
      obtain ⟨recovery, hrecovery, hreadable, hfound⟩ := buildOdooReleaseRecovery_spec release
        (hidentity.symm ▸ hparts.identity) fun hfail => (record_of_fail hparts hfail).2
      have hlacks : (ending.record .promotion run current).lacksRecovery release recovery = true ↔
          ending.Held .promotion release current := by
        refine lacksRecovery_iff fun hfail => ?_
        have hfound' := hfound hfail
        rcases fail_cases hfail with ⟨result, rfl, -⟩ | ⟨message, code, rfl⟩
        · exact hfound'
        · exact hfound'
      have hcompletion : completion .promotion release (ending.record .promotion run current) =
          .ok (if (ending.record .promotion run current).lacksRecovery release recovery then
            (ending.record .promotion run current).heldInstead
          else ending.record .promotion run current, recovery) := by
        unfold completion
        rw [hrecovery]
        rfl
      refine ⟨_, recovery, hcompletion, hreadable, ?_⟩
      by_cases hheld : ending.Held .promotion release current
      · have hyes := hlacks.mpr hheld
        rw [if_pos hyes]
        refine iff_of_true (readable_heldInstead ?_ ?_) (.inr hheld)
        · simp only [OperationRecord.lacksRecovery, decide_eq_true_eq] at hyes
          exact (record_of_fail hparts hyes.1).1
        · simp only [OperationRecord.lacksRecovery, decide_eq_true_eq] at hyes
          exact hyes.2.2.1
      · rw [if_neg (fun hyes => hheld (hlacks.mp hyes)), hending, or_iff_left hheld]

end

end Launchplane.OdooOperation
