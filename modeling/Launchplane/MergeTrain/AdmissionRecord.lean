import Launchplane.MergeTrain.StructuralAdmission

/-!
# Launchplane.MergeTrain.AdmissionRecord

**The two records of the admission ledger.** A merge admission says that one
pull request, at one head and on one base, may now be merged by one holder of
the controller lease. Its landing outcomes say what became of it: `landed` and
`rejected` are final, `reconcileRequired` means that nobody knows yet.

Both are contracts and name themselves by the digest of their content. Times are
instants: `_normalize_timestamp` reads one from a text, and the empty text, which
it refuses, is `none`.
-/

namespace Launchplane.MergeTrain

/-! ### Evidence -/

/-- `MergeReadinessState`. -/
inductive MergeReadinessState
  | ready
  | blockedOwnerEvidence
  | blockedChecks
  | blockedEngineeringReview
  | blockedPolicy
  | blockedCandidateIdentity
  | unknown
  deriving Repr, DecidableEq

/-- `MergeReadinessTarget`. -/
structure MergeReadinessTarget where
  repository : String
  pullRequestNumber : Nat
  baseBranch : String
  baseSha : String
  pullRequestHeadSha : String
  pullRequestTreeSha : String
  expectedEffectSha : String
  queuePosition : Nat
  deriving Repr, DecidableEq

/-- `MergeReadinessFenceEvidence`, as far as an admission compares it. -/
structure MergeReadinessFenceEvidence where
  controllerKey : String
  observedLeaseOwner : String
  leaseExpiresAt : Option Nat
  deriving Repr, DecidableEq

/-- `MergeReadinessPolicyFingerprintEvidence` of the merge train. -/
structure MergeReadinessPolicyFingerprintEvidence where
  expectedSha256 : String
  currentSha256 : String
  deriving Repr, DecidableEq

/-- `MergeReadinessResult`, with the evidence an admission is bound to. -/
structure MergeReadinessResult where
  state : MergeReadinessState
  target : MergeReadinessTarget
  candidateSha : String
  fence : MergeReadinessFenceEvidence
  mergeTrainPolicy : MergeReadinessPolicyFingerprintEvidence
  deriving Repr, DecidableEq

/-! ### The records -/

/-- `MergeAdmissionRecord`. -/
structure MergeAdmissionRecord where
  admissionId : String := ""
  admissionBindingSha256 : String := ""
  attemptId : String
  attemptSequence : Nat
  source : String
  repository : String
  baseBranch : String
  pullRequestNumber : Nat
  queuePosition : Nat
  batchId : String
  candidateRecordId : String
  landingPlanRecordId : String
  landingPlanId : String
  mergeMethod : MergeTrainMergeMethod
  effectiveBaseSha : String
  effectiveBaseTreeSha : String
  pullRequestHeadSha : String
  pullRequestHeadTreeSha : String
  candidateSha : String
  candidateTreeSha : String
  expectedEffectSha : String
  candidateSha256 : String
  structuralProvenanceSha256 : String
  landingPlanSha256 : String
  readiness : MergeReadinessResult
  structuralResult : MergeTrainStructuralCandidateResult
  admissionAlgorithmVersion : String
  controllerKey : String
  leaseOwner : String
  leaseAcquiredAt : Option Nat
  leaseExpiresAt : Option Nat
  createdAt : Nat
  deriving Repr, DecidableEq

/-- `MergeLandingOutcomeStatus`. -/
inductive MergeLandingOutcomeStatus
  | landed | rejected | reconcileRequired
  deriving Repr, DecidableEq

/-- `MergeLandingOutcomeReason`. -/
inductive MergeLandingOutcomeReason
  | providerAndGitConfirmed
  | alreadyContainedNoProviderEffect
  | providerRejected
  | dispatchNotAttempted
  | batchNotDispatched
  | batchReconciliationConfirmedNoEffect
  | reconciliationConfirmedNoEffect
  | providerTransportAmbiguous
  | processInterrupted
  | leaseLostAfterAdmission
  | landingEvidenceIncomplete
  | landingEvidenceContradicted
  deriving Repr, DecidableEq

/-- `MergeTrainPullRequestState`. -/
inductive PullRequestState
  | open | closed
  deriving Repr, DecidableEq

/-- `MergeLandingObservedPullRequestState`; the empty text is `unobserved`. -/
inductive MergeLandingObservedPullRequestState
  | unobserved | opened | closed | merged
  deriving Repr, DecidableEq

/-- `MergeBatchNoEffectEvidence`. Its `merged` and `base_contains_head` can only be false. -/
structure MergeBatchNoEffectEvidence where
  pullRequestNumber : Nat
  headSha : String
  state : PullRequestState
  deriving Repr, DecidableEq

/-- `MergeLandingOutcomeRecord`. -/
structure MergeLandingOutcomeRecord where
  outcomeId : String := ""
  outcomeBindingSha256 : String := ""
  admissionId : String
  admissionBindingSha256 : String
  attemptId : String
  observationSequence : Nat
  priorOutcomeId : String := ""
  source : String
  repository : String
  baseBranch : String
  pullRequestNumber : Nat
  status : MergeLandingOutcomeStatus
  reason : MergeLandingOutcomeReason
  providerEffectAttempted : Bool
  providerConclusiveRejection : Bool := false
  providerStatusCode : Option Int := none
  providerRequestId : String := ""
  providerMessage : String := ""
  observedPullRequestState : MergeLandingObservedPullRequestState := .unobserved
  observedPullRequestHeadSha : String := ""
  observedPullRequestHeadTreeSha : String := ""
  observedBaseSha : String := ""
  observedBaseTreeSha : String := ""
  mergeCommitSha : String := ""
  mergeCommitTreeSha : String := ""
  baseContainsMergeCommit : Option Bool := none
  exactLandingConfirmed : Bool := false
  observedAt : Nat
  batchNoEffect : Option MergeBatchNoEffectEvidence := none
  deriving Repr, DecidableEq

/-! ### Digests -/

/-- `_canonical_sha256` at one kind of payload: some text of the shape of a digest. Nothing here
needs it to be injective. -/
structure Sha256Of (α : Type) where
  digest : α → String
  isSha256_digest : ∀ a, isSha256 (digest a) = true

/-- What `build_merge_effect_attempt_id` digests. -/
structure MergeEffectAttemptPayload where
  controllerKey : String
  leaseOwner : String
  leaseAcquiredAt : Nat
  landingPlanId : String
  pullRequestNumber : Nat
  queuePosition : Nat
  attemptSequence : Nat
  expectedEffectSha : String
  deriving Repr, DecidableEq

/-- The digests of the ledger. -/
structure LedgerDigests where
  attempt : Sha256Of MergeEffectAttemptPayload
  admission : Sha256Of MergeAdmissionRecord
  outcome : Sha256Of MergeLandingOutcomeRecord

/-- A name built from the first digits of a digest. -/
def digestName (kind digest : String) : String :=
  kind ++ String.ofList (digest.toList.take 24)

theorem pyStrip_digestName {kind digest : String}
    (hkind : kind.toList.all (isPySpace · = false) = true) (hdigest : isSha256 digest = true) :
    pyStrip (digestName kind digest) = digestName kind digest := by
  refine pyStrip_eq_self fun c hc => ?_
  rw [digestName, String.toList_append, List.mem_append] at hc
  rcases hc with hc | hc
  · simpa using List.all_eq_true.mp hkind c hc
  · rw [String.toList_ofList] at hc
    simp only [isSha256, Bool.and_eq_true, List.all_eq_true] at hdigest
    exact isPySpace_of_isHexDigit (hdigest.2 c (List.mem_of_mem_take hc))

theorem requiredToken_of_plain (token : String) (hne : token ≠ "")
    (hplain : token.toList.all (isPySpace · = false) = true) (fieldName : String) :
    requiredToken token fieldName = .ok token := by
  have hstrip : pyStrip token = token :=
    pyStrip_eq_self fun c hc => by simpa using List.all_eq_true.mp hplain c hc
  rw [requiredToken, requireText, hstrip, if_neg hne]

theorem requiredToken_digestName {kind digest : String} (hne : kind ≠ "")
    (hkind : kind.toList.all (isPySpace · = false) = true) (hdigest : isSha256 digest = true)
    (fieldName : String) :
    requiredToken (digestName kind digest) fieldName = .ok (digestName kind digest) := by
  have hname : digestName kind digest ≠ "" := by
    intro hempty
    have hnil := congrArg String.toList hempty
    simp [digestName, hne] at hnil
  rw [requiredToken, requireText, pyStrip_digestName hkind hdigest, if_neg hname]

variable (D : LedgerDigests)

/-- `build_merge_effect_attempt_id`. -/
def buildMergeEffectAttemptId (controllerKey leaseOwner : String) (leaseAcquiredAt : Option Nat)
    (landingPlanId : String) (pullRequestNumber queuePosition attemptSequence : Nat)
    (expectedEffectSha : String) : Except String String := do
  raiseIf (pullRequestNumber < 1 ∨ queuePosition < 1 ∨ attemptSequence < 1)
    "merge effect attempt identity requires positive numeric fields"
  let controllerKey ← requiredToken controllerKey "controller_key"
  let leaseOwner ← requiredToken leaseOwner "lease_owner"
  let some leaseAcquiredAt := leaseAcquiredAt | .error "lease_acquired_at must be non-empty"
  let landingPlanId ← requiredToken landingPlanId "landing_plan_id"
  let expectedEffectSha ← normalizeGitSha expectedEffectSha "expected_effect_sha"
  return digestName "merge-effect-attempt-" (D.attempt.digest
    { controllerKey, leaseOwner, leaseAcquiredAt, landingPlanId, pullRequestNumber, queuePosition
      attemptSequence, expectedEffectSha })

/-- `merge_admission_binding_sha256`: the digest of a record without its names. -/
def mergeAdmissionBindingSha256 (record : MergeAdmissionRecord) : String :=
  D.admission.digest { record with admissionId := "", admissionBindingSha256 := "" }

/-- `merge_landing_outcome_binding_sha256`. -/
def mergeLandingOutcomeBindingSha256 (record : MergeLandingOutcomeRecord) : String :=
  D.outcome.digest { record with outcomeId := "", outcomeBindingSha256 := "" }

/-! ### Validation of an admission -/

namespace MergeAdmissionRecord

/-- The comparisons of `_validate_record`, on a record whose fields are in normal form. -/
def checkEvidence (record : MergeAdmissionRecord) : Except String Unit := do
  raiseIf (record.readiness.state ≠ .ready) "merge admission requires ready Level 2 evidence"
  let target := record.readiness.target
  raiseIf (pyLower target.repository ≠ pyLower record.repository ∨
      target.baseBranch ≠ record.baseBranch ∨
      target.pullRequestNumber ≠ record.pullRequestNumber ∨
      target.queuePosition ≠ record.queuePosition ∨
      target.baseSha ≠ record.effectiveBaseSha ∨
      target.pullRequestHeadSha ≠ record.pullRequestHeadSha ∨
      target.pullRequestTreeSha ≠ record.pullRequestHeadTreeSha ∨
      target.expectedEffectSha ≠ record.expectedEffectSha)
    "merge admission identity does not match Level 2 evidence"
  raiseIf (record.structuralResult.status ≠ .exact ∧
      record.structuralResult.status ≠ .recordedRolling)
    "merge admission requires exact structural provenance"
  raiseIf (record.structuralResult.effectiveBaseSha ≠ record.effectiveBaseSha ∨
      record.structuralResult.effectiveBaseTreeSha ≠ record.effectiveBaseTreeSha ∨
      record.structuralResult.candidateSha256 ≠ record.candidateSha256 ∨
      record.structuralResult.landingPlanSha256 ≠ record.landingPlanSha256 ∨
      record.structuralResult.provenanceSha256 ≠ record.structuralProvenanceSha256)
    "merge admission identity does not match structural evidence"
  raiseIf (record.readiness.candidateSha ≠ record.candidateSha)
    "merge admission candidate SHA does not match Level 2 evidence"
  raiseIf (record.readiness.fence.controllerKey ≠ record.controllerKey)
    "merge admission controller key does not match Level 2 evidence"
  raiseIf (record.readiness.fence.observedLeaseOwner ≠ record.leaseOwner)
    "merge admission lease owner does not match Level 2 evidence"
  raiseIf (record.readiness.fence.leaseExpiresAt ≠ record.leaseExpiresAt)
    "merge admission lease expiry does not match Level 2 evidence"

/-- The end of `_validate_record`: a record is named by its attempt and by its digest. -/
def checkNames (record : MergeAdmissionRecord) : Except String MergeAdmissionRecord := do
  let expectedAttemptId ← buildMergeEffectAttemptId D record.controllerKey record.leaseOwner
    record.leaseAcquiredAt record.landingPlanId record.pullRequestNumber record.queuePosition
    record.attemptSequence record.expectedEffectSha
  raiseIf (record.attemptId ≠ expectedAttemptId)
    "merge admission attempt ID does not match its deterministic identity"
  let expectedBinding := mergeAdmissionBindingSha256 D record
  if pyLower (pyStrip record.admissionBindingSha256) ≠ "" then
    let binding ← normalizeSha256 record.admissionBindingSha256 "admission_binding_sha256"
    raiseIf (binding ≠ expectedBinding) "merge admission binding digest does not match payload"
  let expectedId := digestName "merge-admission-" expectedBinding
  raiseIf (pyStrip record.admissionId ≠ "" ∧ pyStrip record.admissionId ≠ expectedId)
    "merge admission id does not match payload"
  return { record with admissionBindingSha256 := expectedBinding, admissionId := expectedId }

/-- `MergeAdmissionRecord._validate_record`. -/
def validate (record : MergeAdmissionRecord) : Except String MergeAdmissionRecord := do
  raiseIf (record.attemptSequence = 0) "attempt_sequence must be greater than or equal to 1"
  raiseIf (record.pullRequestNumber = 0) "pull_request_number must be greater than or equal to 1"
  raiseIf (record.queuePosition = 0) "queue_position must be greater than or equal to 1"
  let repository ← normalizeOwnerName record.repository "repository must be non-empty"
    "repository must use owner/name"
  let attemptId ← requiredToken record.attemptId "attempt_id"
  let source ← requiredToken record.source "source"
  let baseBranch ← requiredToken record.baseBranch "base_branch"
  let batchId ← requiredToken record.batchId "batch_id"
  let candidateRecordId ← requiredToken record.candidateRecordId "candidate_record_id"
  let landingPlanRecordId ← requiredToken record.landingPlanRecordId "landing_plan_record_id"
  let landingPlanId ← requiredToken record.landingPlanId "landing_plan_id"
  let admissionAlgorithmVersion ←
    requiredToken record.admissionAlgorithmVersion "admission_algorithm_version"
  let controllerKey ← requiredToken record.controllerKey "controller_key"
  let leaseOwner ← requiredToken record.leaseOwner "lease_owner"
  let effectiveBaseSha ← normalizeGitSha record.effectiveBaseSha "effective_base_sha"
  let effectiveBaseTreeSha ← normalizeGitSha record.effectiveBaseTreeSha "effective_base_tree_sha"
  let pullRequestHeadSha ← normalizeGitSha record.pullRequestHeadSha "pull_request_head_sha"
  let pullRequestHeadTreeSha ←
    normalizeGitSha record.pullRequestHeadTreeSha "pull_request_head_tree_sha"
  let candidateSha ← normalizeGitSha record.candidateSha "candidate_sha"
  let candidateTreeSha ← normalizeGitSha record.candidateTreeSha "candidate_tree_sha"
  let expectedEffectSha ← normalizeGitSha record.expectedEffectSha "expected_effect_sha"
  let candidateSha256 ← normalizeSha256 record.candidateSha256 "candidate_sha256"
  let structuralProvenanceSha256 ←
    normalizeSha256 record.structuralProvenanceSha256 "structural_provenance_sha256"
  let landingPlanSha256 ← normalizeSha256 record.landingPlanSha256 "landing_plan_sha256"
  raiseIf (record.leaseAcquiredAt = none) "lease_acquired_at must be non-empty"
  raiseIf (record.leaseExpiresAt = none) "lease_expires_at must be non-empty"
  let normalized := { record with
    repository, attemptId, source, baseBranch, batchId, candidateRecordId, landingPlanRecordId
    landingPlanId, admissionAlgorithmVersion, controllerKey, leaseOwner, effectiveBaseSha
    effectiveBaseTreeSha, pullRequestHeadSha, pullRequestHeadTreeSha, candidateSha
    candidateTreeSha, expectedEffectSha, candidateSha256, structuralProvenanceSha256
    landingPlanSha256 }
  checkEvidence normalized
  checkNames D normalized

/-- What an admission that is its own validation has, as far as its outcomes repeat it. -/
structure Normal (record : MergeAdmissionRecord) : Prop where
  pullRequestNumber : record.pullRequestNumber ≠ 0
  repository : normalizeOwnerName record.repository "repository must be non-empty"
    "repository must use owner/name" = .ok record.repository
  attemptId : requiredToken record.attemptId "attempt_id" = .ok record.attemptId
  baseBranch : requiredToken record.baseBranch "base_branch" = .ok record.baseBranch
  effectiveBaseSha : isGitSha record.effectiveBaseSha = true
  effectiveBaseTreeSha : isGitSha record.effectiveBaseTreeSha = true
  pullRequestHeadSha : isGitSha record.pullRequestHeadSha = true
  pullRequestHeadTreeSha : isGitSha record.pullRequestHeadTreeSha = true
  binding : record.admissionBindingSha256 = mergeAdmissionBindingSha256 D record
  named : record.admissionId =
    digestName "merge-admission-" (mergeAdmissionBindingSha256 D record)

variable {D} in
/-- The names come last, and change nothing else. -/
theorem checkNames_eq_ok {record checked : MergeAdmissionRecord}
    (h : record.checkNames D = .ok checked) :
    checked = { record with
      admissionBindingSha256 := mergeAdmissionBindingSha256 D record
      admissionId := digestName "merge-admission-" (mergeAdmissionBindingSha256 D record) } := by
  unfold checkNames at h
  obtain ⟨attemptId, -, h⟩ := bind_eq_ok.mp h
  obtain ⟨-, -, h⟩ := bind_eq_ok.mp h
  dsimp only at h
  split at h
  · obtain ⟨binding, -, h⟩ := bind_eq_ok.mp h
    obtain ⟨-, -, h⟩ := bind_eq_ok.mp h
    obtain ⟨-, -, h⟩ := bind_eq_ok.mp h
    exact (Except.ok.inj h).symm
  · obtain ⟨-, -, h⟩ := bind_eq_ok.mp h
    exact (Except.ok.inj h).symm

variable {D} in
/-- The validator names a record that it has brought into normal form. -/
theorem validate_eq_ok {record validated : MergeAdmissionRecord}
    (h : record.validate D = .ok validated) :
    ∃ normalized, checkNames D normalized = .ok validated ∧ record.pullRequestNumber ≠ 0 ∧
      normalizeOwnerName record.repository "repository must be non-empty"
        "repository must use owner/name" = .ok normalized.repository ∧
      requiredToken record.attemptId "attempt_id" = .ok normalized.attemptId ∧
      requiredToken record.baseBranch "base_branch" = .ok normalized.baseBranch ∧
      isGitSha normalized.effectiveBaseSha = true ∧
      isGitSha normalized.effectiveBaseTreeSha = true ∧
      isGitSha normalized.pullRequestHeadSha = true ∧
      isGitSha normalized.pullRequestHeadTreeSha = true := by
  have hgit {value fieldName sha : String} (hsha : normalizeGitSha value fieldName = .ok sha) :
      isGitSha sha = true := by
    obtain ⟨hvalue, heq⟩ := normalizeGitSha_eq_ok hsha
    rw [heq]
    exact hvalue
  unfold validate at h
  obtain ⟨-, h⟩ := guard_eq_ok.mp h
  obtain ⟨hnumber, h⟩ := guard_eq_ok.mp h
  obtain ⟨-, h⟩ := guard_eq_ok.mp h
  obtain ⟨repository, hrepository, h⟩ := bind_eq_ok.mp h
  obtain ⟨attemptId, hattempt, h⟩ := bind_eq_ok.mp h
  obtain ⟨source, -, h⟩ := bind_eq_ok.mp h
  obtain ⟨baseBranch, hbranch, h⟩ := bind_eq_ok.mp h
  obtain ⟨batchId, -, h⟩ := bind_eq_ok.mp h
  obtain ⟨candidateRecordId, -, h⟩ := bind_eq_ok.mp h
  obtain ⟨landingPlanRecordId, -, h⟩ := bind_eq_ok.mp h
  obtain ⟨landingPlanId, -, h⟩ := bind_eq_ok.mp h
  obtain ⟨version, -, h⟩ := bind_eq_ok.mp h
  obtain ⟨controllerKey, -, h⟩ := bind_eq_ok.mp h
  obtain ⟨leaseOwner, -, h⟩ := bind_eq_ok.mp h
  obtain ⟨base, hbase, h⟩ := bind_eq_ok.mp h
  obtain ⟨baseTree, hbaseTree, h⟩ := bind_eq_ok.mp h
  obtain ⟨head, hhead, h⟩ := bind_eq_ok.mp h
  obtain ⟨headTree, hheadTree, h⟩ := bind_eq_ok.mp h
  obtain ⟨candidate, -, h⟩ := bind_eq_ok.mp h
  obtain ⟨candidateTree, -, h⟩ := bind_eq_ok.mp h
  obtain ⟨effect, -, h⟩ := bind_eq_ok.mp h
  obtain ⟨candidateDigest, -, h⟩ := bind_eq_ok.mp h
  obtain ⟨structuralDigest, -, h⟩ := bind_eq_ok.mp h
  obtain ⟨landingDigest, -, h⟩ := bind_eq_ok.mp h
  obtain ⟨-, h⟩ := guard_eq_ok.mp h
  obtain ⟨-, h⟩ := guard_eq_ok.mp h
  obtain ⟨-, h⟩ := guard_eq_ok.mp h
  exact ⟨_, h, raiseIf_eq_ok.mp hnumber, hrepository, hattempt, hbranch, hgit hbase,
    hgit hbaseTree, hgit hhead, hgit hheadTree⟩

variable {D} in
theorem normal_of_validate {record : MergeAdmissionRecord} (h : record.validate D = .ok record) :
    record.Normal D := by
  obtain ⟨normalized, hcheck, hnumber, hrepository, hattempt, hbranch, hbase, hbaseTree, hhead,
    hheadTree⟩ := validate_eq_ok h
  have hnames := checkNames_eq_ok hcheck
  have hdigest : mergeAdmissionBindingSha256 D record = mergeAdmissionBindingSha256 D normalized := by
    rw [hnames]
    rfl
  have hsame {β : Type} (field : MergeAdmissionRecord → β)
      (hfield : ∀ binding id, field { normalized with
        admissionBindingSha256 := binding, admissionId := id } = field normalized) :
      field normalized = field record := by
    rw [hnames]
    exact (hfield _ _).symm
  exact {
    pullRequestNumber := hnumber
    repository := by rw [hrepository, hsame (·.repository) fun _ _ => rfl]
    attemptId := by rw [hattempt, hsame (·.attemptId) fun _ _ => rfl]
    baseBranch := by rw [hbranch, hsame (·.baseBranch) fun _ _ => rfl]
    effectiveBaseSha := by rw [← hsame (·.effectiveBaseSha) fun _ _ => rfl, hbase]
    effectiveBaseTreeSha := by rw [← hsame (·.effectiveBaseTreeSha) fun _ _ => rfl, hbaseTree]
    pullRequestHeadSha := by rw [← hsame (·.pullRequestHeadSha) fun _ _ => rfl, hhead]
    pullRequestHeadTreeSha := by rw [← hsame (·.pullRequestHeadTreeSha) fun _ _ => rfl, hheadTree]
    binding := by rw [hdigest, hnames]
    named := by rw [hdigest, hnames] }

end MergeAdmissionRecord

/-! ### Validation of an outcome -/

namespace MergeLandingOutcomeRecord

/-- The texts a landed outcome must have. -/
def gitEvidence (record : MergeLandingOutcomeRecord) : List String :=
  [record.observedPullRequestHeadSha, record.observedPullRequestHeadTreeSha, record.observedBaseSha,
    record.observedBaseTreeSha, record.mergeCommitSha, record.mergeCommitTreeSha]

/-- The branch of `_validate_record` for a landed outcome. -/
def checkLanded (record : MergeLandingOutcomeRecord) : Except String Unit := do
  raiseIf (record.providerConclusiveRejection = true)
    "landed outcome cannot carry provider rejection"
  raiseIf (record.exactLandingConfirmed = false ∨ record.baseContainsMergeCommit ≠ some true)
    "landed outcome requires exact settled-state confirmation"
  raiseIf (record.gitEvidence.any (· = "") = true) "landed outcome requires complete Git evidence"
  match record.reason with
  | .alreadyContainedNoProviderEffect =>
    raiseIf (record.providerEffectAttempted = true ∨ record.observationSequence ≠ 1 ∨
        record.providerStatusCode ≠ none ∨ record.providerRequestId ≠ "" ∨
        record.providerMessage ≠ "" ∨ record.observedPullRequestState = .unobserved ∨
        record.mergeCommitSha ≠ record.observedBaseSha ∨
        record.mergeCommitTreeSha ≠ record.observedBaseTreeSha)
      "already-contained outcome requires exact zero-effect base evidence"
  | .providerAndGitConfirmed => .ok ()
  | _ => .error "landed outcome reason is unsupported"

/-- The branch of `_validate_record` for a rejected outcome. -/
def checkRejected (record : MergeLandingOutcomeRecord) : Except String Unit := do
  raiseIf (record.exactLandingConfirmed = true ∨ record.mergeCommitSha ≠ "" ∨
      record.mergeCommitTreeSha ≠ "")
    "rejected outcome cannot claim a landing"
  match record.reason with
  | .providerRejected =>
    raiseIf (record.providerEffectAttempted = false ∨ record.providerConclusiveRejection = false)
      "provider rejection requires conclusive provider refusal"
    raiseIf (record.providerStatusCode = none) "provider rejection requires provider status code"
  | .reconciliationConfirmedNoEffect =>
    raiseIf (record.providerEffectAttempted = false)
      "no-effect reconciliation requires a preceding provider attempt"
    raiseIf (record.providerConclusiveRejection = true ∨ record.providerStatusCode ≠ none)
      "no-effect reconciliation cannot claim provider rejection"
    raiseIf (record.observedPullRequestState ≠ .opened ∨
        record.observedPullRequestHeadSha = "" ∨ record.observedPullRequestHeadTreeSha = "" ∨
        record.observedBaseSha = "" ∨ record.observedBaseTreeSha = "")
      "no-effect reconciliation requires exact open PR and base evidence"
  | .batchReconciliationConfirmedNoEffect =>
    raiseIf (record.providerEffectAttempted = false ∨ record.providerConclusiveRejection = true ∨
        record.providerStatusCode ≠ none ∨ record.batchNoEffect = none ∨
        record.observedBaseSha = "" ∨ record.observedBaseTreeSha = "" ∨
        record.observedPullRequestState ≠ .unobserved ∨ record.observedPullRequestHeadSha ≠ "" ∨
        record.observedPullRequestHeadTreeSha ≠ "")
      "batch no-effect reconciliation requires provider PR and base evidence"
  | .dispatchNotAttempted | .batchNotDispatched =>
    raiseIf (record.observationSequence ≠ 1 ∨ record.providerEffectAttempted = true ∨
        record.providerConclusiveRejection = true ∨ record.providerStatusCode ≠ none ∨
        record.providerRequestId ≠ "" ∨ record.providerMessage ≠ "" ∨
        record.observedPullRequestState ≠ .unobserved ∨ record.observedPullRequestHeadSha ≠ "" ∨
        record.observedPullRequestHeadTreeSha ≠ "" ∨ record.observedBaseSha ≠ "" ∨
        record.observedBaseTreeSha ≠ "" ∨ record.baseContainsMergeCommit ≠ none)
      "dispatch-not-attempted outcome requires a first zero-evidence observation"
  | _ => .error "rejected outcome requires conclusive no-effect evidence"

/-- The branch of `_validate_record` for an outcome that is still open. -/
def checkReconcileRequired (record : MergeLandingOutcomeRecord) : Except String Unit := do
  raiseIf (record.providerConclusiveRejection = true)
    "reconcile-required outcome cannot claim conclusive rejection"
  raiseIf (record.exactLandingConfirmed = true)
    "reconcile-required outcome cannot claim exact landing"
  match record.reason with
  | .providerAndGitConfirmed | .alreadyContainedNoProviderEffect | .providerRejected
  | .dispatchNotAttempted | .batchNotDispatched | .batchReconciliationConfirmedNoEffect =>
    .error "reconcile-required outcome requires an ambiguity reason"
  | _ => .ok ()

/-- The comparisons of `_validate_record`, on a record whose fields are in normal form. -/
def checkStatus (record : MergeLandingOutcomeRecord) : Except String Unit := do
  raiseIf (record.observationSequence = 1 ∧ record.priorOutcomeId ≠ "")
    "first landing outcome cannot reference a prior outcome"
  raiseIf (record.observationSequence > 1 ∧ record.priorOutcomeId = "")
    "reconciled landing outcome requires a prior outcome"
  raiseIf (record.batchNoEffect ≠ none ∧ record.reason ≠ .batchReconciliationConfirmedNoEffect)
    "batch no-effect proof requires its reconciliation reason"
  match record.status with
  | .landed => record.checkLanded
  | .rejected => record.checkRejected
  | .reconcileRequired => record.checkReconcileRequired

/-- The end of `_validate_record`: a record is named by its digest. -/
def checkNames (record : MergeLandingOutcomeRecord) : Except String MergeLandingOutcomeRecord := do
  let expectedBinding := mergeLandingOutcomeBindingSha256 D record
  if pyLower (pyStrip record.outcomeBindingSha256) ≠ "" then
    let binding ← normalizeSha256 record.outcomeBindingSha256 "outcome_binding_sha256"
    raiseIf (binding ≠ expectedBinding) "landing outcome binding digest does not match payload"
  let expectedId := digestName "merge-landing-outcome-" expectedBinding
  raiseIf (pyStrip record.outcomeId ≠ "" ∧ pyStrip record.outcomeId ≠ expectedId)
    "landing outcome id does not match payload"
  return { record with outcomeBindingSha256 := expectedBinding, outcomeId := expectedId }

/-- `MergeLandingOutcomeRecord._validate_record`. -/
def validate (record : MergeLandingOutcomeRecord) : Except String MergeLandingOutcomeRecord := do
  raiseIf (record.observationSequence = 0) "observation_sequence must be greater than or equal to 1"
  raiseIf (record.pullRequestNumber = 0) "pull_request_number must be greater than or equal to 1"
  raiseIf (∃ code ∈ record.providerStatusCode, code < 100 ∨ 599 < code)
    "provider_status_code must be between 100 and 599"
  let repository ← normalizeOwnerName record.repository "repository must be non-empty"
    "repository must use owner/name"
  let admissionId ← requiredToken record.admissionId "admission_id"
  let attemptId ← requiredToken record.attemptId "attempt_id"
  let source ← requiredToken record.source "source"
  let admissionBindingSha256 ←
    normalizeSha256 record.admissionBindingSha256 "admission_binding_sha256"
  let baseBranch ← requiredToken record.baseBranch "base_branch"
  let observedPullRequestHeadSha ←
    normalizeOptionalGitSha record.observedPullRequestHeadSha "observed_pull_request_head_sha"
  let observedPullRequestHeadTreeSha ← normalizeOptionalGitSha
    record.observedPullRequestHeadTreeSha "observed_pull_request_head_tree_sha"
  let observedBaseSha ← normalizeOptionalGitSha record.observedBaseSha "observed_base_sha"
  let observedBaseTreeSha ←
    normalizeOptionalGitSha record.observedBaseTreeSha "observed_base_tree_sha"
  let mergeCommitSha ← normalizeOptionalGitSha record.mergeCommitSha "merge_commit_sha"
  let mergeCommitTreeSha ←
    normalizeOptionalGitSha record.mergeCommitTreeSha "merge_commit_tree_sha"
  let normalized := { record with
    repository, admissionId, attemptId, source, admissionBindingSha256, baseBranch
    observedPullRequestHeadSha, observedPullRequestHeadTreeSha, observedBaseSha
    observedBaseTreeSha, mergeCommitSha, mergeCommitTreeSha
    priorOutcomeId := pyStrip record.priorOutcomeId
    providerRequestId := pyStrip record.providerRequestId
    providerMessage := pyStrip record.providerMessage }
  checkStatus normalized
  checkNames D normalized

/-- A record under its names. -/
def named (record : MergeLandingOutcomeRecord) : MergeLandingOutcomeRecord :=
  { record with
    outcomeBindingSha256 := mergeLandingOutcomeBindingSha256 D record
    outcomeId := digestName "merge-landing-outcome-" (mergeLandingOutcomeBindingSha256 D record) }

theorem checkNames_named (record : MergeLandingOutcomeRecord) :
    (record.named D).checkNames D = .ok (record.named D) := by
  have hdigest := D.outcome.isSha256_digest { record with outcomeId := "", outcomeBindingSha256 := "" }
  have hbinding : normalizeSha256 (record.named D).outcomeBindingSha256 "outcome_binding_sha256" =
      .ok (mergeLandingOutcomeBindingSha256 D (record.named D)) :=
    normalizeSha256_of_isSha256 hdigest _
  have hid : ¬ (pyStrip (record.named D).outcomeId ≠ "" ∧ pyStrip (record.named D).outcomeId ≠
      digestName "merge-landing-outcome-" (mergeLandingOutcomeBindingSha256 D (record.named D))) :=
    fun h => h.2 (pyStrip_digestName (by decide) hdigest)
  unfold checkNames
  dsimp only
  split
  · exact bind_eq_ok.mpr ⟨_, hbinding, guard_eq_ok.mpr ⟨raiseIf_eq_ok.mpr (not_not.mpr rfl),
      guard_eq_ok.mpr ⟨raiseIf_eq_ok.mpr hid, rfl⟩⟩⟩
  · exact guard_eq_ok.mpr ⟨raiseIf_eq_ok.mpr hid, rfl⟩

/-- A Git SHA in normal form, or no text. -/
def NormalSha (sha : String) : Prop := sha = "" ∨ isGitSha sha = true

theorem NormalSha.normalize {sha : String} (h : NormalSha sha) (fieldName : String) :
    normalizeOptionalGitSha sha fieldName = .ok sha := by
  rcases h with rfl | hsha
  · exact if_pos (by decide)
  · obtain ⟨hstrip, hlower⟩ := normal_of_isHexDigit (Bool.and_eq_true_iff.mp hsha).2
    rw [normalizeOptionalGitSha, hstrip, hlower, if_neg (isGitSha_ne_empty hsha), if_pos hsha]

variable {D} in
/-- A first observation of an admission, under its names, is its own validation. -/
theorem validate_named {admission : MergeAdmissionRecord} (h : admission.Normal D)
    {record : MergeLandingOutcomeRecord} (hsequence : record.observationSequence = 1)
    (hnumber : record.pullRequestNumber = admission.pullRequestNumber)
    (hcode : ¬ ∃ code ∈ record.providerStatusCode, code < 100 ∨ 599 < code)
    (hrepository : record.repository = admission.repository)
    (hadmission : record.admissionId = admission.admissionId)
    (hattempt : record.attemptId = admission.attemptId)
    (hsource : requiredToken record.source "source" = .ok record.source)
    (hbinding : record.admissionBindingSha256 = admission.admissionBindingSha256)
    (hbranch : record.baseBranch = admission.baseBranch)
    (hhead : NormalSha record.observedPullRequestHeadSha)
    (hheadTree : NormalSha record.observedPullRequestHeadTreeSha)
    (hbase : NormalSha record.observedBaseSha) (hbaseTree : NormalSha record.observedBaseTreeSha)
    (hmerge : NormalSha record.mergeCommitSha) (hmergeTree : NormalSha record.mergeCommitTreeSha)
    (htexts : record.priorOutcomeId = "" ∧ record.providerRequestId = "" ∧
      record.providerMessage = "")
    (hstatus : record.checkStatus = .ok ()) :
    (record.named D).validate D = .ok (record.named D) := by
  have hdigest : isSha256 (mergeAdmissionBindingSha256 D admission) = true :=
    D.admission.isSha256_digest _
  have hid : requiredToken record.admissionId "admission_id" = .ok record.admissionId := by
    rw [hadmission, h.named]
    exact requiredToken_digestName (by decide) (by decide) hdigest "admission_id"
  have hsha : normalizeSha256 record.admissionBindingSha256 "admission_binding_sha256" =
      .ok record.admissionBindingSha256 := by
    rw [hbinding, h.binding]
    exact normalizeSha256_of_isSha256 hdigest _
  have hself : { record.named D with
      priorOutcomeId := pyStrip record.priorOutcomeId
      providerRequestId := pyStrip record.providerRequestId
      providerMessage := pyStrip record.providerMessage } = record.named D := by
    have hblank : pyStrip "" = "" := by decide
    simp only [named, htexts.1, htexts.2.1, htexts.2.2, hblank]
  refine guard_eq_ok.mpr ⟨raiseIf_eq_ok.mpr (show ¬ record.observationSequence = 0 by omega), ?_⟩
  refine guard_eq_ok.mpr ⟨raiseIf_eq_ok.mpr (show ¬ record.pullRequestNumber = 0 from
    hnumber ▸ h.pullRequestNumber), ?_⟩
  refine guard_eq_ok.mpr ⟨raiseIf_eq_ok.mpr hcode, ?_⟩
  refine bind_eq_ok.mpr ⟨record.repository, hrepository ▸ h.repository, ?_⟩
  refine bind_eq_ok.mpr ⟨record.admissionId, hid, ?_⟩
  refine bind_eq_ok.mpr ⟨record.attemptId, hattempt ▸ h.attemptId, ?_⟩
  refine bind_eq_ok.mpr ⟨record.source, hsource, ?_⟩
  refine bind_eq_ok.mpr ⟨record.admissionBindingSha256, hsha, ?_⟩
  refine bind_eq_ok.mpr ⟨record.baseBranch, hbranch ▸ h.baseBranch, ?_⟩
  refine bind_eq_ok.mpr ⟨record.observedPullRequestHeadSha, hhead.normalize _, ?_⟩
  refine bind_eq_ok.mpr ⟨record.observedPullRequestHeadTreeSha, hheadTree.normalize _, ?_⟩
  refine bind_eq_ok.mpr ⟨record.observedBaseSha, hbase.normalize _, ?_⟩
  refine bind_eq_ok.mpr ⟨record.observedBaseTreeSha, hbaseTree.normalize _, ?_⟩
  refine bind_eq_ok.mpr ⟨record.mergeCommitSha, hmerge.normalize _, ?_⟩
  refine bind_eq_ok.mpr ⟨record.mergeCommitTreeSha, hmergeTree.normalize _, ?_⟩
  have hend : (do
      checkStatus (record.named D)
      checkNames D (record.named D)) = .ok (record.named D) :=
    guard_eq_ok.mpr ⟨hstatus, checkNames_named D record⟩
  rw [← hself] at hend
  exact hend.trans (congrArg Except.ok hself)

end MergeLandingOutcomeRecord

/-! ### The rules between records -/

/-- `validate_merge_landing_outcome_for_admission`. -/
def validateMergeLandingOutcomeForAdmission (admission : MergeAdmissionRecord)
    (outcome : MergeLandingOutcomeRecord) : Except String Unit := do
  raiseIf (outcome.admissionId ≠ admission.admissionId ∨
      outcome.admissionBindingSha256 ≠ admission.admissionBindingSha256 ∨
      outcome.attemptId ≠ admission.attemptId ∨
      pyLower outcome.repository ≠ pyLower admission.repository ∨
      outcome.baseBranch ≠ admission.baseBranch ∨
      outcome.pullRequestNumber ≠ admission.pullRequestNumber)
    "landing outcome does not match its merge admission"
  raiseIf (outcome.status = .landed ∧
      (outcome.observedPullRequestHeadSha ≠ admission.pullRequestHeadSha ∨
        outcome.observedPullRequestHeadTreeSha ≠ admission.pullRequestHeadTreeSha))
    "landed outcome head identity does not match admission"
  raiseIf (outcome.reason = .reconciliationConfirmedNoEffect ∧
      (outcome.observedPullRequestState ≠ .opened ∨
        outcome.observedPullRequestHeadSha ≠ admission.pullRequestHeadSha ∨
        outcome.observedPullRequestHeadTreeSha ≠ admission.pullRequestHeadTreeSha ∨
        outcome.observedBaseSha ≠ admission.effectiveBaseSha ∨
        outcome.observedBaseTreeSha ≠ admission.effectiveBaseTreeSha))
    "no-effect reconciliation evidence does not match admission"
  raiseIf (outcome.reason = .batchReconciliationConfirmedNoEffect ∧
      ¬ ∃ evidence ∈ outcome.batchNoEffect, evidence.headSha = admission.candidateSha ∧
        evidence.pullRequestNumber ≠ admission.pullRequestNumber)
    "batch no-effect proof does not match the admitted candidate"
  raiseIf (outcome.reason = .alreadyContainedNoProviderEffect ∧
      (outcome.status ≠ .landed ∨
        outcome.observedPullRequestHeadSha ≠ admission.pullRequestHeadSha ∨
        outcome.observedPullRequestHeadTreeSha ≠ admission.pullRequestHeadTreeSha ∨
        outcome.observedBaseSha ≠ admission.effectiveBaseSha ∨
        outcome.observedBaseTreeSha ≠ admission.effectiveBaseTreeSha ∨
        outcome.mergeCommitSha ≠ admission.effectiveBaseSha ∨
        outcome.mergeCommitTreeSha ≠ admission.effectiveBaseTreeSha))
    "already-contained outcome evidence does not match admission"

/-- `validate_merge_landing_outcome_successor`. -/
def validateMergeLandingOutcomeSuccessor (prior successor : MergeLandingOutcomeRecord) :
    Except String Unit := do
  raiseIf (prior.status ≠ .reconcileRequired) "terminal landing outcomes cannot be superseded"
  raiseIf (successor.admissionId ≠ prior.admissionId ∨
      successor.admissionBindingSha256 ≠ prior.admissionBindingSha256 ∨
      successor.attemptId ≠ prior.attemptId ∨
      successor.observationSequence ≠ prior.observationSequence + 1 ∨
      successor.priorOutcomeId ≠ prior.outcomeId)
    "landing outcome reconciliation chain is invalid"

end Launchplane.MergeTrain
