import Launchplane.MergeTrain.Candidate
import Launchplane.MergeTrain.StackCollapsePlan

/-!
# Launchplane.MergeTrain.StructuralAdmission

**Is the branch that is about to be merged onto the branch that was tested?**
`evaluateMergeTrainStructuralCandidate` compares what is observed now (base,
queue, heads) with the recorded candidate and the landing plan, and answers
`exact` or `recordedRolling` only when they agree.

For a target behind the first position the base has moved since the candidate
was tested, once for each entry landed ahead of it. Two chains are followed
together: the one the candidate was built along and the one that actually
landed. `rollingBase` is that loop; `landedChain_of_rollingBase` says what it
accepts, and the two chains meet in the tree of the observed base.
-/

namespace Launchplane.MergeTrain

open Launchplane.Chain

/-- `MergeReadinessStructuralCandidateStatus`. -/
inductive MergeReadinessStructuralCandidateStatus
  | exact | recordedRolling | mismatch | unknown
  deriving Repr, DecidableEq

/-- `MergeTrainStructuralReasonCode`, as far as the evaluation of a candidate uses it. -/
inductive MergeTrainStructuralReasonCode
  | singleEntryExact
  | batchEntryExact
  | rollingChainRecorded
  | stackRootRecorded
  | evidenceUnavailable
  | recordSuperseded
  | candidateIncomplete
  | provenanceMissing
  | landingPlanMissing
  | landingPlanSuperseded
  | repositoryMismatch
  | baseBranchMismatch
  | policyMismatch
  | candidateDigestMismatch
  | landingPlanDigestMismatch
  | provenanceDigestMismatch
  | candidateShaMismatch
  | candidateTreeMismatch
  | entryAbsent
  | positionMismatch
  | headShaMismatch
  | headTreeMismatch
  | queueDrift
  | baseShaMismatch
  | baseTreeMismatch
  | rollingChainBroken
  | priorEntryNotLanded
  | landingEvidenceUnavailable
  | priorEntryHeadMismatch
  | priorEntryTreeMismatch
  | stackRootUnproven
  deriving Repr, DecidableEq

/-- `MergeTrainStructuralEntryObservation`, without the deltas the evaluation does not read. -/
structure MergeTrainStructuralEntryObservation where
  position : Nat
  pullRequestNumber : Nat
  headSha : String
  headTreeSha : String
  deriving Repr, DecidableEq

/-- `MergeTrainStructuralEntryObservation._validate_observation`. -/
def MergeTrainStructuralEntryObservation.validate (entry : MergeTrainStructuralEntryObservation) :
    Except String MergeTrainStructuralEntryObservation := do
  raiseIf (entry.position = 0) "position must be greater than or equal to 1"
  raiseIf (entry.pullRequestNumber = 0) "pull_request_number must be greater than or equal to 1"
  let headSha ← requiredToken entry.headSha "head_sha"
  let headTreeSha ← requiredToken entry.headTreeSha "head_tree_sha"
  return { entry with headSha, headTreeSha }

/-- `MergeTrainStructuralEvaluationInput`. -/
structure MergeTrainStructuralEvaluationInput where
  repository : String
  baseBranch : String
  targetPullRequestNumber : Nat
  targetQueuePosition : Nat
  observedBaseSha : String
  observedBaseTreeSha : String
  policyKey : String
  policySha256 : String
  activeCandidateSha256 : String
  activeLandingPlanSha256 : String
  entries : List MergeTrainStructuralEntryObservation
  deriving Repr, DecidableEq

namespace MergeTrainStructuralEvaluationInput

/-- `MergeTrainStructuralEvaluationInput._validate_input`. -/
def validate (input : MergeTrainStructuralEvaluationInput) :
    Except String MergeTrainStructuralEvaluationInput := do
  raiseIf (input.targetPullRequestNumber = 0)
    "target_pull_request_number must be greater than or equal to 1"
  raiseIf (input.targetQueuePosition = 0)
    "target_queue_position must be greater than or equal to 1"
  let entries ← input.entries.mapM MergeTrainStructuralEntryObservation.validate
  let repository ← normalizeOwnerName input.repository "repository must be non-empty"
    "repository must use owner/name"
  let baseBranch ← requiredToken input.baseBranch "base_branch"
  let observedBaseSha ← requiredToken input.observedBaseSha "observed_base_sha"
  let observedBaseTreeSha ← requiredToken input.observedBaseTreeSha "observed_base_tree_sha"
  let policyKey ← requiredToken input.policyKey "policy_key"
  let policySha256 ← requiredToken input.policySha256 "policy_sha256"
  let activeCandidateSha256 ← requiredToken input.activeCandidateSha256 "active_candidate_sha256"
  let activeLandingPlanSha256 ←
    requiredToken input.activeLandingPlanSha256 "active_landing_plan_sha256"
  raiseIf (entries = []) "Structural evaluation requires queue entries"
  raiseIf (entries.map (·.position) ≠ List.range' 1 entries.length)
    "Structural evaluation queue positions must be contiguous"
  raiseIf (¬ (entries.map (·.pullRequestNumber)).Nodup)
    "Structural evaluation queue pull requests must be unique"
  return { input with
    entries, repository, baseBranch, observedBaseSha, observedBaseTreeSha, policyKey, policySha256
    activeCandidateSha256, activeLandingPlanSha256 }

end MergeTrainStructuralEvaluationInput

/-- `MergeTrainStructuralCandidateResult`. -/
structure MergeTrainStructuralCandidateResult where
  status : MergeReadinessStructuralCandidateStatus
  reasonCodes : List MergeTrainStructuralReasonCode
  effectiveBaseSha : String := ""
  effectiveBaseTreeSha : String := ""
  candidateSha256 : String := ""
  landingPlanSha256 : String := ""
  provenanceSha256 : String := ""
  deriving Repr, DecidableEq

/-! ### The evaluation -/

/-- The digests the evaluation compares with: the ref an ordinary job owns, which is
`build_ordinary_merge_train_candidate_ref` of its binding and the batch, and
`merge_train_repository_execution_sha256`. -/
structure AdmissionDigests where
  ordinaryCandidateRef : OrdinaryAgentJobBinding → String → String
  repositoryExecution : MergeTrainRepositoryPolicy → String

section Evaluation

variable (A : AdmissionDigests) (recordStore : Option (List MergeTrainPolicyRecord))

/-- `ordinary_candidate_is_exact_landing_dependency`. -/
def ordinaryCandidateIsExactLandingDependency (candidateRecord : MergeTrainBatchCandidateRecord)
    (landingPlanRecord : MergeTrainBatchLandingPlanRecord) : Bool :=
  let candidate := candidateRecord.candidate
  let plan := landingPlanRecord.landingPlan
  match landingPlanRecord.ordinaryJobBinding, candidate.structuralProvenance with
  | some binding, some provenance =>
    landingPlanRecord.status = .active ∧
      candidateRecord.ordinaryJobBinding = some binding ∧
      candidate.status = .passed ∧
      provenance.complete = true ∧
      candidate.stackCollapseRoot = none ∧
      candidate.candidateRef = A.ordinaryCandidateRef binding candidate.batchId ∧
      pyLower plan.repository = pyLower candidate.repository ∧
      plan.baseBranch = candidate.baseBranch ∧
      plan.batchId = candidate.batchId ∧
      plan.candidateRef = candidate.candidateRef ∧
      plan.candidateSha = candidate.candidateSha ∧
      plan.candidateTreeSha = candidate.candidateTreeSha ∧
      plan.candidateSha256 = candidate.candidateSha256 ∧
      plan.structuralProvenanceSha256 = provenance.provenanceSha256 ∧
      plan.policyKey = candidate.policyKey ∧
      plan.policySha256 = candidate.policySha256
  | _, _ => false

/-- A refusal: the status and reason a check ends the evaluation with. -/
abbrev Refusal := MergeReadinessStructuralCandidateStatus × MergeTrainStructuralReasonCode

/-- The loop of `_landing_plan_shape_result` over the three sequences together, which `zip` with
`strict=True` refuses to take when their lengths differ. -/
def landingPlanEntriesShape (baseSha : String) : List MergeTrainBatchEntry →
    List MergeTrainBatchLandingEntry → List MergeTrainRollingStep →
    Except TrainError (Option Refusal)
  | [], [], [] => .ok none
  | candidateEntry :: candidateEntries, landingEntry :: landingEntries, step :: steps =>
    if landingEntry.expectedHeadSha ≠ candidateEntry.headSha then
      .ok (some (.mismatch, .headShaMismatch))
    else if landingEntry.expectedHeadTreeSha ≠ candidateEntry.headTreeSha then
      .ok (some (.mismatch, .headTreeMismatch))
    else if landingEntry.expectedBaseSha ≠ baseSha then
      .ok (some (.mismatch, .baseShaMismatch))
    else if (landingEntry.recordedCandidateParentSha, landingEntry.recordedCandidateParentTreeSha,
        landingEntry.recordedCandidateResultSha, landingEntry.recordedCandidateResultTreeSha) ≠
        (step.parentSha, step.parentTreeSha, step.resultSha, step.resultTreeSha) then
      .ok (some (.mismatch, .rollingChainBroken))
    else landingPlanEntriesShape baseSha candidateEntries landingEntries steps
  | _, _, _ => .error (.valueError "zip() arguments have different lengths")

/-- `_landing_plan_shape_result`. -/
def landingPlanShapeResult (candidate : MergeTrainBatchCandidate)
    (provenance : MergeTrainStructuralProvenance) (plan : MergeTrainBatchLandingPlan) :
    Except TrainError (Option Refusal) :=
  if plan.entries.length < candidate.entries.length then
    .ok (some (.unknown, .landingEvidenceUnavailable))
  else if candidate.entries.length < plan.entries.length then
    .ok (some (.mismatch, .positionMismatch))
  else if plan.entries.map (fun entry => (entry.position, entry.pullRequestNumber)) ≠
      candidate.entries.map (fun entry => (entry.position, entry.pullRequestNumber)) then
    .ok (some (.mismatch, .positionMismatch))
  else landingPlanEntriesShape candidate.baseSha candidate.entries plan.entries provenance.steps

/-- `_common_identity_mismatch`. -/
def commonIdentityMismatch (evaluation : MergeTrainStructuralEvaluationInput)
    (candidate : MergeTrainBatchCandidate) (provenance : MergeTrainStructuralProvenance)
    (plan : MergeTrainBatchLandingPlan) : Option MergeTrainStructuralReasonCode :=
  if pyLower candidate.repository ≠ pyLower evaluation.repository ∨
      pyLower plan.repository ≠ pyLower evaluation.repository then
    some .repositoryMismatch
  else if candidate.baseBranch ≠ evaluation.baseBranch ∨
      plan.baseBranch ≠ evaluation.baseBranch then
    some .baseBranchMismatch
  else if candidate.policyKey ≠ evaluation.policyKey ∨
      candidate.policySha256 ≠ evaluation.policySha256 ∨
      plan.policyKey ≠ evaluation.policyKey ∨ plan.policySha256 ≠ evaluation.policySha256 then
    some .policyMismatch
  else if candidate.candidateSha256 = "" ∨
      candidate.candidateSha256 ≠ evaluation.activeCandidateSha256 ∨
      plan.candidateSha256 ≠ candidate.candidateSha256 then
    some .candidateDigestMismatch
  else if plan.landingPlanSha256 ≠ evaluation.activeLandingPlanSha256 then
    some .landingPlanDigestMismatch
  else if plan.structuralProvenanceSha256 ≠ provenance.provenanceSha256 then
    some .provenanceDigestMismatch
  else if plan.candidateSha ≠ candidate.candidateSha then
    some .candidateShaMismatch
  else if plan.candidateTreeSha ≠ candidate.candidateTreeSha then
    some .candidateTreeMismatch
  else if plan.batchId ≠ candidate.batchId ∨ plan.candidateRef ≠ candidate.candidateRef then
    some .candidateDigestMismatch
  else none

/-- One turn of the loop of `_queue_identity_mismatch`. -/
def queueEntryMismatch (current : MergeTrainStructuralEntryObservation)
    (recorded : MergeTrainBatchEntry) : Option MergeTrainStructuralReasonCode :=
  if current.position ≠ recorded.position ∨
      current.pullRequestNumber ≠ recorded.pullRequestNumber then
    some .queueDrift
  else if current.headSha ≠ recorded.headSha then some .headShaMismatch
  else if current.headTreeSha ≠ recorded.headTreeSha then some .headTreeMismatch
  else none

/-- `_queue_identity_mismatch`. -/
def queueIdentityMismatch (observed : List MergeTrainStructuralEntryObservation)
    (entries : List MergeTrainBatchEntry) : Option MergeTrainStructuralReasonCode :=
  if observed.length ≠ entries.length then some .queueDrift
  else (observed.zip entries).findSome? fun pair => queueEntryMismatch pair.1 pair.2

/-- `_stack_root_reason`. -/
def stackRootReason (evaluation : MergeTrainStructuralEvaluationInput)
    (provenance : MergeTrainStructuralProvenance)
    (stackCollapseRecord : Option MergeTrainStackCollapsePlanRecord) :
    Option MergeTrainStructuralReasonCode :=
  match provenance.stackCollapseRoot with
  | none => none
  | some proof =>
    match stackCollapseRecord with
    | none => some .stackRootUnproven
    | some record =>
      let plan := record.plan
      if record.status ≠ .active ∨
          record.recordId ≠ proof.collapseRecordId ∨
          plan.collapseId ≠ proof.collapseId ∨
          plan.rootPullRequestNumber ≠ proof.rootPullRequestNumber ∨
          plan.rootInitialHeadSha ≠ proof.originalRootHeadSha ∨
          plan.stackCollapseExpectedRootHeadSha ≠ proof.collapsedRootHeadSha ∨
          pyLower plan.repository ≠ pyLower evaluation.repository ∨
          plan.baseBranch ≠ evaluation.baseBranch ∨
          plan.policyKey ≠ evaluation.policyKey ∨
          mergeTrainPolicyBindingsMatch A.repositoryExecution recordStore plan.policyKey
            plan.policySha256 evaluation.policySha256 = false ∨
          plan.status ∉ [MergeTrainStackCollapseStatus.waitingForRootChecks,
            MergeTrainStackCollapseStatus.readyForTrain] then
        some .stackRootUnproven
      else some .stackRootRecorded

/-- The commit and tree an entry was landed onto. -/
def MergeTrainBatchLandingEntry.rollingBase (entry : MergeTrainBatchLandingEntry) :
    String × String :=
  (entry.recordedRollingBaseSha, entry.recordedRollingBaseTreeSha)

/-- The commit and tree an entry left behind. -/
def MergeTrainBatchLandingEntry.mergeCommit (entry : MergeTrainBatchLandingEntry) :
    String × String :=
  (entry.mergeCommitSha, entry.mergeCommitTreeSha)

/-- The evidence of landing that `_rolling_base_result` requires of a prior entry. -/
def MergeTrainBatchLandingEntry.landingEvidence (entry : MergeTrainBatchLandingEntry) :
    List String :=
  [entry.recordedRollingBaseSha, entry.recordedRollingBaseTreeSha, entry.landedHeadSha,
    entry.landedHeadTreeSha, entry.mergeCommitSha, entry.mergeCommitTreeSha]

/-- One turn of the loop of `_rolling_base_result`: the checks of one prior entry. -/
def priorEntryRefusal (expectedParent : String × String) (landingEntry : MergeTrainBatchLandingEntry)
    (candidateEntry : MergeTrainBatchEntry) (step : MergeTrainRollingStep) : Option Refusal :=
  if landingEntry.status ≠ .merged ∧ landingEntry.status ≠ .skipped then
    some (.unknown, .priorEntryNotLanded)
  else if landingEntry.landingEvidence.any (· = "") then
    some (.unknown, .landingEvidenceUnavailable)
  else if landingEntry.landedHeadSha ≠ candidateEntry.headSha then
    some (.mismatch, .priorEntryHeadMismatch)
  else if landingEntry.landedHeadTreeSha ≠ candidateEntry.headTreeSha then
    some (.mismatch, .priorEntryTreeMismatch)
  else if landingEntry.recordedCandidateParentSha ≠ step.parentSha ∨
      landingEntry.recordedCandidateParentTreeSha ≠ step.parentTreeSha ∨
      landingEntry.recordedCandidateResultSha ≠ step.resultSha ∨
      landingEntry.recordedCandidateResultTreeSha ≠ step.resultTreeSha then
    some (.mismatch, .rollingChainBroken)
  else if landingEntry.rollingBase ≠ expectedParent then
    some (.mismatch, .rollingChainBroken)
  else if landingEntry.status = .skipped ∧
      (step.kind ≠ .noOpAlreadyContained ∨ landingEntry.mergeCommit ≠ expectedParent) then
    some (.mismatch, .rollingChainBroken)
  else if landingEntry.status ≠ .skipped ∧ step.kind ≠ .mergeCommit then
    some (.mismatch, .rollingChainBroken)
  else if landingEntry.mergeCommitTreeSha ≠ step.resultTreeSha then
    some (.mismatch, .rollingChainBroken)
  else none

/-- The loop of `_rolling_base_result` over the given number of prior entries: the commit and tree
the next entry must be landed onto. -/
def rollingBase : Nat → String × String → List MergeTrainBatchLandingEntry →
    List MergeTrainBatchEntry → List MergeTrainRollingStep → Except Refusal (String × String)
  | 0, expectedParent, _, _, _ => .ok expectedParent
  | prior + 1, expectedParent, landingEntry :: landingEntries, candidateEntry :: candidateEntries,
      step :: steps =>
    match priorEntryRefusal expectedParent landingEntry candidateEntry step with
    | some refusal => .error refusal
    | none => rollingBase prior landingEntry.mergeCommit landingEntries candidateEntries steps
  | _ + 1, _, _, _, _ => .error (.unknown, .landingEvidenceUnavailable)

/-- `_rolling_base_result`. -/
def rollingBaseResult (evaluation : MergeTrainStructuralEvaluationInput)
    (candidate : MergeTrainBatchCandidate) (provenance : MergeTrainStructuralProvenance)
    (plan : MergeTrainBatchLandingPlan) : Option Refusal :=
  match rollingBase (evaluation.targetQueuePosition - 1) (candidate.baseSha, provenance.baseTreeSha)
      plan.entries candidate.entries provenance.steps with
  | .error refusal => some refusal
  | .ok expectedParent =>
    if evaluation.observedBaseSha ≠ expectedParent.1 then some (.mismatch, .baseShaMismatch)
    else if evaluation.observedBaseTreeSha ≠ expectedParent.2 then
      some (.mismatch, .baseTreeMismatch)
    else none

/-- `_result`, given the digests that are known so far. -/
def structuralResult (status : MergeReadinessStructuralCandidateStatus)
    (reason : MergeTrainStructuralReasonCode)
    (candidateSha256 landingPlanSha256 provenanceSha256 : String) :
    MergeTrainStructuralCandidateResult :=
  { status
    reasonCodes := [reason]
    candidateSha256 := pyStrip candidateSha256
    landingPlanSha256 := pyStrip landingPlanSha256
    provenanceSha256 := pyStrip provenanceSha256 }

/-- `_success_result` and `_bound_result`, which record the same evidence. -/
def boundResult (evaluation : MergeTrainStructuralEvaluationInput)
    (candidate : MergeTrainBatchCandidate) (provenance : MergeTrainStructuralProvenance)
    (plan : MergeTrainBatchLandingPlan) (verdict : Refusal) : MergeTrainStructuralCandidateResult :=
  { structuralResult verdict.1 verdict.2 candidate.candidateSha256 plan.landingPlanSha256
      provenance.provenanceSha256 with
    effectiveBaseSha := pyStrip evaluation.observedBaseSha
    effectiveBaseTreeSha := pyStrip evaluation.observedBaseTreeSha }

/-- The end of the evaluation, once identity and queue agree: the base the target is merged onto. -/
def evaluateObservedBase (evaluation : MergeTrainStructuralEvaluationInput)
    (candidate : MergeTrainBatchCandidate) (provenance : MergeTrainStructuralProvenance)
    (plan : MergeTrainBatchLandingPlan) (stackReason : Option MergeTrainStructuralReasonCode) :
    Refusal :=
  if evaluation.targetQueuePosition = 1 ∨ plan.candidatePullRequestNumber ≠ none then
    if evaluation.observedBaseSha ≠ candidate.baseSha then (.mismatch, .baseShaMismatch)
    else if evaluation.observedBaseTreeSha ≠ provenance.baseTreeSha then
      (.mismatch, .baseTreeMismatch)
    else if stackReason = some .stackRootRecorded then (.recordedRolling, .stackRootRecorded)
    else if candidate.entries.length = 1 then (.exact, .singleEntryExact)
    else (.exact, .batchEntryExact)
  else (rollingBaseResult evaluation candidate provenance plan).getD
    (.recordedRolling, .rollingChainRecorded)

/-- The middle of the evaluation, once identity and queue agree: the target and the stack root. -/
def evaluateTarget (evaluation : MergeTrainStructuralEvaluationInput) (candidate : MergeTrainBatchCandidate)
    (provenance : MergeTrainStructuralProvenance) (plan : MergeTrainBatchLandingPlan)
    (stackCollapseRecord : Option MergeTrainStackCollapsePlanRecord) : Refusal :=
  match evaluation.entries.find? (·.position = evaluation.targetQueuePosition) with
  | none => (.mismatch, .entryAbsent)
  | some target =>
    if target.pullRequestNumber ≠ evaluation.targetPullRequestNumber then
      (.mismatch, .positionMismatch)
    else
      let stackReason := stackRootReason A recordStore evaluation provenance stackCollapseRecord
      if stackReason = some .stackRootUnproven then (.mismatch, .stackRootUnproven)
      else evaluateObservedBase evaluation candidate provenance plan stackReason

/-- The evaluation once candidate, provenance and landing plan are all there. -/
def evaluateBound (evaluation : MergeTrainStructuralEvaluationInput) (candidate : MergeTrainBatchCandidate)
    (provenance : MergeTrainStructuralProvenance) (plan : MergeTrainBatchLandingPlan)
    (stackCollapseRecord : Option MergeTrainStackCollapsePlanRecord) :
    Except TrainError MergeTrainStructuralCandidateResult := do
  match ← landingPlanShapeResult candidate provenance plan with
  | some refusal => return boundResult evaluation candidate provenance plan refusal
  | none =>
    match (commonIdentityMismatch evaluation candidate provenance plan).orElse fun _ =>
        queueIdentityMismatch evaluation.entries candidate.entries with
    | some reason =>
      return structuralResult .mismatch reason candidate.candidateSha256 plan.landingPlanSha256
        provenance.provenanceSha256
    | none =>
      return boundResult evaluation candidate provenance plan
        (evaluateTarget A recordStore evaluation candidate provenance plan stackCollapseRecord)

/-- `evaluate_merge_train_structural_candidate`. -/
def evaluateMergeTrainStructuralCandidate
    (evaluation : MergeTrainStructuralEvaluationInput)
    (candidateRecord : Option MergeTrainBatchCandidateRecord)
    (landingPlanRecord : Option MergeTrainBatchLandingPlanRecord)
    (stackCollapseRecord : Option MergeTrainStackCollapsePlanRecord) :
    Except TrainError MergeTrainStructuralCandidateResult :=
  match candidateRecord with
  | none => .ok (structuralResult .unknown .evidenceUnavailable "" "" "")
  | some candidateRecord =>
    if candidateRecord.status = .superseded ∧
        landingPlanRecord.any (ordinaryCandidateIsExactLandingDependency A candidateRecord) = false then
      .ok (structuralResult .unknown .recordSuperseded "" "" "")
    else
      let candidate := candidateRecord.candidate
      match candidate.structuralProvenance with
      | none => .ok (structuralResult .unknown .provenanceMissing "" "" "")
      | some provenance =>
        let unknown (reason : MergeTrainStructuralReasonCode) :=
          structuralResult .unknown reason candidate.candidateSha256 ""
            provenance.provenanceSha256
        if candidate.status ≠ .passed ∨ provenance.complete = false then
          .ok (unknown .candidateIncomplete)
        else
          match landingPlanRecord with
          | none => .ok (unknown .landingPlanMissing)
          | some landingPlanRecord =>
            if landingPlanRecord.status = .superseded then .ok (unknown .landingPlanSuperseded)
            else
              evaluateBound A recordStore evaluation candidate provenance
                landingPlanRecord.landingPlan stackCollapseRecord

end Evaluation

/-! ### What the rolling loop accepts -/

/-- The statuses that admit a merge. -/
def MergeReadinessStructuralCandidateStatus.Admits :
    MergeReadinessStructuralCandidateStatus → Prop
  | exact | recordedRolling => True
  | mismatch | unknown => False

/-- A prior entry landed with the head the candidate was tested with. -/
structure LandedAs (landingEntry : MergeTrainBatchLandingEntry)
    (candidateEntry : MergeTrainBatchEntry) : Prop where
  completed : landingEntry.status = .merged ∨ landingEntry.status = .skipped
  head : landingEntry.landedHeadSha = candidateEntry.headSha
  headTree : landingEntry.landedHeadTreeSha = candidateEntry.headTreeSha

theorem priorEntryRefusal_eq_none {expectedParent : String × String}
    {landingEntry : MergeTrainBatchLandingEntry} {candidateEntry : MergeTrainBatchEntry}
    {step : MergeTrainRollingStep}
    (h : priorEntryRefusal expectedParent landingEntry candidateEntry step = none) :
    LandedAs landingEntry candidateEntry ∧ landingEntry.rollingBase = expectedParent ∧
      landingEntry.mergeCommit.2 = step.result.2 := by
  unfold priorEntryRefusal at h
  repeat' split at h
  all_goals try (cases h; done)
  rename_i hstatus _ hhead htree _ hbase _ _ hresult
  refine ⟨⟨?_, not_not.mp hhead, not_not.mp htree⟩, not_not.mp hbase, not_not.mp hresult⟩
  by_cases hmerged : landingEntry.status = .merged
  · exact .inl hmerged
  · exact .inr (not_not.mp fun hskipped => hstatus ⟨hmerged, hskipped⟩)

theorem not_admits_of_priorEntryRefusal {expectedParent : String × String}
    {landingEntry : MergeTrainBatchLandingEntry} {candidateEntry : MergeTrainBatchEntry}
    {step : MergeTrainRollingStep} {refusal : Refusal}
    (h : priorEntryRefusal expectedParent landingEntry candidateEntry step = some refusal) :
    ¬ refusal.1.Admits := by
  unfold priorEntryRefusal at h
  repeat' split at h
  all_goals cases h
  all_goals exact not_false

/-- The loop never ends in an admitting status by itself. -/
theorem not_admits_of_rollingBase {landingEntries : List MergeTrainBatchLandingEntry} :
    ∀ {n : Nat} {base : String × String} {candidateEntries : List MergeTrainBatchEntry}
      {steps : List MergeTrainRollingStep} {refusal : Refusal},
      rollingBase n base landingEntries candidateEntries steps = .error refusal →
        ¬ refusal.1.Admits := by
  induction landingEntries with
  | nil =>
      intro n base candidateEntries steps refusal h
      cases n with
      | zero => cases h
      | succ n =>
          obtain rfl := Except.error.inj h
          exact not_false
  | cons landingEntry landingEntries ih =>
      intro n base candidateEntries steps refusal h
      unfold rollingBase at h
      split at h
      · cases h
      · rename_i hlanding
        obtain ⟨rfl, rfl⟩ := List.cons.inj hlanding
        split at h
        · rename_i hrefusal
          obtain rfl := Except.error.inj h
          exact not_admits_of_priorEntryRefusal hrefusal
        · exact ih h
      · obtain rfl := Except.error.inj h
        exact not_false

/-- **The loop accepts only prior entries that landed as one chain from the candidate's base**, and
each of them left the tree its recorded step had left. -/
theorem landedChain_of_rollingBase {landingEntries : List MergeTrainBatchLandingEntry} :
    ∀ {n : Nat} {base last : String × String} {candidateEntries : List MergeTrainBatchEntry}
      {steps : List MergeTrainRollingStep},
      rollingBase n base landingEntries candidateEntries steps = .ok last →
        n ≤ landingEntries.length ∧
          Linked MergeTrainBatchLandingEntry.rollingBase MergeTrainBatchLandingEntry.mergeCommit
            base (landingEntries.take n) ∧
          last = chainEnd MergeTrainBatchLandingEntry.mergeCommit base (landingEntries.take n) ∧
          List.Forall₂ LandedAs (landingEntries.take n) (candidateEntries.take n) ∧
          List.Forall₂ (fun entry step => entry.mergeCommit.2 = step.result.2)
            (landingEntries.take n) (steps.take n) := by
  induction landingEntries with
  | nil =>
      intro n base last candidateEntries steps h
      cases n with
      | zero =>
          obtain rfl := Except.ok.inj h
          simp
      | succ n => cases h
  | cons landingEntry landingEntries ih =>
      intro n base last candidateEntries steps h
      cases n with
      | zero =>
          obtain rfl := Except.ok.inj h
          simp
      | succ n =>
          cases candidateEntries with
          | nil => cases h
          | cons candidateEntry candidateEntries =>
              cases steps with
              | nil => cases h
              | cons step steps =>
                  rw [rollingBase] at h
                  cases hrefusal : priorEntryRefusal base landingEntry candidateEntry step with
                  | some refusal => rw [hrefusal] at h; cases h
                  | none =>
                      rw [hrefusal] at h
                      obtain ⟨hlanded, hbase, htree⟩ := priorEntryRefusal_eq_none hrefusal
                      obtain ⟨hlen, hlinked, hlast, hall, htrees⟩ := ih h
                      simp only [List.take_succ_cons, List.length_cons]
                      exact ⟨Nat.succ_le_succ hlen, ⟨hbase, hlinked⟩, hlast, .cons hlanded hall,
                        .cons htree htrees⟩

/-! ### Soundness -/

/-- The observed queue entry is the recorded one. -/
structure SameHead (current : MergeTrainStructuralEntryObservation)
    (recorded : MergeTrainBatchEntry) : Prop where
  position : current.position = recorded.position
  pullRequest : current.pullRequestNumber = recorded.pullRequestNumber
  head : current.headSha = recorded.headSha
  headTree : current.headTreeSha = recorded.headTreeSha

/-- Evaluation, candidate, provenance and landing plan speak of one tested branch. -/
structure CommonIdentity (evaluation : MergeTrainStructuralEvaluationInput)
    (candidate : MergeTrainBatchCandidate) (provenance : MergeTrainStructuralProvenance)
    (plan : MergeTrainBatchLandingPlan) : Prop where
  repository : pyLower candidate.repository = pyLower evaluation.repository ∧
    pyLower plan.repository = pyLower evaluation.repository
  baseBranch : candidate.baseBranch = evaluation.baseBranch ∧
    plan.baseBranch = evaluation.baseBranch
  policyKey : candidate.policyKey = evaluation.policyKey ∧ plan.policyKey = evaluation.policyKey
  policyDigest : candidate.policySha256 = evaluation.policySha256 ∧
    plan.policySha256 = evaluation.policySha256
  candidateDigest : candidate.candidateSha256 = evaluation.activeCandidateSha256 ∧
    plan.candidateSha256 = candidate.candidateSha256
  candidateSha : plan.candidateSha = candidate.candidateSha ∧
    provenance.candidateSha = candidate.candidateSha
  candidateTree : plan.candidateTreeSha = candidate.candidateTreeSha ∧
    provenance.candidateTreeSha = candidate.candidateTreeSha
  landingPlanDigest : plan.landingPlanSha256 = evaluation.activeLandingPlanSha256
  provenanceDigest : plan.structuralProvenanceSha256 = provenance.provenanceSha256

/-- The entries ahead of the target landed as one chain from the candidate's base, and the target
is about to be merged where that chain ends. -/
structure LandedAhead (evaluation : MergeTrainStructuralEvaluationInput)
    (candidate : MergeTrainBatchCandidate) (provenance : MergeTrainStructuralProvenance)
    (plan : MergeTrainBatchLandingPlan) : Prop where
  position : 1 ≤ evaluation.targetQueuePosition ∧
    evaluation.targetQueuePosition ≤ plan.entries.length
  linked : Linked MergeTrainBatchLandingEntry.rollingBase MergeTrainBatchLandingEntry.mergeCommit
    (candidate.baseSha, provenance.baseTreeSha)
    (plan.entries.take (evaluation.targetQueuePosition - 1))
  landed : List.Forall₂ LandedAs (plan.entries.take (evaluation.targetQueuePosition - 1))
    (candidate.entries.take (evaluation.targetQueuePosition - 1))
  observedBase : (evaluation.observedBaseSha, evaluation.observedBaseTreeSha) =
    chainEnd MergeTrainBatchLandingEntry.mergeCommit (candidate.baseSha, provenance.baseTreeSha)
      (plan.entries.take (evaluation.targetQueuePosition - 1))
  recordedParent : ∃ step, provenance.steps[evaluation.targetQueuePosition - 1]? = some step ∧
    evaluation.observedBaseTreeSha = step.parentTreeSha

/-- What an admitting status says about the evidence it was given on. -/
structure StructurallyAdmitted (evaluation : MergeTrainStructuralEvaluationInput)
    (candidate : MergeTrainBatchCandidate) (provenance : MergeTrainStructuralProvenance)
    (plan : MergeTrainBatchLandingPlan) : Prop where
  identity : CommonIdentity evaluation candidate provenance plan
  queue : List.Forall₂ SameHead evaluation.entries candidate.entries
  rolling : plan.candidatePullRequestNumber = none →
    LandedAhead evaluation candidate provenance plan
  batch : plan.candidatePullRequestNumber ≠ none →
    evaluation.observedBaseSha = candidate.baseSha ∧
      evaluation.observedBaseTreeSha = provenance.baseTreeSha

theorem commonIdentity_of_eq_none {evaluation : MergeTrainStructuralEvaluationInput}
    {candidate : MergeTrainBatchCandidate} {provenance : MergeTrainStructuralProvenance}
    {plan : MergeTrainBatchLandingPlan}
    (h : commonIdentityMismatch evaluation candidate provenance plan = none)
    (hsha : provenance.candidateSha = candidate.candidateSha)
    (htree : provenance.candidateTreeSha = candidate.candidateTreeSha) :
    CommonIdentity evaluation candidate provenance plan := by
  unfold commonIdentityMismatch at h
  repeat' split at h
  all_goals try (cases h; done)
  rename_i hrepository hbranch hpolicy hcandidate hplan hprovenance hplanSha hplanTree _
  simp only [not_or, ne_eq, not_not] at hrepository hbranch hpolicy hcandidate
  simp only [ne_eq, not_not] at hplan hprovenance hplanSha hplanTree
  exact
    { repository := hrepository
      baseBranch := hbranch
      policyKey := ⟨hpolicy.1, hpolicy.2.2.1⟩
      policyDigest := ⟨hpolicy.2.1, hpolicy.2.2.2⟩
      candidateDigest := hcandidate.2
      candidateSha := ⟨hplanSha, hsha⟩
      candidateTree := ⟨hplanTree, htree⟩
      landingPlanDigest := hplan
      provenanceDigest := hprovenance }

theorem sameHead_of_eq_none {current : MergeTrainStructuralEntryObservation}
    {recorded : MergeTrainBatchEntry} (h : queueEntryMismatch current recorded = none) :
    SameHead current recorded := by
  unfold queueEntryMismatch at h
  repeat' split at h
  all_goals try (cases h; done)
  rename_i hposition hhead htree
  simp only [not_or, ne_eq, not_not] at hposition hhead htree
  exact ⟨hposition.1, hposition.2, hhead, htree⟩

theorem sameQueue_of_eq_none {observed : List MergeTrainStructuralEntryObservation}
    {entries : List MergeTrainBatchEntry} (h : queueIdentityMismatch observed entries = none) :
    List.Forall₂ SameHead observed entries := by
  unfold queueIdentityMismatch at h
  split at h
  · cases h
  · rename_i hlen
    rw [List.findSome?_eq_none_iff] at h
    rw [List.forall₂_iff_zip]
    refine ⟨not_not.mp hlen, ?_⟩
    intro current recorded hpair
    exact sameHead_of_eq_none (h _ hpair)

/-- The target's position is one of the queue's. -/
theorem position_of_sameQueue {observed : List MergeTrainStructuralEntryObservation}
    {entries : List MergeTrainBatchEntry} (hqueue : List.Forall₂ SameHead observed entries)
    (hpositions : entries.map (·.position) = List.range' 1 entries.length)
    {target : MergeTrainStructuralEntryObservation} (htarget : target ∈ observed) :
    1 ≤ target.position ∧ target.position ≤ entries.length := by
  have hsame : observed.map (·.position) = entries.map (·.position) := by
    rw [← List.forall₂_eq_eq_eq, List.forall₂_map_left_iff, List.forall₂_map_right_iff]
    exact hqueue.imp fun _ _ h => h.position
  have hmem : target.position ∈ List.range' 1 entries.length := by
    rw [← hpositions, ← hsame]
    exact List.mem_map_of_mem htarget
  rw [List.mem_range'_1] at hmem
  omega

theorem steps_length_of_valid {D : ProvenanceDigests} {candidate : MergeTrainBatchCandidate}
    {provenance : MergeTrainStructuralProvenance} (hvalid : candidate.Valid D)
    (hprovenance : candidate.structuralProvenance = some provenance)
    (hcomplete : provenance.complete = true) :
    provenance.steps.length = candidate.entries.length := by
  obtain ⟨_, _, _, _, hentries, _⟩ := candidate.provenance_of_valid hvalid hprovenance
  have hlength : provenance.steps.length = provenance.entries.length := by
    simpa [MergeTrainStructuralProvenance.complete] using hcomplete
  rw [hlength, hentries, List.length_map]

/-- Where the prior entries end, the recorded step of the target begins, as far as trees go. -/
theorem recordedParent_of_rollingBase {n : Nat} {base last : String × String}
    {entries : List MergeTrainStructuralEntryBinding}
    {landingEntries : List MergeTrainBatchLandingEntry}
    {candidateEntries : List MergeTrainBatchEntry} {steps : List MergeTrainRollingStep}
    (h : rollingBase n base landingEntries candidateEntries steps = .ok last)
    (hsteps : RollingSteps base entries steps) (hn : n < steps.length) :
    ∃ step, steps[n]? = some step ∧ last.2 = step.parentTreeSha := by
  obtain ⟨_, _, hlast, _, htrees⟩ := landedChain_of_rollingBase h
  refine ⟨steps[n], List.getElem?_eq_getElem hn, ?_⟩
  -- the landed chain and the recorded chain leave the same tree behind
  have hsame : last.2 = (chainEnd MergeTrainRollingStep.result base (steps.take n)).2 := by
    rw [hlast]
    exact chainEnd_congr rfl htrees
  rw [hsame, ← hsteps.linked.start_getElem hn]
  rfl

theorem landedAhead_of_admits {evaluation : MergeTrainStructuralEvaluationInput}
    {candidate : MergeTrainBatchCandidate} {provenance : MergeTrainStructuralProvenance}
    {plan : MergeTrainBatchLandingPlan} {stackReason : Option MergeTrainStructuralReasonCode}
    (h : (evaluateObservedBase evaluation candidate provenance plan stackReason).1.Admits)
    (hplan : plan.candidatePullRequestNumber = none)
    (hsteps : RollingSteps (candidate.baseSha, provenance.baseTreeSha) provenance.entries
      provenance.steps)
    (hposition : 1 ≤ evaluation.targetQueuePosition ∧
      evaluation.targetQueuePosition ≤ provenance.steps.length)
    (hlength : plan.entries.length = provenance.steps.length) :
    LandedAhead evaluation candidate provenance plan := by
  have hprior : evaluation.targetQueuePosition - 1 < provenance.steps.length := by omega
  obtain ⟨last, hrolling, hobserved⟩ : ∃ last,
      rollingBase (evaluation.targetQueuePosition - 1) (candidate.baseSha, provenance.baseTreeSha)
        plan.entries candidate.entries provenance.steps = .ok last ∧
      (evaluation.observedBaseSha, evaluation.observedBaseTreeSha) = last := by
    unfold evaluateObservedBase at h
    by_cases hfirst : evaluation.targetQueuePosition = 1
    · rw [if_pos (.inl hfirst)] at h
      refine ⟨_, by rw [hfirst]; rfl, ?_⟩
      split at h
      · exact h.elim
      · split at h
        · exact h.elim
        · rename_i hsha htree
          exact Prod.ext (not_not.mp hsha) (not_not.mp htree)
    · rw [if_neg (by simp [hfirst, hplan])] at h
      unfold rollingBaseResult at h
      cases hrolling : rollingBase (evaluation.targetQueuePosition - 1)
          (candidate.baseSha, provenance.baseTreeSha) plan.entries candidate.entries
          provenance.steps with
      | error refusal =>
          rw [hrolling] at h
          exact absurd h (not_admits_of_rollingBase hrolling)
      | ok last =>
          rw [hrolling] at h
          refine ⟨last, rfl, ?_⟩
          by_cases hsha : evaluation.observedBaseSha = last.1
          · by_cases htree : evaluation.observedBaseTreeSha = last.2
            · exact Prod.ext hsha htree
            · simp only [ne_eq, hsha, not_true, if_false, htree, not_false_eq_true, if_true] at h
              exact h.elim
          · simp only [ne_eq, hsha, not_false_eq_true, if_true] at h
            exact h.elim
  obtain ⟨_, hlinked, hlast, hlanded, _⟩ := landedChain_of_rollingBase hrolling
  obtain ⟨step, hstep, htree⟩ := recordedParent_of_rollingBase hrolling hsteps hprior
  exact
    { position := ⟨hposition.1, hlength ▸ hposition.2⟩
      linked := hlinked
      landed := hlanded
      observedBase := hobserved.trans hlast
      recordedParent := ⟨step, hstep, by rw [← htree, ← hobserved]⟩ }

theorem batchBase_of_admits {evaluation : MergeTrainStructuralEvaluationInput}
    {candidate : MergeTrainBatchCandidate} {provenance : MergeTrainStructuralProvenance}
    {plan : MergeTrainBatchLandingPlan} {stackReason : Option MergeTrainStructuralReasonCode}
    (h : (evaluateObservedBase evaluation candidate provenance plan stackReason).1.Admits)
    (hplan : plan.candidatePullRequestNumber ≠ none) :
    evaluation.observedBaseSha = candidate.baseSha ∧
      evaluation.observedBaseTreeSha = provenance.baseTreeSha := by
  unfold evaluateObservedBase at h
  rw [if_pos (.inr hplan)] at h
  split at h
  · exact h.elim
  · split at h
    · exact h.elim
    · rename_i hsha htree
      exact ⟨not_not.mp hsha, not_not.mp htree⟩

theorem landingPlanShape_length {candidate : MergeTrainBatchCandidate}
    {provenance : MergeTrainStructuralProvenance} {plan : MergeTrainBatchLandingPlan}
    (h : landingPlanShapeResult candidate provenance plan = .ok none) :
    plan.entries.length = candidate.entries.length := by
  unfold landingPlanShapeResult at h
  split at h
  · cases h
  · split at h
    · cases h
    · omega

theorem not_admits_of_entriesShape {baseSha : String} {candidateEntries : List MergeTrainBatchEntry} :
    ∀ {landingEntries : List MergeTrainBatchLandingEntry} {steps : List MergeTrainRollingStep}
      {refusal : Refusal},
      landingPlanEntriesShape baseSha candidateEntries landingEntries steps = .ok (some refusal) →
        ¬ refusal.1.Admits := by
  induction candidateEntries with
  | nil =>
      intro landingEntries steps refusal h
      cases landingEntries <;> cases steps <;> cases h
  | cons candidateEntry candidateEntries ih =>
      intro landingEntries steps refusal h
      unfold landingPlanEntriesShape at h
      split at h
      · cases h
      · rename_i hcandidate
        obtain ⟨rfl, rfl⟩ := List.cons.inj hcandidate
        repeat' split at h
        case isFalse => exact ih h
        all_goals
          obtain rfl := Option.some.inj (Except.ok.inj h)
          exact not_false
      · cases h

theorem not_admits_of_landingPlanShape {candidate : MergeTrainBatchCandidate}
    {provenance : MergeTrainStructuralProvenance} {plan : MergeTrainBatchLandingPlan}
    {refusal : Refusal} (h : landingPlanShapeResult candidate provenance plan = .ok (some refusal)) :
    ¬ refusal.1.Admits := by
  unfold landingPlanShapeResult at h
  repeat' split at h
  case isFalse => exact not_admits_of_entriesShape h
  all_goals
    obtain rfl := Option.some.inj (Except.ok.inj h)
    exact not_false

/-- An admitted target is a queue entry at its position, and its base was checked. -/
theorem evaluateTarget_admits {A : AdmissionDigests} {recordStore : Option (List MergeTrainPolicyRecord)}
    {evaluation : MergeTrainStructuralEvaluationInput} {candidate : MergeTrainBatchCandidate}
    {provenance : MergeTrainStructuralProvenance} {plan : MergeTrainBatchLandingPlan}
    {stackCollapseRecord : Option MergeTrainStackCollapsePlanRecord}
    (h : (evaluateTarget A recordStore evaluation candidate provenance plan
      stackCollapseRecord).1.Admits) :
    (∃ target ∈ evaluation.entries, target.position = evaluation.targetQueuePosition) ∧
      ∃ stackReason,
        (evaluateObservedBase evaluation candidate provenance plan stackReason).1.Admits := by
  unfold evaluateTarget at h
  split at h
  · exact h.elim
  · rename_i target htarget
    refine ⟨⟨target, List.mem_of_find?_eq_some htarget, ?_⟩, ?_⟩
    · simpa using List.find?_some htarget
    · split at h
      · exact h.elim
      · dsimp only at h
        split at h
        · exact h.elim
        · exact ⟨_, h⟩

/-- The evaluation admits only what `StructurallyAdmitted` says. -/
theorem structurallyAdmitted_of_evaluateBound {D : ProvenanceDigests} {A : AdmissionDigests}
    {recordStore : Option (List MergeTrainPolicyRecord)}
    {evaluation : MergeTrainStructuralEvaluationInput} {candidate : MergeTrainBatchCandidate}
    {provenance : MergeTrainStructuralProvenance} {plan : MergeTrainBatchLandingPlan}
    {stackCollapseRecord : Option MergeTrainStackCollapsePlanRecord}
    {result : MergeTrainStructuralCandidateResult}
    (h : evaluateBound A recordStore evaluation candidate provenance plan stackCollapseRecord =
      .ok result) (hadmits : result.status.Admits) (hvalid : candidate.Valid D)
    (hprovenance : candidate.structuralProvenance = some provenance)
    (hcomplete : provenance.complete = true) :
    StructurallyAdmitted evaluation candidate provenance plan := by
  obtain ⟨hpvalid, hbase, hsha, htree, hentries, hpositions⟩ :=
    candidate.provenance_of_valid hvalid hprovenance
  have hlength := steps_length_of_valid hvalid hprovenance hcomplete
  obtain ⟨_, hsteps⟩ := rollingSteps_of_valid hpvalid
  rw [hbase] at hsteps
  unfold evaluateBound at h
  rw [bind_eq_ok] at h
  obtain ⟨shape, hshape, h⟩ := h
  cases shape with
  | some refusal =>
      obtain rfl := Except.ok.inj h
      exact absurd hadmits (not_admits_of_landingPlanShape hshape)
  | none =>
      cases hidentity : commonIdentityMismatch evaluation candidate provenance plan with
      | some reason =>
          rw [hidentity] at h
          obtain rfl := Except.ok.inj h
          exact hadmits.elim
      | none =>
          cases hqueue : queueIdentityMismatch evaluation.entries candidate.entries with
          | some reason =>
              rw [hidentity, hqueue] at h
              obtain rfl := Except.ok.inj h
              exact hadmits.elim
          | none =>
              rw [hidentity, hqueue] at h
              obtain rfl := Except.ok.inj h
              have hsame := sameQueue_of_eq_none hqueue
              obtain ⟨⟨target, htarget, hposition⟩, stackReason, hbaseAdmits⟩ :=
                evaluateTarget_admits hadmits
              have hrange := position_of_sameQueue hsame hpositions htarget
              exact
                { identity := commonIdentity_of_eq_none hidentity hsha htree
                  queue := hsame
                  rolling := fun hplan => landedAhead_of_admits hbaseAdmits hplan hsteps
                    (by rw [← hposition, hlength]; exact hrange)
                    (by rw [hlength, landingPlanShape_length hshape])
                  batch := batchBase_of_admits hbaseAdmits }

/-- **Soundness of structural admission.** A result that admits was given on a passed candidate
with complete provenance and an active landing plan, and these agree with what was observed. -/
theorem evaluateMergeTrainStructuralCandidate_sound {D : ProvenanceDigests} {A : AdmissionDigests}
    {recordStore : Option (List MergeTrainPolicyRecord)}
    {evaluation : MergeTrainStructuralEvaluationInput}
    {candidateRecord : Option MergeTrainBatchCandidateRecord}
    {landingPlanRecord : Option MergeTrainBatchLandingPlanRecord}
    {stackCollapseRecord : Option MergeTrainStackCollapsePlanRecord}
    {result : MergeTrainStructuralCandidateResult}
    (hvalid : ∀ record ∈ candidateRecord, record.candidate.Valid D)
    (h : evaluateMergeTrainStructuralCandidate A recordStore evaluation candidateRecord
      landingPlanRecord stackCollapseRecord = .ok result)
    (hadmits : result.status = .exact ∨ result.status = .recordedRolling) :
    ∃ candidate landing provenance,
      candidateRecord = some candidate ∧ landingPlanRecord = some landing ∧
        candidate.candidate.structuralProvenance = some provenance ∧
        StructurallyAdmitted evaluation candidate.candidate provenance landing.landingPlan := by
  have hstatus : result.status.Admits := by
    rcases hadmits with hexact | hrolling
    · rw [hexact]
      trivial
    · rw [hrolling]
      trivial
  unfold evaluateMergeTrainStructuralCandidate at h
  split at h
  · obtain rfl := Except.ok.inj h
    exact hstatus.elim
  · rename_i candidate
    split at h
    · obtain rfl := Except.ok.inj h
      exact hstatus.elim
    · dsimp only at h
      split at h
      · obtain rfl := Except.ok.inj h
        exact hstatus.elim
      · rename_i provenance hprovenance
        split at h
        · obtain rfl := Except.ok.inj h
          exact hstatus.elim
        · rename_i hcomplete
          split at h
          · obtain rfl := Except.ok.inj h
            exact hstatus.elim
          · rename_i landing _
            split at h
            · obtain rfl := Except.ok.inj h
              exact hstatus.elim
            · simp only [not_or, Bool.not_eq_false] at hcomplete
              exact ⟨candidate, landing, provenance, rfl, rfl, hprovenance,
                structurallyAdmitted_of_evaluateBound h hstatus (hvalid candidate rfl) hprovenance
                  hcomplete.2⟩

/-- Digests for concrete records. -/
def sampleProvenanceDigests : ProvenanceDigests :=
  { provenance := fun _ => "provenance", candidate := fun _ => "candidate" }

/-- The provenance of two queued heads merged onto a base. -/
def sampleProvenance : MergeTrainStructuralProvenance :=
  { repository := "owner/name"
    baseBranch := "main"
    baseSha := "b0"
    baseTreeSha := "t0"
    policyKey := "owner/name:main"
    policySha256 := "policy"
    entries :=
      [{ position := 1, pullRequestNumber := 7, headSha := "h1", headTreeSha := "ht1" },
        { position := 2, pullRequestNumber := 9, headSha := "h2", headTreeSha := "ht2" }]
    steps :=
      [{ position := 1, pullRequestNumber := 7, parentSha := "b0", parentTreeSha := "t0"
         headSha := "h1", headTreeSha := "ht1", resultSha := "c1", resultTreeSha := "t1"
         kind := .mergeCommit },
        { position := 2, pullRequestNumber := 9, parentSha := "c1", parentTreeSha := "t1"
          headSha := "h2", headTreeSha := "ht2", resultSha := "c2", resultTreeSha := "t2"
          kind := .mergeCommit }]
    candidateSha := "c2"
    candidateTreeSha := "t2"
    provenanceSha256 := "provenance"
    candidateSha256 := "candidate" }

/-- The passed candidate with that provenance. -/
def sampleCandidateRecord : MergeTrainBatchCandidateRecord :=
  { recordId := "candidate-record"
    source := "controller"
    updatedAt := "2026-01-01T00:00:00Z"
    candidate :=
      { batchId := "batch"
        repository := "owner/name"
        baseBranch := "main"
        baseSha := "b0"
        policyKey := "owner/name:main"
        policySha256 := "policy"
        candidateRef := "refs/heads/train"
        candidateSha := "c2"
        candidateTreeSha := "t2"
        candidateSha256 := "candidate"
        status := .passed
        entries :=
          [{ pullRequestNumber := 7, position := 1, headSha := "h1", headTreeSha := "ht1" },
            { pullRequestNumber := 9, position := 2, headSha := "h2", headTreeSha := "ht2" }]
        structuralProvenance := some sampleProvenance
        createdAt := "2026-01-01T00:00:00Z"
        updatedAt := "2026-01-01T00:00:00Z" } }

/-- Its landing plan, the first entry landed and the second still to land. -/
def sampleLandingPlanRecord : MergeTrainBatchLandingPlanRecord :=
  { recordId := "landing-record"
    source := "controller"
    updatedAt := "2026-01-01T00:00:00Z"
    landingPlan :=
      { planId := "plan"
        batchId := "batch"
        repository := "owner/name"
        baseBranch := "main"
        candidateRef := "refs/heads/train"
        candidateSha := "c2"
        candidateTreeSha := "t2"
        candidateSha256 := "candidate"
        structuralProvenanceSha256 := "provenance"
        policyKey := "owner/name:main"
        policySha256 := "policy"
        entries :=
          [{ pullRequestNumber := 7, position := 1, expectedHeadSha := "h1"
             expectedHeadTreeSha := "ht1", expectedBaseSha := "b0", mergeMethod := .merge
             status := .merged, recordedCandidateParentSha := "b0"
             recordedCandidateParentTreeSha := "t0", recordedCandidateResultSha := "c1"
             recordedCandidateResultTreeSha := "t1", recordedRollingBaseSha := "b0"
             recordedRollingBaseTreeSha := "t0", landedHeadSha := "h1", landedHeadTreeSha := "ht1"
             mergeCommitSha := "m1", mergeCommitTreeSha := "t1" },
            { pullRequestNumber := 9, position := 2, expectedHeadSha := "h2"
              expectedHeadTreeSha := "ht2", expectedBaseSha := "b0", mergeMethod := .merge
              recordedCandidateParentSha := "c1", recordedCandidateParentTreeSha := "t1"
              recordedCandidateResultSha := "c2", recordedCandidateResultTreeSha := "t2" }]
        createdAt := "2026-01-01T00:00:00Z"
        landingPlanSha256 := "landing" } }

/-- What is observed when the second entry is about to be merged. -/
def sampleEvaluation : MergeTrainStructuralEvaluationInput :=
  { repository := "owner/name"
    baseBranch := "main"
    targetPullRequestNumber := 9
    targetQueuePosition := 2
    observedBaseSha := "m1"
    observedBaseTreeSha := "t1"
    policyKey := "owner/name:main"
    policySha256 := "policy"
    activeCandidateSha256 := "candidate"
    activeLandingPlanSha256 := "landing"
    entries :=
      [{ position := 1, pullRequestNumber := 7, headSha := "h1", headTreeSha := "ht1" },
        { position := 2, pullRequestNumber := 9, headSha := "h2", headTreeSha := "ht2" }] }

theorem sampleCandidate_valid : sampleCandidateRecord.candidate.Valid sampleProvenanceDigests := by
  decide

theorem sampleEvaluation_recordedRolling :
    evaluateMergeTrainStructuralCandidate ⟨fun _ _ => "", fun _ => ""⟩ none sampleEvaluation
      (some sampleCandidateRecord) (some sampleLandingPlanRecord) none =
      .ok (boundResult sampleEvaluation sampleCandidateRecord.candidate sampleProvenance
        sampleLandingPlanRecord.landingPlan (.recordedRolling, .rollingChainRecorded)) := by
  rfl

/-- The second entry of a two-entry queue is admitted onto what the first one left behind. -/
theorem evaluateMergeTrainStructuralCandidate_sound_sample :
    ∃ candidate landing provenance,
      some sampleCandidateRecord = some candidate ∧ some sampleLandingPlanRecord = some landing ∧
        candidate.candidate.structuralProvenance = some provenance ∧
        StructurallyAdmitted sampleEvaluation candidate.candidate provenance landing.landingPlan :=
  evaluateMergeTrainStructuralCandidate_sound
    (fun record hrecord => by
      obtain rfl := Option.some.inj hrecord
      exact sampleCandidate_valid)
    sampleEvaluation_recordedRolling (.inr rfl)

end Launchplane.MergeTrain
