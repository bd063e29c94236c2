import Launchplane.MergeTrain.Policy

/-!
# Launchplane.MergeTrain.LandingPlan

**Batch landing plans and their records.** A landing plan lists, in queue order,
the pull requests of one tested candidate with the heads and the base they were
tested at. Landing fills in, entry by entry, what actually happened: the rolling
base each entry was merged onto and the commit that merged it.
-/

namespace Launchplane.MergeTrain

/-- `MergeTrainBatchLandingStatus`. -/
inductive MergeTrainBatchLandingStatus
  | planned | merging | merged | blocked | stale | skipped
  deriving Repr, DecidableEq

/-- `MergeTrainBatchLandingEntry`. -/
structure MergeTrainBatchLandingEntry where
  pullRequestNumber : Nat
  position : Nat
  expectedHeadSha : String
  expectedHeadTreeSha : String := ""
  expectedBaseSha : String
  mergeMethod : MergeTrainMergeMethod
  status : MergeTrainBatchLandingStatus := .planned
  recordedCandidateParentSha : String := ""
  recordedCandidateParentTreeSha : String := ""
  recordedCandidateResultSha : String := ""
  recordedCandidateResultTreeSha : String := ""
  recordedRollingBaseSha : String := ""
  recordedRollingBaseTreeSha : String := ""
  landedHeadSha : String := ""
  landedHeadTreeSha : String := ""
  mergeCommitSha : String := ""
  mergeCommitTreeSha : String := ""
  deriving Repr, DecidableEq

/-- `MergeTrainBatchLandingPlan`. -/
structure MergeTrainBatchLandingPlan where
  planId : String
  batchId : String
  repository : String
  baseBranch : String
  candidateRef : String
  candidateSha : String
  candidateTreeSha : String := ""
  candidateSha256 : String := ""
  structuralProvenanceSha256 : String := ""
  policyKey : String
  policySha256 : String
  entries : List MergeTrainBatchLandingEntry
  createdAt : String
  landingPlanSha256 : String := ""
  candidatePullRequestNumber : Option Nat := none
  deriving Repr, DecidableEq

/-- `OrdinaryAgentJobBinding`: the finite job a record belongs to. -/
structure OrdinaryAgentJobBinding where
  requestId : String
  scopeSha256 : String
  bindingRevision : Nat
  deriving Repr, DecidableEq

/-- `MergeTrainBatchRecordStatus`. -/
inductive MergeTrainBatchRecordStatus
  | active | superseded
  deriving Repr, DecidableEq

/-- `MergeTrainBatchLandingPlanRecord`. -/
structure MergeTrainBatchLandingPlanRecord where
  recordId : String
  status : MergeTrainBatchRecordStatus := .active
  ordinaryJobBinding : Option OrdinaryAgentJobBinding := none
  source : String
  updatedAt : String
  landingPlan : MergeTrainBatchLandingPlan
  deriving Repr, DecidableEq

namespace MergeTrainBatchLandingPlan

/-- `_normalize_repository`. -/
def normalizeRepository (repository : String) : Except String String :=
  normalizeOwnerName repository "merge train batch requires repository"
    "merge train batch repository must be owner/name"

end MergeTrainBatchLandingPlan

end Launchplane.MergeTrain
