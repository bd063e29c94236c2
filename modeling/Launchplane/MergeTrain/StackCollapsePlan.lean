import Launchplane.MergeTrain.LandingPlan

/-!
# Launchplane.MergeTrain.StackCollapsePlan

**Stack collapse plans and their records.** A stack is a chain of pull requests,
each based on the branch of the one below the root. Collapsing merges every
child into its parent's branch, from the leaf up, so that the root carries the
whole stack. The plan records one mutation for each layer, leaf first, and one
disposition for each child, root first.
-/

namespace Launchplane.MergeTrain

/-- `MergeTrainStackCollapseStatus`. -/
inductive MergeTrainStackCollapseStatus
  | planned | collapsing | waitingForRootChecks | readyForTrain | blocked | stale
  deriving Repr, DecidableEq

/-- `MergeTrainStackCollapseRunStatus`. -/
inductive MergeTrainStackCollapseRunStatus
  | planned | mutated | blocked | stale
  deriving Repr, DecidableEq

/-- `MergeTrainStackChildDispositionStatus`. -/
inductive MergeTrainStackChildDispositionStatus
  | planned | closed | preserved | blocked | stale
  deriving Repr, DecidableEq

/-- `MergeTrainStackCollapseEntry`. -/
structure MergeTrainStackCollapseEntry where
  pullRequestNumber : Nat
  position : Nat
  headSha : String
  headRef : String
  baseSha : String := ""
  baseRef : String
  deriving Repr, DecidableEq

/-- `MergeTrainStackCollapseMutation`. -/
structure MergeTrainStackCollapseMutation where
  childPullRequestNumber : Nat
  parentPullRequestNumber : Nat
  childHeadSha : String
  expectedParentHeadSha : String
  parentHeadRef : String
  status : MergeTrainStackCollapseRunStatus := .planned
  mergeCommitSha : String := ""
  expectedMergeTreeSha : String := ""
  detail : String := ""
  deriving Repr, DecidableEq

/-- The state of a pull request whose disposition was preserved. -/
inductive PreservedState
  | none | opened | closed
  deriving Repr, DecidableEq

/-- `MergeTrainStackChildDisposition`. -/
structure MergeTrainStackChildDisposition where
  pullRequestNumber : Nat
  expectedHeadSha : String
  status : MergeTrainStackChildDispositionStatus := .planned
  preservedHeadSha : String := ""
  preservedState : PreservedState := .none
  commentUrl : String := ""
  detail : String := ""
  deriving Repr, DecidableEq

/-- `MergeTrainStackCollapsePlan`. -/
structure MergeTrainStackCollapsePlan where
  collapseId : String
  repository : String
  baseBranch : String
  rootPullRequestNumber : Nat
  rootInitialHeadSha : String
  rootHeadRef : String
  policyKey : String
  policySha256 : String
  status : MergeTrainStackCollapseStatus := .planned
  entries : List MergeTrainStackCollapseEntry
  mutations : List MergeTrainStackCollapseMutation
  childDispositions : List MergeTrainStackChildDisposition := []
  createdAt : String
  updatedAt : String
  deriving Repr, DecidableEq

/-- `MergeTrainStackCollapsePlanRecord`. -/
structure MergeTrainStackCollapsePlanRecord where
  recordId : String
  status : MergeTrainBatchRecordStatus := .active
  ordinaryJobBinding : Option OrdinaryAgentJobBinding := none
  source : String
  updatedAt : String
  plan : MergeTrainStackCollapsePlan
  deriving Repr, DecidableEq

namespace MergeTrainStackCollapsePlan

/-- `stack_collapse_expected_root_head_sha`: what the mutation into the root made of its head. -/
def stackCollapseExpectedRootHeadSha (plan : MergeTrainStackCollapsePlan) : String :=
  match plan.mutations.find? (·.parentPullRequestNumber = plan.rootPullRequestNumber) with
  | some mutation =>
    if mutation.mergeCommitSha ≠ "" then mutation.mergeCommitSha else plan.rootInitialHeadSha
  | none => plan.rootInitialHeadSha

end MergeTrainStackCollapsePlan

end Launchplane.MergeTrain
