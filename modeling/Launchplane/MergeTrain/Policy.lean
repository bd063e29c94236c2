import Launchplane.MergeTrain.Errors

/-!
# Launchplane.MergeTrain.Policy

**What a train may do on one base branch.** A policy lists, for each repository
and base branch, who may enqueue a pull request and how a batch is merged.
Policies change while candidates and plans are under way, so recorded work keeps
the digest of the policy it was made under, and a lookup says whether two
digests still mean the same execution.
-/

namespace Launchplane.MergeTrain

/-- `MergeTrainMergeMethod`. -/
inductive MergeTrainMergeMethod
  | merge | squash | rebase
  deriving Repr, DecidableEq

/-- The text of a merge method. -/
def MergeTrainMergeMethod.text : MergeTrainMergeMethod → String
  | merge => "merge"
  | squash => "squash"
  | rebase => "rebase"

/-- `MergeTrainFailurePolicy`. -/
inductive MergeTrainFailurePolicy
  | pauseTrain | continueAfterBlockingPr
  deriving Repr, DecidableEq

/-- `MergeTrainEnqueuePolicy`. Of the dependency bots only the identities are read here. -/
structure MergeTrainEnqueuePolicy where
  labelRequired : Bool := true
  allowedActorRoles : List String := ["repo_owner", "repo_admin"]
  trustedAutomationGithubUserIds : List Nat := []
  dependencyUpdateGithubUserIds : List Nat := []
  dependencyUpdateBots : List Nat := []
  deriving Repr, DecidableEq

/-- `dependency_identity_ids`. -/
def MergeTrainEnqueuePolicy.dependencyIdentityIds (enqueue : MergeTrainEnqueuePolicy) : List Nat :=
  enqueue.dependencyUpdateGithubUserIds ++ enqueue.dependencyUpdateBots

/-- `MergeTrainRepositoryPolicy`. -/
structure MergeTrainRepositoryPolicy where
  repository : String
  baseBranch : String
  enqueueLabel : String
  blockedLabel : String
  mergeMethod : MergeTrainMergeMethod
  maxBatchSize : Option Nat := none
  failurePolicy : MergeTrainFailurePolicy
  enqueue : MergeTrainEnqueuePolicy
  deriving Repr, DecidableEq

/-- `policy_key`. -/
def MergeTrainRepositoryPolicy.policyKey (policy : MergeTrainRepositoryPolicy) : String :=
  policy.repository ++ ":" ++ policy.baseBranch

/-- `MergeTrainPolicy`. -/
structure MergeTrainPolicy where
  policies : List MergeTrainRepositoryPolicy
  deriving Repr, DecidableEq

namespace MergeTrainPolicy

/-- The comparison of a lookup: repositories are compared without case. -/
def isFor (repository baseBranch : String) (policy : MergeTrainRepositoryPolicy) : Bool :=
  pyLower policy.repository = pyLower repository ∧ policy.baseBranch = baseBranch

/-- `find_repository_policy`. -/
def findRepositoryPolicy (policy : MergeTrainPolicy) (repository baseBranch : String) :
    Except String MergeTrainRepositoryPolicy := do
  let repository ← requireText repository "merge train policy lookup requires repository"
  let baseBranch ← requireText baseBranch "merge train policy lookup requires base_branch"
  match policy.policies.find? (isFor repository baseBranch) with
  | some repositoryPolicy => .ok repositoryPolicy
  | none => .error ("merge train policy not found for " ++ repository ++ ":" ++ baseBranch)

/-- A policy after its operational batch caps were changed, and nothing else. -/
def withMaxBatchSize (cap : MergeTrainRepositoryPolicy → Option Nat) (policy : MergeTrainPolicy) :
    MergeTrainPolicy :=
  { policies := policy.policies.map fun repositoryPolicy =>
      { repositoryPolicy with maxBatchSize := cap repositoryPolicy } }

/-- Changing caps leaves every lookup where it was. -/
theorem findRepositoryPolicy_withMaxBatchSize {cap : MergeTrainRepositoryPolicy → Option Nat}
    {policy : MergeTrainPolicy} {repository baseBranch : String}
    {found : MergeTrainRepositoryPolicy}
    (h : policy.findRepositoryPolicy repository baseBranch = .ok found) :
    (policy.withMaxBatchSize cap).findRepositoryPolicy repository baseBranch =
      .ok { found with maxBatchSize := cap found } := by
  unfold findRepositoryPolicy at h ⊢
  simp only [bind_eq_ok] at h ⊢
  obtain ⟨repository', hrepository, baseBranch', hbranch, h⟩ := h
  refine ⟨repository', hrepository, baseBranch', hbranch, ?_⟩
  cases hfind : policy.policies.find? (isFor repository' baseBranch') with
  | none =>
      rw [hfind] at h
      cases h
  | some target =>
      rw [hfind] at h
      obtain rfl := Except.ok.inj h
      have hcapped : (policy.withMaxBatchSize cap).policies.find? (isFor repository' baseBranch') =
          some { target with maxBatchSize := cap target } := by
        rw [withMaxBatchSize, List.find?_map]
        exact congrArg (Option.map _) hfind
      rw [hcapped]

end MergeTrainPolicy

/-! ### Policy provenance -/

/-- `MergeTrainPolicyRecord`. -/
structure MergeTrainPolicyRecord where
  policySha256 : String
  policy : MergeTrainPolicy
  deriving Repr, DecidableEq

/-- `policy_key.rsplit(":", 1)`, when there is a colon. -/
def splitPolicyKey (policyKey : String) : Option (String × String) :=
  let reversed := policyKey.toList.reverse
  if ':' ∈ reversed then
    some (String.ofList ((reversed.dropWhile (· ≠ ':')).drop 1).reverse,
      String.ofList (reversed.takeWhile (· ≠ ':')).reverse)
  else none

section Bindings

variable (executionSha256 : MergeTrainRepositoryPolicy → String)
  (recordStore : Option (List MergeTrainPolicyRecord))

/-- `resolve_merge_train_execution_bindings` at one digest: the only execution digest its policy
records agree on, where the digest of an execution is `merge_train_repository_execution_sha256`. A
store that cannot list policies, or a lookup that fails, resolves nothing. -/
def resolveMergeTrainExecutionBindings (policyKey : String) (policySha256s : List String)
    (digest : String) : Option String := do
  let records ← recordStore
  let (repository, baseBranch) ← splitPolicyKey policyKey
  let projections ← (records.filter (·.policySha256 ∈ policySha256s)).mapM fun record => do
    let target ← (record.policy.findRepositoryPolicy repository baseBranch).toOption
    return (record.policySha256, executionSha256 target)
  match ((projections.filter (·.1 = digest)).map Prod.snd).dedup with
  | [value] => some value
  | _ => none

/-- `merge_train_policy_bindings_match`. -/
def mergeTrainPolicyBindingsMatch (policyKey recordedSha256 currentSha256 : String) : Bool :=
  if recordedSha256 = currentSha256 then true
  else
    let resolve := resolveMergeTrainExecutionBindings executionSha256 recordStore policyKey
      [recordedSha256, currentSha256]
    match resolve recordedSha256 with
    | none => false
    | some before => resolve currentSha256 = some before

end Bindings

end Launchplane.MergeTrain
