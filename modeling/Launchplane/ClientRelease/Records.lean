import Launchplane.Text
import Launchplane.Table
import Mathlib.Order.Lex

/-!
# Launchplane.ClientRelease.Records

**Release decisions and the release a rejected hotfix returns to.** A decision
binds the checklist it was made on. The target of a rejection is found by going
through the Client's acceptances, the newest first, for one with a passing
production deployment.

Times are instants. The database compares ids by its collation, which is given by
a sort key. What the lanes run is read from their records, given here as the
version each production context runs.
-/

namespace Launchplane.ClientRelease

/-- `ReleaseVersion`. -/
structure ReleaseVersion where
  artifactId : String
  sourceCommit : String
  sharedAddonsDigest : String := ""
  runtimeSettings : Option String := none
  websiteSettingsSha256 : String := ""
  deriving Repr, DecidableEq

/-- `ReleaseChecklist`, as far as the decisions use it. -/
structure ReleaseChecklist where
  product : String
  ownerGithubId : String
  production : ReleaseVersion
  candidate : ReleaseVersion
  deriving Repr, DecidableEq

/-- `ReleaseDecision`. -/
inductive ReleaseDecision
  | accepted | changesRequested | overridden | temporaryHotfix
  deriving Repr, DecidableEq

/-- `ReleaseStart`; `""` is `nothing`. -/
inductive ReleaseStart
  | nothing | promote | promoteWithRollbackDrill | rollback
  deriving Repr, DecidableEq

/-- `ReleaseReviewDecisionRecord`. -/
structure ReleaseReviewDecisionRecord where
  recordId : String
  product : String
  checklistDigest : String
  checklist : ReleaseChecklist
  decision : ReleaseDecision
  reason : String := ""
  releaseDuringBusinessHours : Bool := false
  actorGithubId : String
  actorGithubLogin : String
  decidedAt : Nat
  releaseIssueUrl : String := ""
  releaseStart : ReleaseStart := .nothing
  deriving Repr, DecidableEq

/-- `validate_decision`. -/
def validateDecision (record : ReleaseReviewDecisionRecord) : Except String Unit := do
  raiseIf (record.releaseDuringBusinessHours = true ∧
    (record.decision ∉ [ReleaseDecision.accepted, .temporaryHotfix] ∨ stripChars record.reason.toList = []))
    "A business-hours escape requires acceptance or a hotfix and a reason."
  raiseIf (record.product ≠ record.checklist.product)
    "Release decision and checklist products must match."
  raiseIf (record.decision ≠ .accepted ∧ stripChars record.reason.toList = [])
    "Requesting changes or overriding requires a reason."
  raiseIf (record.decision ∉ [ReleaseDecision.overridden, .temporaryHotfix] ∧
    record.actorGithubId ≠ record.checklist.ownerGithubId)
    "Only the product's Client can accept or request changes."
  raiseIf (record.decision = .temporaryHotfix ∧
    (record.actorGithubId = record.checklist.ownerGithubId ∨ record.releaseStart ≠ .promote))
    "A temporary hotfix is the Director's promotion, never the Client's."
  raiseIf (record.releaseStart = .rollback ∧ record.decision ≠ .changesRequested)
    "Only the Client's request for changes rolls back a hotfix."
  raiseIf (record.releaseStart ∉ [ReleaseStart.nothing, .rollback] ∧
    record.decision ∉ [ReleaseDecision.accepted, .temporaryHotfix])
    "Only the Client's acceptance starts a release."

/-- `ReleaseOnAcceptance`. -/
inductive ReleaseOnAcceptance
  | held | promote | promoteWithRollbackDrill | directorStanding
  deriving Repr, DecidableEq

/-- `production_use`. -/
inductive ProductionUse
  | unknown | prelaunch | live
  deriving Repr, DecidableEq

/-- `LaunchplaneProductProfileRecord`, as far as the decisions use it. An empty id means that there
is no owner; `prodContext` is the context of the production lane, if there is one. -/
structure ProductProfile where
  product : String
  driverId : String
  ownerGithubId : String
  productionUse : ProductionUse := .unknown
  releaseOnAcceptance : ReleaseOnAcceptance := .held
  prodContext : Option String
  deriving Repr, DecidableEq

/-- The status of a deployment's evidence. -/
inductive EvidenceStatus
  | pending | pass | fail | skipped
  deriving Repr, DecidableEq

/-- `DeploymentRecord`, as far as the release target uses it. -/
structure DeploymentRecord where
  recordId : String
  artifactId : Option String
  context : String
  instanceName : String
  sourceGitRef : String
  releaseSettings : Option String := none
  deploy : EvidenceStatus
  postDeployUpdate : EvidenceStatus := .skipped
  destinationHealth : EvidenceStatus := .skipped
  deployStartedAt : Nat := 0
  deployFinishedAt : Nat := 0
  deriving Repr, DecidableEq

/-- `deployment_record_passed`. -/
def deploymentRecordPassed (record : DeploymentRecord) : Bool :=
  record.deploy = .pass ∧ record.postDeployUpdate ∈ [EvidenceStatus.pass, .skipped] ∧
    record.destinationHealth ∈ [EvidenceStatus.pass, .skipped]

/-- The rows the decisions on a product's releases are made on. -/
structure ReleaseStore where
  profile : ProductProfile
  decisions : Table ReleaseReviewDecisionRecord ReleaseReviewDecisionRecord.recordId := .empty
  deployments : Table DeploymentRecord DeploymentRecord.recordId := .empty
  production : String → Option ReleaseVersion := fun _ => none

/-- Whether a deployment is one of a version, as far as its record tells. -/
def deploys (profile : ProductProfile) (deployment : DeploymentRecord)
    (version : ReleaseVersion) : Bool :=
  deployment.artifactId = some version.artifactId ∧
    (profile.driverId ≠ "generic-web" ∨
      deployment.sourceGitRef = version.sourceCommit ∧
        deployment.releaseSettings = version.runtimeSettings)

/-- `is_hotfix_rejection`. -/
def isHotfixRejection (decision : ReleaseReviewDecisionRecord) : Bool :=
  decision.decision = .changesRequested ∧ decision.releaseStart = .rollback

/-- An acceptance by the product's owner. -/
def isClientAcceptance (owner : String) (decision : ReleaseReviewDecisionRecord) : Bool :=
  decision.decision = .accepted ∧ owner ≠ "" ∧ decision.actorGithubId = owner ∧
    decision.checklist.ownerGithubId = owner

/-- `_prod_context`. -/
def ProductProfile.prodContextName (profile : ProductProfile) : String :=
  profile.prodContext.getD ""

section Reads

variable {κ : Type} [LinearOrder κ] (collate : String ↪ κ)

/-- The order of the listing: the newest decision first. -/
def decisionRank (decision : ReleaseReviewDecisionRecord) : (ℕ ×ₗ κ)ᵒᵈ :=
  OrderDual.toDual (toLex (decision.decidedAt, collate decision.recordId))

/-- The order of the listing: the deployment that finished last first. -/
def deploymentRank (deployment : DeploymentRecord) : (ℕ ×ₗ ℕ ×ₗ κ)ᵒᵈ :=
  OrderDual.toDual (toLex (deployment.deployFinishedAt,
    toLex (deployment.deployStartedAt, collate deployment.recordId)))

namespace ReleaseStore

/-- `list_release_review_decision_records`. -/
def listDecisions (store : ReleaseStore) : List ReleaseReviewDecisionRecord :=
  sortedBy (decisionRank collate) store.decisions.rows

/-- `list_deployment_records` of the production lane. A context that is empty filters nothing. -/
def listProdDeployments (store : ReleaseStore) : List DeploymentRecord :=
  sortedBy (deploymentRank collate) (store.deployments.rows.filter fun deployment =>
    (store.profile.prodContextName = "" ∨
      deployment.context = store.profile.prodContextName) ∧ deployment.instanceName = "prod")

/-- `release_version` of the production lane. -/
def productionVersion (store : ReleaseStore) : Option ReleaseVersion :=
  store.profile.prodContext.bind store.production

/-- What the loop of `rejection_rollback_target` finds for a decision. -/
def acceptedDeployment (store : ReleaseStore)
    (beforeDecision : Option ReleaseReviewDecisionRecord)
    (decision : ReleaseReviewDecisionRecord) : Option DeploymentRecord :=
  if isClientAcceptance store.profile.ownerGithubId decision ∧
      ∀ before ∈ beforeDecision, decision.decidedAt ≤ before.decidedAt then
    (store.listProdDeployments collate).find? fun deployment =>
      deploys store.profile deployment decision.checklist.candidate &&
        deploymentRecordPassed deployment
  else none

/-- `rejection_rollback_target`. -/
def rejectionRollbackTarget (store : ReleaseStore)
    (beforeDecision : Option ReleaseReviewDecisionRecord) : Option DeploymentRecord :=
  (store.listDecisions collate).findSome? (store.acceptedDeployment collate beforeDecision)

/-- `rejection_rollback_pending`. -/
def rejectionRollbackPending (store : ReleaseStore) : Bool :=
  match (store.listDecisions collate).head? with
  | none => false
  | some latest =>
    if ¬ isHotfixRejection latest ∨ latest.releaseIssueUrl = "" then false
    else
      match store.productionVersion with
      | none => true
      | some production => production = latest.checklist.candidate

end ReleaseStore

end Reads

/-! ### The run of a release -/

/-- A kind of step of a release. -/
inductive ClientReleaseStepKind
  | backup | promote | rollback
  deriving Repr, DecidableEq

/-- `ClientReleaseStep`. -/
structure ClientReleaseStep where
  kind : ClientReleaseStepKind
  attempt : Nat
  deriving Repr, DecidableEq

/-- `client_release_steps`. -/
def clientReleaseSteps : ReleaseStart → List ClientReleaseStep
  | .nothing => []
  | .promote => [⟨.backup, 1⟩, ⟨.promote, 1⟩]
  | .promoteWithRollbackDrill =>
    [⟨.backup, 1⟩, ⟨.promote, 1⟩, ⟨.rollback, 1⟩, ⟨.backup, 2⟩, ⟨.promote, 2⟩]
  | .rollback => [⟨.rollback, 1⟩]

/-- `ClientReleaseStepStatus`. -/
inductive ClientReleaseStepStatus
  | notStarted | pending | running | reconciliationRequired | pass | fail | cancelled
  deriving Repr, DecidableEq

/-- `ClientReleaseRunState`. -/
inductive ClientReleaseRunState
  | waiting | running | passed | stopped
  deriving Repr, DecidableEq

/-- The state of a run with these step views. -/
def runState (statuses : List ClientReleaseStepStatus) : ClientReleaseRunState :=
  if statuses.any (· ∈ [ClientReleaseStepStatus.fail, .cancelled, .reconciliationRequired]) then
    .stopped
  else if statuses.all (· = .pass) then .passed
  else if statuses.any (· ∈ [ClientReleaseStepStatus.pending, .running]) then .running
  else .waiting

/-- `read_client_release_run`, given the views of a decision's operations. -/
def readClientReleaseRun (views : ReleaseReviewDecisionRecord → List ClientReleaseStepStatus)
    (decision : ReleaseReviewDecisionRecord) : Option ClientReleaseRunState :=
  if clientReleaseSteps decision.releaseStart = [] then none else some (runState (views decision))

/-- `live_temporary_hotfix`. -/
def liveTemporaryHotfix {κ : Type} [LinearOrder κ] (collate : String ↪ κ) (store : ReleaseStore)
    (views : ReleaseReviewDecisionRecord → List ClientReleaseStepStatus) :
    Option ReleaseReviewDecisionRecord :=
  let unpublished := (store.listDecisions collate).takeWhile fun decision =>
    decision.decision ≠ .temporaryHotfix ∧ decision.releaseIssueUrl = ""
  match (store.listDecisions collate).dropWhile fun decision =>
      decision.decision ≠ .temporaryHotfix ∧ decision.releaseIssueUrl = "" with
  | [] => none
  | hotfix :: _ =>
    if hotfix.decision ≠ .temporaryHotfix ∨
        (∃ decision ∈ unpublished, decision.checklistDigest ≠ hotfix.checklistDigest) then none
    else
      if readClientReleaseRun views hotfix = some .passed ∧
          store.productionVersion = some hotfix.checklist.candidate then some hotfix
      else none

end Launchplane.ClientRelease
