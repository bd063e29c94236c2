import Launchplane.ClientRelease.Records
import Mathlib.Data.Char
import Mathlib.Data.List.Lex

/-!
# Launchplane.ClientRelease.Review

**Recording a release decision.** The route answers on the review the caller is
shown: a live hotfix's own checklist for everyone but the Director, what testing
carries now otherwise. Every guard refuses with its code; a decision that passes
them is stored and published.

What comes from elsewhere is given with the request: the authorization answers,
the checklist compiled from source control, and the step views of the decisions'
operations.
-/

namespace Launchplane.ClientRelease

/-- `ReleaseReviewDecisionEnvelope`, validated. -/
structure DecisionEnvelope where
  checklistDigest : String
  decision : ReleaseDecision
  reason : String := ""
  releaseDuringBusinessHours : Bool := false
  businessHours : releaseDuringBusinessHours = true →
    decision ∈ [ReleaseDecision.accepted, .temporaryHotfix] ∧ reason ≠ "" := by decide
  reasoned : decision ≠ .accepted → reason ≠ "" := by decide

/-- What `build_release_review` compiles from the lanes and from source control. -/
structure CompiledReview where
  noNewRelease : Bool := false
  checklistComplete : Bool := true
  checklist : ReleaseChecklist
  checklistDigest : String
  deriving Repr, DecidableEq

/-- `ReleaseReviewStatus`, as far as the route uses it. -/
structure ReleaseReviewStatus where
  noNewRelease : Bool := false
  checklistComplete : Bool := false
  checklist : Option ReleaseChecklist := none
  checklistDigest : String := ""
  latestDecision : Option ReleaseReviewDecisionRecord := none
  deriving Repr, DecidableEq

/-- A request, with the answers it meets. -/
structure DecisionRequest where
  envelope : DecisionEnvelope
  /-- The signed-in person. -/
  githubId : String
  login : String
  /-- `can_override`. -/
  canOverride : Bool := false
  /-- `is_director`. -/
  isDirector : Bool := false
  /-- The review that is compiled now, unless its evidence is unavailable. -/
  compiled : Option CompiledReview
  views : ReleaseReviewDecisionRecord → List ClientReleaseStepStatus
  /-- `_product_drill_passed`. -/
  drillPassed : Bool := false
  now : Nat
  /-- The id that is drawn for the record. -/
  drawnRecordId : String
  /-- The issue that publishing the decision gives; empty when it fails. -/
  publishedUrl : String

/-- The code of a refusal. -/
inductive Refusal
  | releaseDecisionDenied | temporaryHotfixDenied | temporaryHotfixInProgress
  | temporaryHotfixRollbackInProgress | temporaryHotfixAwaitingClient | noNewRelease
  | temporaryHotfixUnavailable (message : String) | releaseChecklistChanged
  | releaseChecklistIncomplete
  /-- The record does not validate. -/
  | invalidRecord (message : String)
  deriving Repr, DecidableEq

/-- `release_start_for_acceptance`. -/
def releaseStartForAcceptance (profile : ProductProfile) (drillPassed : Bool) : ReleaseStart :=
  if profile.releaseOnAcceptance = .held ∨ profile.driverId ∉ ["odoo", "generic-web"] ∨
      profile.productionUse = .prelaunch ∨ profile.prodContextName = "" then .nothing
  else
    match profile.releaseOnAcceptance with
    | .held => .nothing
    | .promote => .promote
    | .promoteWithRollbackDrill => if drillPassed then .promote else .promoteWithRollbackDrill
    | .directorStanding =>
      if profile.driverId ≠ "generic-web" then .nothing
      else if drillPassed then .promote else .promoteWithRollbackDrill

/-- `hotfix_supported`. -/
def hotfixSupported (profile : ProductProfile) : Bool :=
  profile.driverId ∈ ["odoo", "generic-web"] ∧ profile.productionUse ≠ .prelaunch ∧
    profile.releaseOnAcceptance ≠ .directorStanding ∧ profile.ownerGithubId ≠ "" ∧
    profile.prodContext.isSome = true

/-- `viewer_is_product_owner`. -/
def viewerIsProductOwner (profile : ProductProfile) (githubId : String) : Bool :=
  profile.ownerGithubId ≠ "" ∧ profile.ownerGithubId = githubId

/-- The part of `ReleaseReviewResponse` the route reads. -/
structure ReleaseReviewResponse where
  review : ReleaseReviewStatus
  releaseRun : Option ClientReleaseRunState := none
  reviewingTemporaryHotfix : Bool
  deriving Repr, DecidableEq

section Route

variable {κ : Type} [LinearOrder κ] (collate : String ↪ κ)

/-- The order in which the review takes the latest of the matching decisions. -/
def latestRank (decision : ReleaseReviewDecisionRecord) : (ℕ ×ₗ List Char)ᵒᵈ :=
  OrderDual.toDual (toLex (decision.decidedAt, decision.recordId.toList))

namespace ReleaseStore

/-- `current_review`: what is compiled, with the latest decision on it. -/
def currentReview (store : ReleaseStore) (compiled : Option CompiledReview) :
    ReleaseReviewStatus :=
  match compiled with
  | none => {}
  | some compiled =>
    { noNewRelease := compiled.noNewRelease
      checklistComplete := compiled.checklistComplete
      checklist := some compiled.checklist
      checklistDigest := compiled.checklistDigest
      latestDecision :=
        if compiled.noNewRelease then none
        else (sortedBy latestRank (store.decisions.rows.filter
          (·.checklistDigest = compiled.checklistDigest))).head? }

/-- `release_run`. -/
def releaseRun (store : ReleaseStore)
    (views : ReleaseReviewDecisionRecord → List ClientReleaseStepStatus)
    (review : ReleaseReviewStatus) (reviewingHotfix : Bool) : Option ClientReleaseRunState :=
  match (store.listDecisions collate).head? with
  | none => none
  | some decision =>
    if reviewingHotfix = false ∧ some decision ≠ review.latestDecision then
      match review.checklist with
      | none => none
      | some checklist =>
        if checklist.candidate ≠ decision.checklist.candidate ∨
            checklist.production ≠ checklist.candidate then none
        else readClientReleaseRun views decision
    else readClientReleaseRun views decision

/-- `response`. -/
def response (store : ReleaseStore) (request : DecisionRequest) : ReleaseReviewResponse :=
  let viewerIsOwner := viewerIsProductOwner store.profile request.githubId
  let hotfix := liveTemporaryHotfix collate store request.views
  let director := !viewerIsOwner && hotfixSupported store.profile && request.isDirector
  let review := match hotfix with
    | some hotfix =>
      if director then store.currentReview request.compiled
      else
        { checklistComplete := true
          checklist := some hotfix.checklist
          checklistDigest := hotfix.checklistDigest
          latestDecision := some ((store.listDecisions collate).head?.getD hotfix) }
    | none => store.currentReview request.compiled
  { review
    releaseRun := store.releaseRun collate request.views review hotfix.isSome
    reviewingTemporaryHotfix := hotfix.isSome }

/-- `decision_release_start`. -/
def decisionReleaseStart (store : ReleaseStore) (request : DecisionRequest)
    (current : ReleaseReviewResponse) : ReleaseStart :=
  if request.envelope.decision = .temporaryHotfix then .promote
  else if current.reviewingTemporaryHotfix then
    if request.envelope.decision = .changesRequested then .rollback else .nothing
  else if request.envelope.decision = .accepted then
    releaseStartForAcceptance store.profile request.drillPassed
  else .nothing

/-- Who may record the decision. -/
def decisionAllowed (store : ReleaseStore) (request : DecisionRequest) : Bool :=
  let owner := viewerIsProductOwner store.profile request.githubId
  match request.envelope.decision with
  | .overridden => request.canOverride
  | .temporaryHotfix => !owner && request.isDirector
  | _ => owner

/-- Why a hotfix cannot start, by the state of the releases. -/
def hotfixRefusal (store : ReleaseStore) (current : ReleaseReviewResponse) : String :=
  if hotfixSupported store.profile = false then
    "This product has no gated release path for a temporary hotfix."
  else if current.releaseRun = some .running then
    "A release step is still running. Wait for it to finish."
  else if store.rejectionRollbackTarget collate none = none then
    "No Client-accepted release has a passing production deployment to roll back to. " ++
      "Use an admin override and hand promotion instead."
  else ""

/-- The guards of `write_release_review_decision`: the checklist the decision is made on. -/
def decisionGuards (store : ReleaseStore) (request : DecisionRequest)
    (current : ReleaseReviewResponse) : Except Refusal ReleaseChecklist := do
  let hotfix := request.envelope.decision = .temporaryHotfix
  let review := current.review
  raiseIf (store.decisionAllowed request = false)
    (if hotfix then .temporaryHotfixDenied else .releaseDecisionDenied)
  raiseIf (¬ hotfix ∧ (∃ latest ∈ (store.listDecisions collate).head?,
      latest.decision = .temporaryHotfix ∧ latest.releaseIssueUrl ≠ "") ∧
    (current.releaseRun = some .waiting ∨ current.releaseRun = some .running))
    .temporaryHotfixInProgress
  raiseIf (store.rejectionRollbackPending collate = true) .temporaryHotfixRollbackInProgress
  raiseIf (current.reviewingTemporaryHotfix = true ∧ request.envelope.decision = .overridden)
    .temporaryHotfixAwaitingClient
  raiseIf (review.noNewRelease = true) .noNewRelease
  raiseIf (hotfix ∧ store.hotfixRefusal collate current ≠ "")
    (.temporaryHotfixUnavailable (store.hotfixRefusal collate current))
  raiseIf (hotfix ∧ ∃ checklist ∈ review.checklist, checklist.production = checklist.candidate)
    (.temporaryHotfixUnavailable "Testing carries the version production already runs.")
  match review.checklist with
  | none => .error .releaseChecklistChanged
  | some checklist => do
    raiseIf (review.checklistDigest ≠ request.envelope.checklistDigest) .releaseChecklistChanged
    raiseIf (request.envelope.decision ∈ [ReleaseDecision.accepted, .temporaryHotfix] ∧
      review.checklistComplete = false) .releaseChecklistIncomplete
    return checklist

/-- The record of a decision. -/
def newDecision (store : ReleaseStore) (request : DecisionRequest)
    (current : ReleaseReviewResponse) (checklist : ReleaseChecklist) :
    ReleaseReviewDecisionRecord :=
  { recordId := "release-review-" ++ request.drawnRecordId
    product := store.profile.product
    checklistDigest := current.review.checklistDigest
    checklist
    decision := request.envelope.decision
    reason := request.envelope.reason
    releaseDuringBusinessHours := request.envelope.releaseDuringBusinessHours
    actorGithubId := request.githubId
    actorGithubLogin := request.login
    decidedAt := request.now
    releaseStart := store.decisionReleaseStart request current }

/-- Whether a decision repeats one on the same checklist. -/
def repeats (current : ReleaseReviewResponse) (decision previous : ReleaseReviewDecisionRecord) :
    Bool :=
  previous.actorGithubId = decision.actorGithubId ∧ previous.decision = decision.decision ∧
    previous.reason = decision.reason ∧ previous.releaseStart = decision.releaseStart ∧
    previous.releaseDuringBusinessHours = decision.releaseDuringBusinessHours ∧
    current.releaseRun ≠ some .stopped

/-- `create_release_review_decision_record_if_absent`, then the publication. -/
def recordDecision (store : ReleaseStore) (decision : ReleaseReviewDecisionRecord)
    (publishedUrl : String) : ReleaseStore :=
  let stored := (store.decisions.get decision.recordId).getD decision
  { store with
    decisions := store.decisions.merge
      (if stored.releaseIssueUrl = "" then { stored with releaseIssueUrl := publishedUrl }
      else stored) }

/-- `write_release_review_decision`. -/
def writeReleaseReviewDecision (store : ReleaseStore) (request : DecisionRequest) :
    Except Refusal ReleaseStore := do
  let current := store.response collate request
  let checklist ← store.decisionGuards collate request current
  let decision := store.newDecision request current checklist
  (validateDecision decision).mapError .invalidRecord
  match current.review.latestDecision with
  | none => return store.recordDecision decision request.publishedUrl
  | some previous =>
    if repeats current decision previous then
      if previous.releaseIssueUrl = "" then
        return store.recordDecision previous request.publishedUrl
      else if (store.listDecisions collate).head?.map (·.recordId) = some previous.recordId then
        return store
      else return store.recordDecision decision request.publishedUrl
    else return store.recordDecision decision request.publishedUrl

end ReleaseStore

end Route

end Launchplane.ClientRelease
