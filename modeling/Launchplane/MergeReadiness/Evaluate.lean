import Launchplane.MergeReadiness.Contracts

/-!
# Launchplane.MergeReadiness.Evaluate

**`evaluate_merge_readiness`**, facet by facet. Every facet gathers states and
reasons and is built from them; only the fence reads instants, so only it can
raise. The engineering review has a facet but no say.
-/

namespace Launchplane.MergeReadiness

variable (parseTimestamp : String → Option Int)

/-! ### The facets -/

/-- Whether a reuse of the head's checks is for exactly this pull request. -/
def reuseMatches (target : Target) (evidence : TechnicalCheckEvidence)
    (headCheckReuse : Option HeadCheckReuse) : Prop :=
  headCheckReuse = some
      { pullRequestNumber := target.pullRequestNumber
        headSha := evidence.headSha
        treeSha := target.pullRequestTreeSha
        baseSha := target.baseSha
        candidateSha := target.expectedEffectSha } ∧
    evidence.headSha = target.pullRequestHeadSha

instance (target : Target) (evidence : TechnicalCheckEvidence)
    (headCheckReuse : Option HeadCheckReuse) :
    Decidable (reuseMatches target evidence headCheckReuse) :=
  inferInstanceAs (Decidable (_ ∧ _))

/-- What the status of the checks says. -/
def checkStatusFinding : CheckStatus → ReasonCode × State
  | .pass => (.checksPassed, .ready)
  | .pending => (.checksPending, .blockedChecks)
  | .fail => (.checksFailed, .blockedChecks)
  | .unknown => (.checksUnknown, .unknown)

/-- What the checks say. -/
def technicalChecksFindings (target : Target) (evidence : TechnicalCheckEvidence)
    (headCheckReuse : Option HeadCheckReuse) : Findings :=
  checkStatusFinding evidence.status ::
    if evidence.headSha ≠ target.expectedEffectSha ∧
        ¬ reuseMatches target evidence headCheckReuse then
      [(.checksHeadMismatch, .blockedChecks)]
    else []

/-- `_technical_checks_facet`. -/
def technicalChecksFacet (target : Target) (evidence : TechnicalCheckEvidence)
    (headCheckReuse : Option HeadCheckReuse) : Except String TechnicalChecksFacet := do
  let facet ← Facet.ofFindings [.ready, .blockedChecks, .unknown]
    "Technical-check readiness facet uses an invalid canonical state"
    (technicalChecksFindings target evidence headCheckReuse)
  return { facet with
    headSha := evidence.headSha
    status := evidence.status
    requiredChecks := evidence.requiredChecks
    advisoryObservations := evidence.advisoryObservations }

/-- The state for the status of a decision. -/
def decisionState : DecisionStatus → State
  | .approved => .ready
  | .unknown => .unknown
  | _ => .blockedEngineeringReview

/-- The references a decision counts; of two to one run, the later one. -/
def qualifyingEvidence (decision : EngineeringReviewDecision)
    (evidence : List EngineeringEvidenceReference) : List EngineeringEvidenceReference :=
  decision.qualifyingRunIds.filterMap fun runId => evidence.reverse.find? (·.runId = runId)

/-- What the engineering review says. -/
def engineeringReviewFindings (target : Target) (decision : Option EngineeringReviewDecision)
    (evidence : List EngineeringEvidenceReference) : Findings :=
  match decision with
  | none => [(.engineeringReview .unknown, .unknown), (.engineeringReviewEvidenceMissing, .unknown)]
  | some decision =>
    (.engineeringReview decision.status, decisionState decision.status) ::
      ((if decision.headSha ≠ target.pullRequestHeadSha then
          [(.engineeringReviewHeadMismatch, .blockedEngineeringReview)] else []) ++
        (if decision.treeSha ≠ target.pullRequestTreeSha then
          [(.engineeringReviewTreeMismatch, .blockedEngineeringReview)] else []) ++
        (if decision.status = .approved ∧
            ((qualifyingEvidence decision evidence).length ≠ decision.qualifyingRunIds.length ∨
              ¬ ∀ item ∈ qualifyingEvidence decision evidence,
                item.headSha = target.pullRequestHeadSha ∧
                  item.treeSha = target.pullRequestTreeSha) then
          [(.engineeringReviewEvidenceMissing, .unknown)] else []))

/-- `_engineering_review_facet`. -/
def engineeringReviewFacet (target : Target) (decision : Option EngineeringReviewDecision)
    (evidence : List EngineeringEvidenceReference) : Except String EngineeringReviewFacet := do
  let facet ← Facet.ofFindings [.ready, .blockedEngineeringReview, .unknown]
    "Engineering-review readiness facet uses an invalid canonical state"
    (engineeringReviewFindings target decision evidence)
  match decision with
  | none => return { facet with status := .unknown }
  | some decision =>
    return { facet with
      status := decision.status
      decisionId := decision.decisionId
      decisionBindingSha256 := decision.decisionBindingSha256
      headSha := decision.headSha
      treeSha := decision.treeSha
      evidence := sortedBy (·.runId.toList) (qualifyingEvidence decision evidence) }

/-- What is wrong with the fingerprint of a dimension. -/
def fingerprintReason (fingerprint : PolicyDimension × PolicyFingerprintEvidence) :
    Option ReasonCode :=
  match fingerprint.2.currentSha256 with
  | none => some (.policyMissing fingerprint.1)
  | some current =>
    if current ≠ fingerprint.2.expectedSha256 then some (.policyDrift fingerprint.1) else none

/-- `_policy_facet`. -/
def policyFacet (fingerprints : PolicyFingerprints) (advisoryDimensions : List PolicyDimension) :
    Except String PolicyFacet := do
  let reasons := fingerprints.ordered.filterMap fingerprintReason
  let blockingReasons := (fingerprints.ordered.filter
    (·.1 ∉ advisoryDimensions)).filterMap fingerprintReason
  let facet ← Facet.build [.ready, .blockedPolicy, .unknown]
    "Policy readiness facet uses an invalid canonical state"
    [if blockingReasons = [] then .ready else .blockedPolicy]
    (if reasons = [] then [.policyFingerprintsMatch] else reasons)
  return { facet with fingerprints }

/-- What the structural status of a candidate says. -/
def structuralFinding : StructuralStatus → ReasonCode × State
  | .exact => (.candidateExact, .ready)
  | .recordedRolling => (.candidateRecordedRolling, .ready)
  | .mismatch => (.candidateIdentityMismatch, .blockedCandidateIdentity)
  | .unknown => (.candidateIdentityUnknown, .unknown)

/-- What is wrong with the identity of a recorded candidate. -/
def candidateMismatches (target : Target) (evidence : CandidateEvidence) : List ReasonCode :=
  (if evidence.repository ≠ target.repository ∨
      evidence.candidateSha ≠ target.expectedEffectSha then
    [.candidateIdentityMismatch] else []) ++
  (if evidence.pullRequestNumber ≠ some target.pullRequestNumber ∨
      evidence.queuePosition ≠ some target.queuePosition then
    [.candidateQueueMismatch] else []) ++
  (if evidence.pullRequestHeadSha ≠ target.pullRequestHeadSha then
    [.candidateHeadMismatch] else []) ++
  (if evidence.structuralStatus = .exact ∧ evidence.baseSha ≠ target.baseSha then
    [.candidateBaseMismatch] else [])

/-- What the candidate says. A facet keeps one of two equal reasons. -/
def candidateFindings (target : Target) (evidence : CandidateEvidence) : Findings :=
  structuralFinding evidence.structuralStatus ::
    if evidence.recordId = "" then [(.candidateIdentityUnknown, .unknown)]
    else (candidateMismatches target evidence).map (·, .blockedCandidateIdentity)

/-- `_candidate_facet`. -/
def candidateFacet (target : Target) (evidence : CandidateEvidence) :
    Except String CandidateFacet := do
  let facet ← Facet.ofFindings [.ready, .blockedCandidateIdentity, .unknown]
    "Candidate readiness facet uses an invalid canonical state"
    (candidateFindings target evidence)
  return { facet with evidence }

/-- The scope of the controller: one that is not named is not compared. -/
def controllerScopeMismatch (target : Target) (evidence : FenceEvidence) : Prop :=
  evidence.controllerRepository ≠ "" ∧
    (evidence.controllerRepository ≠ target.repository ∨
      evidence.controllerBaseBranch ≠ target.baseBranch)

instance (target : Target) (evidence : FenceEvidence) :
    Decidable (controllerScopeMismatch target evidence) :=
  inferInstanceAs (Decidable (_ ∧ _))

/-- `_parse_timestamp`, which raises what it cannot read. -/
def parsedTimestamp (text : String) : Except String Int :=
  match parseTimestamp text with
  | none => .error "Merge readiness timestamps require timezone"
  | some instant => .ok instant

/-- What the lease of the controller says. -/
def leaseFinding (evidence : FenceEvidence) (evaluatedAt : String) : Except String ReasonCode :=
  if evidence.controllerStatus ≠ "running" ∨ evidence.observedLeaseOwner = "" then
    .ok .controllerLeaseMissing
  else if evidence.observedLeaseOwner ≠ evidence.expectedLeaseOwner then .ok .controllerLeaseLost
  else if evidence.leaseExpiresAt = "" then .ok .controllerLeaseMissing
  else do
    let expiresAt ← parsedTimestamp parseTimestamp evidence.leaseExpiresAt
    let now ← parsedTimestamp parseTimestamp evaluatedAt
    return if expiresAt ≤ now then .controllerLeaseExpired else .controllerLeaseHeld

/-- What the fence says, with what its lease says. -/
def fenceFindings (target : Target) (evidence : FenceEvidence) (lease : ReasonCode) : Findings :=
  (if controllerScopeMismatch target evidence then
    [(.controllerScopeMismatch, .blockedCandidateIdentity)] else []) ++
  [(lease, if lease = .controllerLeaseHeld then .ready else .blockedCandidateIdentity),
    if evidence.observedEffectSha ≠ target.expectedEffectSha then
      (.expectedShaMismatch, .blockedCandidateIdentity)
    else (.expectedShaMatch, .ready)]

/-- `_fence_facet`. -/
def fenceFacet (target : Target) (evidence : FenceEvidence) (evaluatedAt : String) :
    Except String FenceFacet := do
  let lease ← leaseFinding parseTimestamp evidence evaluatedAt
  let facet ← Facet.ofFindings [.ready, .blockedCandidateIdentity, .unknown]
    "Fence readiness facet uses an invalid canonical state" (fenceFindings target evidence lease)
  return { facet with evidence }

/-! ### The result -/

/-- Every reason of every facet. -/
def facetReasons (facets : List Facet) : List ReasonCode :=
  sortedReasons (facets.flatMap Facet.reasonCodes)

/-- `_validate_result`; the instant was read before. -/
def Result.validate (result : Result) : Except String Result := do
  let facets := [result.technicalChecks.toFacet, result.policy.toFacet, result.candidate.toFacet,
    result.fence.toFacet]
  let reasonCodes ← normalizeReasons result.reasonCodes
  raiseIf (reasonCodes ≠ facetReasons [result.technicalChecks.toFacet,
      result.engineeringReview.toFacet, result.policy.toFacet, result.candidate.toFacet,
      result.fence.toFacet])
    "Merge readiness reason codes must retain every facet reason"
  let expectedState ← worstState (facets.map Facet.state)
  raiseIf (result.state ≠ expectedState)
    "Merge readiness state does not match deterministic aggregation"
  raiseIf (result.state = .ready ∧ ∃ facet ∈ facets, facet.state ≠ .ready)
    "Unknown or blocked merge readiness facets can never be ready"
  return { result with reasonCodes }

/-- `evaluate_merge_readiness`. -/
def evaluateMergeReadiness (target : Target) (evidence : Evidence) : Except String Result := do
  let technicalChecks ← technicalChecksFacet target evidence.technicalChecks evidence.headCheckReuse
  let engineeringReview ← engineeringReviewFacet target evidence.engineeringDecision
    evidence.engineeringEvidence
  let policy ← policyFacet evidence.policyFingerprints [.engineeringReview]
  let candidate ← candidateFacet target evidence.candidateEvidence
  let fence ← fenceFacet parseTimestamp target evidence.fenceEvidence evidence.evaluatedAt
  let state ← worstState [technicalChecks.state, policy.state, candidate.state, fence.state]
  let reasonCodes := facetReasons [technicalChecks.toFacet, engineeringReview.toFacet,
    policy.toFacet, candidate.toFacet, fence.toFacet]
  let evaluatedAt ← parsedTimestamp parseTimestamp evidence.evaluatedAt
  Result.validate { target, state, reasonCodes, technicalChecks, engineeringReview, policy
                    candidate, fence, evaluatedAt }

end Launchplane.MergeReadiness
