import Mathlib.Data.Char
import Mathlib.Data.List.Dedup
import Mathlib.Data.List.Lex
import Mathlib.Data.List.MinMax
import Launchplane.Table
import Launchplane.Text

/-!
# Launchplane.MergeReadiness.Contracts

**What merge readiness is decided from, and how it is reported.** Evidence comes
in five facets. Each facet has a state and the reasons for it, and the worst state
in the order of precedence is the state of the whole.

The records are in the normal form their validators leave them in. The text of an
instant is read by `parseTimestamp`, a parameter: `none` is a text it refuses.
-/

namespace Launchplane.MergeReadiness

/-- `MergeReadinessState`. -/
inductive State
  | ready
  | blockedOwnerEvidence
  | blockedChecks
  | blockedEngineeringReview
  | blockedPolicy
  | blockedCandidateIdentity
  | unknown
  deriving Repr, DecidableEq

/-- `MERGE_READINESS_STATE_PRECEDENCE`. -/
def statePrecedence : List State :=
  [.unknown, .blockedCandidateIdentity, .blockedPolicy, .blockedEngineeringReview, .blockedChecks,
    .blockedOwnerEvidence, .ready]

/-- `MERGE_READINESS_POLICY_DIMENSIONS`. -/
inductive PolicyDimension
  | technicalChecks | engineeringReview | ruleset | mergeTrain | authorization | admissionAlgorithm
  deriving Repr, DecidableEq

/-- The word of a dimension. -/
def PolicyDimension.text : PolicyDimension → String
  | technicalChecks => "technical_checks"
  | engineeringReview => "engineering_review"
  | ruleset => "ruleset"
  | mergeTrain => "merge_train"
  | authorization => "authorization"
  | admissionAlgorithm => "admission_algorithm"

/-- `MergeReadinessTechnicalCheckStatus`. -/
inductive CheckStatus
  | pass | pending | fail | unknown
  deriving Repr, DecidableEq

/-- `MergeReadinessStructuralCandidateStatus`. -/
inductive StructuralStatus
  | exact | recordedRolling | mismatch | unknown
  deriving Repr, DecidableEq

/-- `EngineeringReviewDecisionStatus`. -/
inductive DecisionStatus
  | approved | changesRequested | blocked | pending | unknown | stale
  deriving Repr, DecidableEq

/-- The word of a status. -/
def DecisionStatus.text : DecisionStatus → String
  | approved => "approved"
  | changesRequested => "changes_requested"
  | blocked => "blocked"
  | pending => "pending"
  | unknown => "unknown"
  | stale => "stale"

/-- `MergeReadinessReasonCode`, as far as the evaluation gives it. -/
inductive ReasonCode
  | checksPassed | checksPending | checksFailed | checksUnknown | checksHeadMismatch
  | engineeringReview (status : DecisionStatus)
  | engineeringReviewHeadMismatch | engineeringReviewTreeMismatch | engineeringReviewEvidenceMissing
  | policyFingerprintsMatch
  | policyMissing (dimension : PolicyDimension)
  | policyDrift (dimension : PolicyDimension)
  | candidateExact | candidateRecordedRolling | candidateIdentityMismatch | candidateIdentityUnknown
  | candidateQueueMismatch | candidateBaseMismatch | candidateHeadMismatch
  | controllerScopeMismatch | controllerLeaseHeld | controllerLeaseMissing | controllerLeaseLost
  | controllerLeaseExpired
  | expectedShaMatch | expectedShaMismatch
  deriving Repr, DecidableEq

/-- The text of a reason. -/
def ReasonCode.text : ReasonCode → String
  | checksPassed => "checks_passed"
  | checksPending => "checks_pending"
  | checksFailed => "checks_failed"
  | checksUnknown => "checks_unknown"
  | checksHeadMismatch => "checks_head_mismatch"
  | engineeringReview status => "engineering_review_" ++ status.text
  | engineeringReviewHeadMismatch => "engineering_review_head_mismatch"
  | engineeringReviewTreeMismatch => "engineering_review_tree_mismatch"
  | engineeringReviewEvidenceMissing => "engineering_review_evidence_missing"
  | policyFingerprintsMatch => "policy_fingerprints_match"
  | policyMissing dimension => "policy_" ++ dimension.text ++ "_missing"
  | policyDrift dimension => "policy_" ++ dimension.text ++ "_drift"
  | candidateExact => "candidate_exact"
  | candidateRecordedRolling => "candidate_recorded_rolling"
  | candidateIdentityMismatch => "candidate_identity_mismatch"
  | candidateIdentityUnknown => "candidate_identity_unknown"
  | candidateQueueMismatch => "candidate_queue_mismatch"
  | candidateBaseMismatch => "candidate_base_mismatch"
  | candidateHeadMismatch => "candidate_head_mismatch"
  | controllerScopeMismatch => "controller_scope_mismatch"
  | controllerLeaseHeld => "controller_lease_held"
  | controllerLeaseMissing => "controller_lease_missing"
  | controllerLeaseLost => "controller_lease_lost"
  | controllerLeaseExpired => "controller_lease_expired"
  | expectedShaMatch => "expected_sha_match"
  | expectedShaMismatch => "expected_sha_mismatch"

/-! ### Evidence -/

/-- `MergeReadinessTarget`. -/
structure Target where
  repository : String
  pullRequestNumber : Nat
  baseBranch : String
  baseSha : String
  pullRequestHeadSha : String
  pullRequestTreeSha : String
  expectedEffectSha : String
  queuePosition : Nat
  deriving Repr, DecidableEq

/-- `MergeReadinessAdvisoryObservation`. -/
structure AdvisoryObservation where
  name : String
  state : String
  appId : Option Nat := none
  deriving Repr, DecidableEq

/-- `MergeReadinessTechnicalCheckEvidence`. -/
structure TechnicalCheckEvidence where
  headSha : String
  status : CheckStatus
  requiredChecks : List String := []
  advisoryObservations : List AdvisoryObservation := []
  deriving Repr, DecidableEq

/-- `MergeReadinessEngineeringEvidenceReference`. -/
structure EngineeringEvidenceReference where
  runId : String
  headSha : String
  treeSha : String
  evidenceDigest : String
  deriving Repr, DecidableEq

/-- `EngineeringReviewDecisionRecord`, as far as the evaluation reads it. -/
structure EngineeringReviewDecision where
  decisionId : String
  decisionBindingSha256 : String
  status : DecisionStatus
  headSha : String
  treeSha : String
  qualifyingRunIds : List String := []
  deriving Repr, DecidableEq

/-- `MergeReadinessPolicyFingerprintEvidence` of a dimension. -/
structure PolicyFingerprintEvidence where
  expectedSha256 : String
  currentSha256 : Option String := none
  deriving Repr, DecidableEq

/-- `MergeReadinessPolicyFingerprints`. Each field is the fingerprint of its own dimension. -/
structure PolicyFingerprints where
  impact : Option PolicyFingerprintEvidence := none
  technicalChecks : PolicyFingerprintEvidence
  engineeringReview : PolicyFingerprintEvidence
  ruleset : PolicyFingerprintEvidence
  mergeTrain : PolicyFingerprintEvidence
  authorization : PolicyFingerprintEvidence
  admissionAlgorithm : PolicyFingerprintEvidence
  deriving Repr, DecidableEq

/-- The fingerprint of a dimension. -/
def PolicyFingerprints.get (fingerprints : PolicyFingerprints) :
    PolicyDimension → PolicyFingerprintEvidence
  | .technicalChecks => fingerprints.technicalChecks
  | .engineeringReview => fingerprints.engineeringReview
  | .ruleset => fingerprints.ruleset
  | .mergeTrain => fingerprints.mergeTrain
  | .authorization => fingerprints.authorization
  | .admissionAlgorithm => fingerprints.admissionAlgorithm

/-- `ordered`: the dimensions that are compared. The impact is not one of them. -/
def PolicyFingerprints.ordered (fingerprints : PolicyFingerprints) :
    List (PolicyDimension × PolicyFingerprintEvidence) :=
  [.technicalChecks, .engineeringReview, .ruleset, .mergeTrain, .authorization,
    .admissionAlgorithm].map fun dimension => (dimension, fingerprints.get dimension)

/-- `MergeReadinessCandidateEvidence`. -/
structure CandidateEvidence where
  structuralStatus : StructuralStatus
  recordId : String := ""
  repository : String := ""
  baseSha : String := ""
  candidateSha : String := ""
  pullRequestNumber : Option Nat := none
  queuePosition : Option Nat := none
  pullRequestHeadSha : String := ""
  deriving Repr, DecidableEq

/-- `MergeReadinessFenceEvidence`. -/
structure FenceEvidence where
  controllerKey : String := ""
  controllerRepository : String := ""
  controllerBaseBranch : String := ""
  controllerStatus : String := ""
  expectedLeaseOwner : String
  observedLeaseOwner : String := ""
  leaseExpiresAt : String := ""
  observedEffectSha : String := ""
  /-- `required_token`. -/
  expectedLeaseOwner_ne : expectedLeaseOwner ≠ "" := by decide
  deriving Repr, DecidableEq

/-- `MergeTrainHeadCheckReuse`, as far as the evaluation reads it. -/
structure HeadCheckReuse where
  pullRequestNumber : Nat
  headSha : String
  treeSha : String
  baseSha : String
  candidateSha : String
  deriving Repr, DecidableEq

/-- The arguments of `evaluate_merge_readiness`, besides its target. -/
structure Evidence where
  technicalChecks : TechnicalCheckEvidence
  engineeringDecision : Option EngineeringReviewDecision := none
  engineeringEvidence : List EngineeringEvidenceReference := []
  policyFingerprints : PolicyFingerprints
  candidateEvidence : CandidateEvidence
  fenceEvidence : FenceEvidence
  evaluatedAt : String
  headCheckReuse : Option HeadCheckReuse := none
  deriving Repr, DecidableEq

/-! ### Facets -/

/-- `merge_readiness_worst_state`. -/
def worstState (states : List State) : Except String State :=
  match states.argmin (statePrecedence.idxOf ·) with
  | none => .error "Merge readiness aggregation requires at least one state"
  | some state => .ok state

/-- `tuple(sorted(set(reasons)))`. -/
def sortedReasons (reasons : List ReasonCode) : List ReasonCode :=
  sortedBy (·.text.toList) reasons.dedup

/-- `_normalize_reasons`. -/
def normalizeReasons (reasons : List ReasonCode) : Except String (List ReasonCode) := do
  raiseIf (reasons = []) "merge readiness facets require at least one reason code"
  return sortedReasons reasons

/-- What the facets have in common. -/
structure Facet where
  state : State
  reasonCodes : List ReasonCode
  deriving Repr, DecidableEq

/-- The checks of a facet's validator: its state is one of its own, and it has reasons. -/
def Facet.build (allowed : List State) (invalid : String) (states : List State)
    (reasons : List ReasonCode) : Except String Facet := do
  let state ← worstState states
  raiseIf (state ∉ allowed) invalid
  let reasonCodes ← normalizeReasons reasons
  return { state, reasonCodes }

/-- What a facet found: reasons, each with the state it asks for. -/
abbrev Findings : Type := List (ReasonCode × State)

/-- A facet of findings. -/
def Facet.ofFindings (allowed : List State) (invalid : String) (findings : Findings) :
    Except String Facet :=
  Facet.build allowed invalid (findings.map Prod.snd) (findings.map Prod.fst)

/-- `MergeReadinessTechnicalChecksFacet`. -/
structure TechnicalChecksFacet extends Facet where
  headSha : String
  status : CheckStatus
  requiredChecks : List String
  advisoryObservations : List AdvisoryObservation
  deriving Repr, DecidableEq

/-- `MergeReadinessEngineeringReviewFacet`. -/
structure EngineeringReviewFacet extends Facet where
  status : DecisionStatus
  decisionId : String := ""
  decisionBindingSha256 : String := ""
  headSha : String := ""
  treeSha : String := ""
  evidence : List EngineeringEvidenceReference := []
  deriving Repr, DecidableEq

/-- `MergeReadinessPolicyFacet`. -/
structure PolicyFacet extends Facet where
  fingerprints : PolicyFingerprints
  deriving Repr, DecidableEq

/-- `MergeReadinessCandidateFacet`. -/
structure CandidateFacet extends Facet where
  evidence : CandidateEvidence
  deriving Repr, DecidableEq

/-- `MergeReadinessFenceFacet`. -/
structure FenceFacet extends Facet where
  evidence : FenceEvidence
  deriving Repr, DecidableEq

/-- `MergeReadinessResult`. Engineering review is advisory in it, and it has no facets of owners. -/
structure Result where
  target : Target
  state : State
  reasonCodes : List ReasonCode
  technicalChecks : TechnicalChecksFacet
  engineeringReview : EngineeringReviewFacet
  policy : PolicyFacet
  candidate : CandidateFacet
  fence : FenceFacet
  /-- The instant of the text that was given. -/
  evaluatedAt : Int
  deriving Repr, DecidableEq

/-! ### The order of states -/

variable {states : List State} {state : State}

theorem idxOf_lt_ready (h : state ≠ .ready) :
    statePrecedence.idxOf state < statePrecedence.idxOf .ready := by
  cases state <;> first | exact absurd rfl h | decide

theorem worstState_mem (h : worstState states = .ok state) : state ∈ states := by
  unfold worstState at h
  split at h
  · cases h
  · rename_i worst hworst
    obtain rfl := Except.ok.inj h
    exact List.argmin_mem hworst

/-- There is a worst of some states, and it is ready when they all are. -/
theorem worstState_ok (hne : states ≠ []) :
    ∃ state, worstState states = .ok state ∧
      (state = .ready ↔ ∀ other ∈ states, other = .ready) := by
  unfold worstState
  split
  · rename_i hnone
    exact absurd (List.argmin_eq_none.mp hnone) hne
  · rename_i worst hworst
    refine ⟨worst, rfl, ?_⟩
    constructor
    · rintro rfl other hother
      by_contra hblocked
      exact List.not_lt_of_mem_argmin hother hworst (idxOf_lt_ready hblocked)
    · exact fun hall => hall worst (List.argmin_mem hworst)

theorem sortedReasons_ne_nil {reasons : List ReasonCode} (h : reasons ≠ []) :
    sortedReasons reasons ≠ [] := by
  obtain ⟨reason, hreason⟩ := List.exists_mem_of_ne_nil _ h
  exact List.ne_nil_of_mem ((mem_sortedBy _).mpr (List.mem_dedup.mpr hreason))

/-- Sorting once is enough. -/
theorem sortedReasons_sortedReasons (reasons : List ReasonCode) :
    sortedReasons (sortedReasons reasons) = sortedReasons reasons := by
  have hnodup : (sortedReasons reasons).Nodup := nodup_sortedBy _ (List.nodup_dedup reasons)
  have hsorted := pairwise_sortedBy (·.text.toList) reasons.dedup
  show sortedBy (·.text.toList) (sortedReasons reasons).dedup = sortedReasons reasons
  rw [List.dedup_eq_self.mpr hnodup]
  exact hsorted.insertionSort_eq

/-- A facet whose states are all of its own is built, and it is ready when they all are. -/
theorem Facet.build_ok {allowed : List State} (invalid : String) {reasons : List ReasonCode}
    (hne : states ≠ []) (hallowed : ∀ other ∈ states, other ∈ allowed) (hreasons : reasons ≠ []) :
    ∃ facet, Facet.build allowed invalid states reasons = .ok facet ∧
      (facet.state = .ready ↔ ∀ other ∈ states, other = .ready) ∧ facet.reasonCodes ≠ [] := by
  obtain ⟨state, hworst, hready⟩ := worstState_ok hne
  refine ⟨⟨state, sortedReasons reasons⟩, ?_, hready, sortedReasons_ne_nil hreasons⟩
  have hstate : state ∈ allowed := hallowed state (worstState_mem hworst)
  simp [Facet.build, normalizeReasons, raiseIf, hworst, hstate, hreasons, bind, Except.bind, pure,
    Except.pure]

theorem Facet.ofFindings_ok {allowed : List State} (invalid : String) {findings : Findings}
    (hne : findings ≠ []) (hallowed : ∀ finding ∈ findings, finding.2 ∈ allowed) :
    ∃ facet, Facet.ofFindings allowed invalid findings = .ok facet ∧
      (facet.state = .ready ↔ ∀ finding ∈ findings, finding.2 = .ready) ∧
      facet.reasonCodes ≠ [] := by
  have hstates : findings.map Prod.snd ≠ [] := by simpa using hne
  have hreasons : findings.map Prod.fst ≠ [] := by simpa using hne
  obtain ⟨facet, hfacet, hready, hkept⟩ :=
    Facet.build_ok invalid hstates (List.forall_mem_map.mpr hallowed) hreasons
  exact ⟨facet, hfacet, hready.trans List.forall_mem_map, hkept⟩

end Launchplane.MergeReadiness
