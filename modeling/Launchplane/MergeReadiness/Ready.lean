import Launchplane.MergeReadiness.Evaluate

/-!
# Launchplane.MergeReadiness.Ready

**Ready, in the terms of the evidence** (`MergeReady`). Each facet that counts is
ready exactly when its part of the evidence is, and the worst of four states is
ready when all four are. Evidence that is no better in any piece is ready only
where the other was.
-/

namespace Launchplane.MergeReadiness

variable {parseTimestamp : String → Option Int} {target : Target} {evidence : Evidence}

/-! ### Evidence that is ready -/

/-- A reuse of the head's checks binds exactly this pull request, head, tree, base and candidate. -/
structure ReuseBinds (target : Target) (reuse : HeadCheckReuse) : Prop where
  pullRequestNumber : reuse.pullRequestNumber = target.pullRequestNumber
  headSha : reuse.headSha = target.pullRequestHeadSha
  treeSha : reuse.treeSha = target.pullRequestTreeSha
  baseSha : reuse.baseSha = target.baseSha
  candidateSha : reuse.candidateSha = target.expectedEffectSha

/-- The checks passed, on the commit that is to be merged or on the head of the pull request. -/
structure ChecksReady (target : Target) (checks : TechnicalCheckEvidence)
    (headCheckReuse : Option HeadCheckReuse) : Prop where
  status : checks.status = .pass
  head : checks.headSha = target.expectedEffectSha ∨
    checks.headSha = target.pullRequestHeadSha ∧ ∃ reuse ∈ headCheckReuse, ReuseBinds target reuse

/-- The fingerprint of every dimension but the engineering review is the expected one. -/
def PolicyReady (fingerprints : PolicyFingerprints) : Prop :=
  ∀ dimension, dimension ≠ .engineeringReview →
    (fingerprints.get dimension).currentSha256 = some (fingerprints.get dimension).expectedSha256

/-- A recorded candidate of this pull request. -/
structure CandidateReady (target : Target) (candidate : CandidateEvidence) : Prop where
  status : candidate.structuralStatus = .exact ∨ candidate.structuralStatus = .recordedRolling
  recorded : candidate.recordId ≠ ""
  repository : candidate.repository = target.repository
  candidateSha : candidate.candidateSha = target.expectedEffectSha
  pullRequestNumber : candidate.pullRequestNumber = some target.pullRequestNumber
  queuePosition : candidate.queuePosition = some target.queuePosition
  headSha : candidate.pullRequestHeadSha = target.pullRequestHeadSha
  baseSha : candidate.structuralStatus = .exact → candidate.baseSha = target.baseSha

/-- The controller runs under the expected lease owner, with a lease that outlives the evaluation,
and what is to be merged is what was expected. A controller that is named is one for this base. -/
structure FenceReady (parseTimestamp : String → Option Int) (target : Target)
    (fence : FenceEvidence) (evaluatedAt : String) : Prop where
  running : fence.controllerStatus = "running"
  owner : fence.observedLeaseOwner = fence.expectedLeaseOwner
  scope : fence.controllerRepository ≠ "" → fence.controllerRepository = target.repository ∧
    fence.controllerBaseBranch = target.baseBranch
  leased : fence.leaseExpiresAt ≠ ""
  live : ∃ expiresAt now, parseTimestamp fence.leaseExpiresAt = some expiresAt ∧
    parseTimestamp evaluatedAt = some now ∧ now < expiresAt
  effect : fence.observedEffectSha = target.expectedEffectSha

/-- All the evidence is ready. -/
structure MergeReady (parseTimestamp : String → Option Int) (target : Target)
    (evidence : Evidence) : Prop where
  checks : ChecksReady target evidence.technicalChecks evidence.headCheckReuse
  policy : PolicyReady evidence.policyFingerprints
  candidate : CandidateReady target evidence.candidateEvidence
  fence : FenceReady parseTimestamp target evidence.fenceEvidence evidence.evaluatedAt

/-! ### The facets -/

theorem reuseMatches_iff {checks : TechnicalCheckEvidence} {reuse : Option HeadCheckReuse} :
    reuseMatches target checks reuse ↔
      checks.headSha = target.pullRequestHeadSha ∧ ∃ found ∈ reuse, ReuseBinds target found := by
  unfold reuseMatches
  constructor
  · rintro ⟨rfl, hhead⟩
    exact ⟨hhead, _, rfl, ⟨rfl, hhead, rfl, rfl, rfl⟩⟩
  · rintro ⟨hhead, ⟨number, head, tree, base, candidate⟩, hreuse, hbinds⟩
    obtain ⟨rfl, rfl, rfl, rfl, rfl⟩ := hbinds
    exact ⟨by rw [hhead]; exact hreuse, hhead⟩

theorem technicalChecksFacet_ok (target : Target) (checks : TechnicalCheckEvidence)
    (reuse : Option HeadCheckReuse) :
    ∃ facet, technicalChecksFacet target checks reuse = .ok facet ∧
      (facet.state = .ready ↔ ChecksReady target checks reuse) ∧ facet.reasonCodes ≠ [] := by
  have hallowed : ∀ finding ∈ technicalChecksFindings target checks reuse,
      finding.2 ∈ [State.ready, .blockedChecks, .unknown] := by
    unfold technicalChecksFindings
    cases checks.status <;> split <;> simp [checkStatusFinding]
  obtain ⟨facet, hfacet, hready, hreasons⟩ := Facet.ofFindings_ok
    "Technical-check readiness facet uses an invalid canonical state" (List.cons_ne_nil _ _)
    hallowed
  refine ⟨_, bind_eq_ok.mpr ⟨facet, hfacet, rfl⟩, hready.trans ?_, hreasons⟩
  have hstatus : (checkStatusFinding checks.status).2 = .ready ↔ checks.status = .pass := by
    cases checks.status <;> simp [checkStatusFinding]
  have hhead : (∀ finding ∈ if checks.headSha ≠ target.expectedEffectSha ∧
        ¬ reuseMatches target checks reuse then
          [(ReasonCode.checksHeadMismatch, State.blockedChecks)] else [],
        finding.2 = .ready) ↔
      checks.headSha = target.expectedEffectSha ∨ reuseMatches target checks reuse := by
    split
    · simp_all
    · simp only [List.not_mem_nil, false_implies, implies_true, true_iff]
      tauto
  rw [List.forall_mem_cons, hstatus, hhead, reuseMatches_iff]
  exact ⟨fun ⟨hpass, hmatches⟩ => ⟨hpass, hmatches⟩, fun ⟨hpass, hmatches⟩ => ⟨hpass, hmatches⟩⟩

theorem engineeringReviewFacet_ok (target : Target) (decision : Option EngineeringReviewDecision)
    (references : List EngineeringEvidenceReference) :
    ∃ facet, engineeringReviewFacet target decision references = .ok facet ∧
      facet.reasonCodes ≠ [] := by
  have hne : engineeringReviewFindings target decision references ≠ [] := by
    cases decision <;> simp [engineeringReviewFindings]
  have hallowed : ∀ finding ∈ engineeringReviewFindings target decision references,
      finding.2 ∈ [State.ready, .blockedEngineeringReview, .unknown] := by
    cases decision with
    | none => simp [engineeringReviewFindings]
    | some decision =>
        have hstatus : decisionState decision.status ∈
            [State.ready, .blockedEngineeringReview, .unknown] := by
          cases decision.status <;> simp [decisionState]
        refine List.forall_mem_cons.mpr ⟨hstatus, ?_⟩
        intro finding hfinding
        simp only [List.mem_append] at hfinding
        rcases hfinding with (h | h) | h <;> split at h <;> simp_all
  obtain ⟨facet, hfacet, -, hreasons⟩ := Facet.ofFindings_ok
    "Engineering-review readiness facet uses an invalid canonical state" hne hallowed
  cases decision with
  | none => exact ⟨_, bind_eq_ok.mpr ⟨facet, hfacet, rfl⟩, hreasons⟩
  | some decision => exact ⟨_, bind_eq_ok.mpr ⟨facet, hfacet, rfl⟩, hreasons⟩

theorem fingerprintReason_eq_none {fingerprint : PolicyDimension × PolicyFingerprintEvidence} :
    fingerprintReason fingerprint = none ↔
      fingerprint.2.currentSha256 = some fingerprint.2.expectedSha256 := by
  unfold fingerprintReason
  cases fingerprint.2.currentSha256 with
  | none => simp
  | some current => simp [eq_comm]

theorem policyFacet_ok (fingerprints : PolicyFingerprints) :
    ∃ facet, policyFacet fingerprints [.engineeringReview] = .ok facet ∧
      (facet.state = .ready ↔ PolicyReady fingerprints) ∧ facet.reasonCodes ≠ [] := by
  have hblocking : (fingerprints.ordered.filter
      (·.1 ∉ [PolicyDimension.engineeringReview])).filterMap fingerprintReason = [] ↔
        PolicyReady fingerprints := by
    rw [List.filterMap_eq_nil_iff]
    constructor
    · intro hnone dimension hdimension
      refine fingerprintReason_eq_none.mp (hnone (dimension, fingerprints.get dimension) ?_)
      cases dimension <;> simp_all [PolicyFingerprints.ordered]
    · intro hready fingerprint hfingerprint
      obtain ⟨hmem, hdimension⟩ := List.mem_filter.mp hfingerprint
      obtain ⟨dimension, -, rfl⟩ := List.mem_map.mp hmem
      exact fingerprintReason_eq_none.mpr (hready dimension (by simpa using hdimension))
  have hreasons : (if fingerprints.ordered.filterMap fingerprintReason = [] then
      [ReasonCode.policyFingerprintsMatch]
      else fingerprints.ordered.filterMap fingerprintReason) ≠ [] := by
    split
    · simp
    · assumption
  have hallowed : ∀ finding ∈ [if (fingerprints.ordered.filter
      (·.1 ∉ [PolicyDimension.engineeringReview])).filterMap fingerprintReason = [] then
        State.ready else .blockedPolicy], finding ∈ [State.ready, .blockedPolicy, .unknown] := by
    split <;> simp
  obtain ⟨facet, hfacet, hready, hreasons⟩ := Facet.build_ok
    "Policy readiness facet uses an invalid canonical state" (List.cons_ne_nil _ []) hallowed
    hreasons
  refine ⟨_, bind_eq_ok.mpr ⟨facet, hfacet, rfl⟩, hready.trans ?_, hreasons⟩
  rw [← hblocking]
  split <;> simp_all

theorem candidateMismatches_eq_nil {candidate : CandidateEvidence} :
    candidateMismatches target candidate = [] ↔
      (candidate.repository = target.repository ∧
        candidate.candidateSha = target.expectedEffectSha) ∧
      (candidate.pullRequestNumber = some target.pullRequestNumber ∧
        candidate.queuePosition = some target.queuePosition) ∧
      candidate.pullRequestHeadSha = target.pullRequestHeadSha ∧
      (candidate.structuralStatus = .exact → candidate.baseSha = target.baseSha) := by
  unfold candidateMismatches
  simp only [List.append_eq_nil_iff, and_assoc, ite_eq_right_iff, List.cons_ne_nil, imp_false,
    not_or, not_and, not_not]

theorem candidateFacet_ok (target : Target) (candidate : CandidateEvidence) :
    ∃ facet, candidateFacet target candidate = .ok facet ∧
      (facet.state = .ready ↔ CandidateReady target candidate) ∧ facet.reasonCodes ≠ [] := by
  have hallowed : ∀ finding ∈ candidateFindings target candidate,
      finding.2 ∈ [State.ready, .blockedCandidateIdentity, .unknown] := by
    have hstatus : (structuralFinding candidate.structuralStatus).2 ∈
        [State.ready, .blockedCandidateIdentity, .unknown] := by
      cases candidate.structuralStatus <;> simp [structuralFinding]
    refine List.forall_mem_cons.mpr ⟨hstatus, ?_⟩
    split <;> simp
  obtain ⟨facet, hfacet, hready, hreasons⟩ := Facet.ofFindings_ok
    "Candidate readiness facet uses an invalid canonical state" (List.cons_ne_nil _ _) hallowed
  refine ⟨_, bind_eq_ok.mpr ⟨facet, hfacet, rfl⟩, hready.trans ?_, hreasons⟩
  have hstatus : (structuralFinding candidate.structuralStatus).2 = .ready ↔
      candidate.structuralStatus = .exact ∨ candidate.structuralStatus = .recordedRolling := by
    cases candidate.structuralStatus <;> simp [structuralFinding]
  have hidentity : (∀ finding ∈ if candidate.recordId = "" then
        [(ReasonCode.candidateIdentityUnknown, State.unknown)]
      else (candidateMismatches target candidate).map (·, .blockedCandidateIdentity),
        finding.2 = .ready) ↔
      candidate.recordId ≠ "" ∧ candidateMismatches target candidate = [] := by
    split
    · simp_all
    · simp_all [List.eq_nil_iff_forall_not_mem]
  rw [List.forall_mem_cons, hstatus, hidentity, candidateMismatches_eq_nil]
  constructor
  · rintro ⟨hstatus, hrecorded, ⟨hrepository, hsha⟩, ⟨hnumber, hposition⟩, hhead, hbase⟩
    exact ⟨hstatus, hrecorded, hrepository, hsha, hnumber, hposition, hhead, hbase⟩
  · rintro ⟨hstatus, hrecorded, hrepository, hsha, hnumber, hposition, hhead, hbase⟩
    exact ⟨hstatus, hrecorded, ⟨hrepository, hsha⟩, ⟨hnumber, hposition⟩, hhead, hbase⟩

/-- The lease is held: what the fence needs besides its scope and the effect. -/
theorem leaseFinding_eq_held {fence : FenceEvidence} {evaluatedAt : String} :
    leaseFinding parseTimestamp fence evaluatedAt = .ok .controllerLeaseHeld ↔
      fence.controllerStatus = "running" ∧ fence.observedLeaseOwner = fence.expectedLeaseOwner ∧
      fence.leaseExpiresAt ≠ "" ∧ ∃ expiresAt now,
        parseTimestamp fence.leaseExpiresAt = some expiresAt ∧
        parseTimestamp evaluatedAt = some now ∧ now < expiresAt := by
  unfold leaseFinding
  by_cases hmissing : fence.controllerStatus ≠ "running" ∨ fence.observedLeaseOwner = ""
  · rw [if_pos hmissing]
    constructor
    · intro h
      cases Except.ok.inj h
    · rintro ⟨hrunning, howner, -⟩
      rcases hmissing with hidle | hnone
      · exact absurd hrunning hidle
      · exact absurd (howner.symm.trans hnone) fence.expectedLeaseOwner_ne
  obtain ⟨hrunning, -⟩ := not_or.mp hmissing
  rw [if_neg hmissing]
  by_cases howner : fence.observedLeaseOwner = fence.expectedLeaseOwner
  swap
  · simp [howner]
  by_cases hlease : fence.leaseExpiresAt = ""
  · simp [howner, hlease]
  rw [if_neg (not_not.mpr howner), if_neg hlease]
  cases hexpires : parseTimestamp fence.leaseExpiresAt with
  | none => simp [parsedTimestamp, hexpires, bind, Except.bind]
  | some expiresAt =>
      cases hnow : parseTimestamp evaluatedAt with
      | none => simp [parsedTimestamp, hexpires, hnow, bind, Except.bind]
      | some now =>
          simp only [parsedTimestamp, hexpires, hnow, bind, Except.bind, pure, Except.pure]
          split
          · simp
            omega
          · simp_all

theorem fenceFacet_ok {fence : FenceEvidence} {evaluatedAt : String} {lease : ReasonCode}
    (hlease : leaseFinding parseTimestamp fence evaluatedAt = .ok lease) :
    ∃ facet, fenceFacet parseTimestamp target fence evaluatedAt = .ok facet ∧
      (facet.state = .ready ↔ FenceReady parseTimestamp target fence evaluatedAt) ∧
      facet.reasonCodes ≠ [] := by
  have hne : fenceFindings target fence lease ≠ [] := by
    unfold fenceFindings
    split <;> simp
  have hallowed : ∀ finding ∈ fenceFindings target fence lease,
      finding.2 ∈ [State.ready, .blockedCandidateIdentity, .unknown] := by
    intro finding hfinding
    unfold fenceFindings at hfinding
    simp only [List.mem_append, List.mem_cons, List.not_mem_nil, or_false] at hfinding
    rcases hfinding with h | rfl | rfl
    · split at h <;> simp_all
    · dsimp only
      split <;> simp
    · split <;> simp
  obtain ⟨facet, hfacet, hready, hreasons⟩ := Facet.ofFindings_ok
    "Fence readiness facet uses an invalid canonical state" hne hallowed
  refine ⟨_, bind_eq_ok.mpr ⟨lease, hlease, bind_eq_ok.mpr ⟨facet, hfacet, rfl⟩⟩,
    hready.trans ?_, hreasons⟩
  have hheld : lease = .controllerLeaseHeld ↔
      leaseFinding parseTimestamp fence evaluatedAt = .ok .controllerLeaseHeld := by
    rw [hlease, Except.ok.injEq]
  have hfindings : (∀ finding ∈ fenceFindings target fence lease, finding.2 = .ready) ↔
      ¬ controllerScopeMismatch target fence ∧ lease = .controllerLeaseHeld ∧
        fence.observedEffectSha = target.expectedEffectSha := by
    unfold fenceFindings
    simp only [List.forall_mem_append, List.forall_mem_cons, List.not_mem_nil, false_implies,
      implies_true, and_true]
    by_cases hscope : controllerScopeMismatch target fence <;>
      by_cases hheld : lease = .controllerLeaseHeld <;>
        by_cases heffect : fence.observedEffectSha = target.expectedEffectSha <;>
          simp [hscope, hheld, heffect]
  rw [hfindings, hheld, leaseFinding_eq_held]
  unfold controllerScopeMismatch
  constructor
  · rintro ⟨hscope, ⟨hrunning, howner, hleased, hlive⟩, heffect⟩
    refine ⟨hrunning, howner, fun hnamed => ?_, hleased, hlive, heffect⟩
    simpa using fun h => hscope ⟨hnamed, h⟩
  · rintro ⟨hrunning, howner, hscope, hleased, hlive, heffect⟩
    refine ⟨?_, ⟨hrunning, howner, hleased, hlive⟩, heffect⟩
    rintro ⟨hnamed, hother⟩
    obtain ⟨hrepository, hbranch⟩ := hscope hnamed
    exact hother.elim (fun h => h hrepository) (fun h => h hbranch)

/-! ### The whole -/

/-- The result passes its validator. -/
theorem validate_ok {result : Result}
    (hreasons : result.reasonCodes = facetReasons [result.technicalChecks.toFacet,
      result.engineeringReview.toFacet, result.policy.toFacet, result.candidate.toFacet,
      result.fence.toFacet])
    (hne : result.technicalChecks.reasonCodes ≠ [])
    (hstate : worstState [result.technicalChecks.state, result.policy.state,
      result.candidate.state, result.fence.state] = .ok result.state) :
    ∃ checked, result.validate = .ok checked ∧ checked.state = result.state := by
  have hsome : result.reasonCodes ≠ [] := by
    rw [hreasons]
    refine sortedReasons_ne_nil ?_
    simp [hne]
  have hsorted : sortedReasons result.reasonCodes = result.reasonCodes := by
    rw [hreasons]
    exact sortedReasons_sortedReasons _
  have hready : ¬ (result.state = .ready ∧ ∃ facet ∈ [result.technicalChecks.toFacet,
      result.policy.toFacet, result.candidate.toFacet, result.fence.toFacet],
        facet.state ≠ .ready) := by
    rintro ⟨hready, facet, hfacet, hblocked⟩
    obtain ⟨state, hworst, hall⟩ := worstState_ok (List.cons_ne_nil result.technicalChecks.state
      [result.policy.state, result.candidate.state, result.fence.state])
    obtain rfl := Except.ok.inj (hworst.symm.trans hstate)
    refine hblocked (hall.mp hready facet.state ?_)
    simp only [List.mem_cons, List.not_mem_nil, or_false] at hfacet ⊢
    rcases hfacet with rfl | rfl | rfl | rfl <;> simp
  refine ⟨{ result with reasonCodes := sortedReasons result.reasonCodes }, ?_, rfl⟩
  unfold Result.validate normalizeReasons
  simp only [bind_eq_ok, raiseIf_eq_ok]
  refine ⟨_, ⟨(), hsome, rfl⟩, (), ?_, _, hstate, (), not_not.mpr rfl, (), hready, rfl⟩
  rw [hsorted]
  exact not_not.mpr hreasons

/-- The state of the whole, without the engineering review. -/
def stateOfFacets (parseTimestamp : String → Option Int) (target : Target) (evidence : Evidence) :
    Except String State := do
  let technicalChecks ← technicalChecksFacet target evidence.technicalChecks evidence.headCheckReuse
  let policy ← policyFacet evidence.policyFingerprints [.engineeringReview]
  let candidate ← candidateFacet target evidence.candidateEvidence
  let fence ← fenceFacet parseTimestamp target evidence.fenceEvidence evidence.evaluatedAt
  let _ ← parsedTimestamp parseTimestamp evidence.evaluatedAt
  worstState [technicalChecks.state, policy.state, candidate.state, fence.state]

theorem evaluateMergeReadiness_state (target : Target) (evidence : Evidence) :
    (evaluateMergeReadiness parseTimestamp target evidence).map Result.state =
      stateOfFacets parseTimestamp target evidence := by
  obtain ⟨technicalChecks, htechnical, -, hne⟩ :=
    technicalChecksFacet_ok target evidence.technicalChecks evidence.headCheckReuse
  obtain ⟨engineeringReview, hengineering, -⟩ :=
    engineeringReviewFacet_ok target evidence.engineeringDecision evidence.engineeringEvidence
  obtain ⟨policy, hpolicy, -⟩ := policyFacet_ok evidence.policyFingerprints
  obtain ⟨candidate, hcandidate, -⟩ := candidateFacet_ok target evidence.candidateEvidence
  unfold evaluateMergeReadiness stateOfFacets
  simp only [htechnical, hengineering, hpolicy, hcandidate, bind, Except.bind]
  cases fenceFacet parseTimestamp target evidence.fenceEvidence evidence.evaluatedAt with
  | error e => rfl
  | ok fence =>
      obtain ⟨state, hworst, -⟩ := worstState_ok (List.cons_ne_nil technicalChecks.state
        [policy.state, candidate.state, fence.state])
      dsimp only
      rw [hworst]
      cases parsedTimestamp parseTimestamp evidence.evaluatedAt with
      | error e => rfl
      | ok evaluatedAt =>
          obtain ⟨checked, hchecked, hstate⟩ : ∃ checked, Result.validate {
              target, state, technicalChecks, engineeringReview, policy, candidate, fence
              reasonCodes := facetReasons [technicalChecks.toFacet, engineeringReview.toFacet,
                policy.toFacet, candidate.toFacet, fence.toFacet]
              evaluatedAt } = .ok checked ∧ checked.state = state := validate_ok rfl hne hworst
          simp only [hchecked, Except.map, hstate]

theorem ready_iff_mergeReady :
    (∃ result, evaluateMergeReadiness parseTimestamp target evidence = .ok result ∧
      result.state = .ready) ↔ MergeReady parseTimestamp target evidence := by
  have hmap : (∃ result, evaluateMergeReadiness parseTimestamp target evidence = .ok result ∧
      result.state = .ready) ↔
        (evaluateMergeReadiness parseTimestamp target evidence).map Result.state = .ok .ready := by
    cases evaluateMergeReadiness parseTimestamp target evidence <;> simp [Except.map]
  obtain ⟨technicalChecks, htechnical, hchecks, -⟩ :=
    technicalChecksFacet_ok target evidence.technicalChecks evidence.headCheckReuse
  obtain ⟨policy, hpolicy, hpolicyReady, -⟩ := policyFacet_ok evidence.policyFingerprints
  obtain ⟨candidate, hcandidate, hcandidateReady, -⟩ :=
    candidateFacet_ok target evidence.candidateEvidence
  rw [hmap, evaluateMergeReadiness_state]
  unfold stateOfFacets
  simp only [bind_eq_ok]
  constructor
  · rintro ⟨_, h₁, _, h₂, _, h₃, fence, hfence, evaluatedAt, -, hworst⟩
    obtain rfl := Except.ok.inj (htechnical.symm.trans h₁)
    obtain rfl := Except.ok.inj (hpolicy.symm.trans h₂)
    obtain rfl := Except.ok.inj (hcandidate.symm.trans h₃)
    obtain ⟨lease, hlease, -⟩ := bind_eq_ok.mp hfence
    obtain ⟨facet, hfacet, hfenceReady, -⟩ := @fenceFacet_ok _ target _ _ _ hlease
    obtain rfl := Except.ok.inj (hfacet.symm.trans hfence)
    obtain ⟨state, hstate, hall⟩ := worstState_ok (List.cons_ne_nil technicalChecks.state
      [policy.state, candidate.state, facet.state])
    obtain rfl := Except.ok.inj (hstate.symm.trans hworst)
    have hready := hall.mp rfl
    exact ⟨hchecks.mp (hready _ (by simp)), hpolicyReady.mp (hready _ (by simp)),
      hcandidateReady.mp (hready _ (by simp)), hfenceReady.mp (hready _ (by simp))⟩
  · rintro ⟨hchecks', hpolicy', hcandidate', hfence'⟩
    have hlease : leaseFinding parseTimestamp evidence.fenceEvidence evidence.evaluatedAt =
        .ok .controllerLeaseHeld :=
      leaseFinding_eq_held.mpr ⟨hfence'.running, hfence'.owner, hfence'.leased, hfence'.live⟩
    obtain ⟨fence, hfence, hfenceReady, -⟩ := @fenceFacet_ok _ target _ _ _ hlease
    obtain ⟨-, now, -, hnow, -⟩ := hfence'.live
    refine ⟨technicalChecks, htechnical, policy, hpolicy, candidate, hcandidate, fence, hfence,
      now, by simp [parsedTimestamp, hnow], ?_⟩
    rw [hchecks.mpr hchecks', hpolicyReady.mpr hpolicy', hcandidateReady.mpr hcandidate',
      hfenceReady.mpr hfence']
    rfl

/-! ### Worse evidence -/

/-- An identity is no better than another one if it is the wanted one only where that is. -/
def IdentityNoBetter {α : Type} (wanted worse other : α) : Prop := worse = wanted → other = wanted

/-- A status of checks is no better than another one, in the order pass, pending, fail, unknown. -/
def CheckStatus.rank : CheckStatus → Nat
  | pass => 0
  | pending => 1
  | fail => 2
  | unknown => 3

/-- A structural status is no better than another one: it is the same, or a mismatch in place of a
match, or nothing is known. -/
def StructuralStatus.NoBetter (worse other : StructuralStatus) : Prop :=
  worse = other ∨ worse = .mismatch ∧ other ≠ .unknown ∨ worse = .unknown

/-- A reuse is no better than another one: the other binds whatever it binds. -/
structure HeadCheckReuse.NoBetter (target : Target) (worse other : HeadCheckReuse) : Prop where
  pullRequestNumber : IdentityNoBetter target.pullRequestNumber worse.pullRequestNumber
    other.pullRequestNumber
  headSha : IdentityNoBetter target.pullRequestHeadSha worse.headSha other.headSha
  treeSha : IdentityNoBetter target.pullRequestTreeSha worse.treeSha other.treeSha
  baseSha : IdentityNoBetter target.baseSha worse.baseSha other.baseSha
  candidateSha : IdentityNoBetter target.expectedEffectSha worse.candidateSha other.candidateSha

/-- Evidence that is no better than other evidence in any piece: a status is lower, an identity no
longer the wanted one, a record or a lease is missing, the lease ends earlier or the evaluation is
later. Of the engineering review nothing is asked. A controller that was named stays named. -/
structure Evidence.NoBetter (parseTimestamp : String → Option Int) (target : Target)
    (worse other : Evidence) : Prop where
  checkStatus : other.technicalChecks.status.rank ≤ worse.technicalChecks.status.rank
  checkedEffect : IdentityNoBetter target.expectedEffectSha worse.technicalChecks.headSha
    other.technicalChecks.headSha
  checkedHead : IdentityNoBetter target.pullRequestHeadSha worse.technicalChecks.headSha
    other.technicalChecks.headSha
  reuse : ∀ reuse ∈ worse.headCheckReuse, ∃ reuse' ∈ other.headCheckReuse,
    reuse.NoBetter target reuse'
  fingerprint : ∀ dimension,
    (worse.policyFingerprints.get dimension).currentSha256 =
      some (worse.policyFingerprints.get dimension).expectedSha256 →
    (other.policyFingerprints.get dimension).currentSha256 =
      some (other.policyFingerprints.get dimension).expectedSha256
  structuralStatus : worse.candidateEvidence.structuralStatus.NoBetter
    other.candidateEvidence.structuralStatus
  recorded : worse.candidateEvidence.recordId ≠ "" → other.candidateEvidence.recordId ≠ ""
  repository : IdentityNoBetter target.repository worse.candidateEvidence.repository
    other.candidateEvidence.repository
  baseSha : IdentityNoBetter target.baseSha worse.candidateEvidence.baseSha
    other.candidateEvidence.baseSha
  candidateSha : IdentityNoBetter target.expectedEffectSha worse.candidateEvidence.candidateSha
    other.candidateEvidence.candidateSha
  pullRequestNumber : IdentityNoBetter (some target.pullRequestNumber)
    worse.candidateEvidence.pullRequestNumber other.candidateEvidence.pullRequestNumber
  queuePosition : IdentityNoBetter (some target.queuePosition)
    worse.candidateEvidence.queuePosition other.candidateEvidence.queuePosition
  headSha : IdentityNoBetter target.pullRequestHeadSha worse.candidateEvidence.pullRequestHeadSha
    other.candidateEvidence.pullRequestHeadSha
  named : worse.fenceEvidence.controllerRepository = "" →
    other.fenceEvidence.controllerRepository = ""
  controllerRepository : IdentityNoBetter target.repository
    worse.fenceEvidence.controllerRepository other.fenceEvidence.controllerRepository
  controllerBaseBranch : IdentityNoBetter target.baseBranch
    worse.fenceEvidence.controllerBaseBranch other.fenceEvidence.controllerBaseBranch
  controllerStatus : IdentityNoBetter "running" worse.fenceEvidence.controllerStatus
    other.fenceEvidence.controllerStatus
  leaseOwner : worse.fenceEvidence.observedLeaseOwner = worse.fenceEvidence.expectedLeaseOwner →
    other.fenceEvidence.observedLeaseOwner = other.fenceEvidence.expectedLeaseOwner
  leased : worse.fenceEvidence.leaseExpiresAt ≠ "" → other.fenceEvidence.leaseExpiresAt ≠ ""
  leaseExpiresAt : ∀ expiresAt ∈ parseTimestamp worse.fenceEvidence.leaseExpiresAt,
    ∃ expiresAt' ∈ parseTimestamp other.fenceEvidence.leaseExpiresAt, expiresAt ≤ expiresAt'
  evaluatedAt : ∀ now ∈ parseTimestamp worse.evaluatedAt,
    ∃ now' ∈ parseTimestamp other.evaluatedAt, now' ≤ now
  observedEffectSha : IdentityNoBetter target.expectedEffectSha
    worse.fenceEvidence.observedEffectSha other.fenceEvidence.observedEffectSha

theorem StructuralStatus.NoBetter.eq {worse other : StructuralStatus} (h : worse.NoBetter other)
    (hready : worse = .exact ∨ worse = .recordedRolling) : worse = other := by
  rcases h with rfl | ⟨rfl, -⟩ | rfl
  · rfl
  · simp at hready
  · simp at hready

theorem MergeReady.of_noBetter {worse : Evidence} (h : MergeReady parseTimestamp target worse)
    (hworse : worse.NoBetter parseTimestamp target evidence) :
    MergeReady parseTimestamp target evidence := by
  obtain ⟨hchecks, hpolicy, hcandidate, hfence⟩ := h
  have hstatus := hworse.structuralStatus.eq hcandidate.status
  refine ⟨⟨?_, ?_⟩, ?_, ⟨?_, ?_, ?_, ?_, ?_, ?_, ?_, ?_⟩, ⟨?_, ?_, ?_, ?_, ?_, ?_⟩⟩
  · have hrank := hworse.checkStatus
    rw [hchecks.status] at hrank
    generalize evidence.technicalChecks.status = status at hrank ⊢
    cases status <;> simp_all [CheckStatus.rank]
  · rcases hchecks.head with heffect | ⟨hhead, reuse, hreuse, hbinds⟩
    · exact .inl (hworse.checkedEffect heffect)
    · obtain ⟨reuse', hreuse', hother⟩ := hworse.reuse reuse hreuse
      exact .inr ⟨hworse.checkedHead hhead, reuse', hreuse',
        hother.pullRequestNumber hbinds.pullRequestNumber, hother.headSha hbinds.headSha,
        hother.treeSha hbinds.treeSha, hother.baseSha hbinds.baseSha,
        hother.candidateSha hbinds.candidateSha⟩
  · exact fun dimension hdimension => hworse.fingerprint dimension (hpolicy dimension hdimension)
  · rw [← hstatus]
    exact hcandidate.status
  · exact hworse.recorded hcandidate.recorded
  · exact hworse.repository hcandidate.repository
  · exact hworse.candidateSha hcandidate.candidateSha
  · exact hworse.pullRequestNumber hcandidate.pullRequestNumber
  · exact hworse.queuePosition hcandidate.queuePosition
  · exact hworse.headSha hcandidate.headSha
  · intro hexact
    exact hworse.baseSha (hcandidate.baseSha (hstatus.trans hexact))
  · exact hworse.controllerStatus hfence.running
  · exact hworse.leaseOwner hfence.owner
  · intro hnamed
    obtain ⟨hrepository, hbranch⟩ := hfence.scope fun hblank => hnamed (hworse.named hblank)
    exact ⟨hworse.controllerRepository hrepository, hworse.controllerBaseBranch hbranch⟩
  · exact hworse.leased hfence.leased
  · obtain ⟨expiresAt, now, hexpires, hnow, hlive⟩ := hfence.live
    obtain ⟨expiresAt', hexpires', hlater⟩ := hworse.leaseExpiresAt expiresAt hexpires
    obtain ⟨now', hnow', hearlier⟩ := hworse.evaluatedAt now hnow
    exact ⟨expiresAt', now', hexpires', hnow', by omega⟩
  · exact hworse.observedEffectSha hfence.effect

/-- **Merge readiness is its facets**: ready exactly when the evidence is, whatever the engineering
review says, and never for evidence that is no better than evidence that is not ready. -/
theorem evaluateMergeReadiness_ready_iff (parseTimestamp : String → Option Int) (target : Target)
    (evidence : Evidence) :
    ((∃ result, evaluateMergeReadiness parseTimestamp target evidence = .ok result ∧
      result.state = .ready) ↔ MergeReady parseTimestamp target evidence) ∧
    (∀ engineeringDecision engineeringEvidence,
      (evaluateMergeReadiness parseTimestamp target
        { evidence with engineeringDecision, engineeringEvidence }).map Result.state =
      (evaluateMergeReadiness parseTimestamp target evidence).map Result.state) ∧
    ∀ worse : Evidence, worse.NoBetter parseTimestamp target evidence →
      (∃ result, evaluateMergeReadiness parseTimestamp target worse = .ok result ∧
        result.state = .ready) →
      ∃ result, evaluateMergeReadiness parseTimestamp target evidence = .ok result ∧
        result.state = .ready := by
  refine ⟨ready_iff_mergeReady, fun engineeringDecision engineeringEvidence => ?_, ?_⟩
  · rw [evaluateMergeReadiness_state, evaluateMergeReadiness_state]
    rfl
  · intro worse hworse hready
    exact ready_iff_mergeReady.mpr ((ready_iff_mergeReady.mp hready).of_noBetter hworse)

/-! ### What is not compared -/

/-- Two instants, in microseconds. -/
def readInstant (text : String) : Option Int :=
  if text = "2026-01-01T00:00:00Z" then some 1767225600000000
  else if text = "2026-01-01T00:10:00.000000Z" then some 1767226200000000
  else none

/-- A pull request that is to be merged as a candidate. -/
def someTarget : Target where
  repository := "example/launchplane"
  pullRequestNumber := 7
  baseBranch := "main"
  baseSha := "1111111111111111111111111111111111111111"
  pullRequestHeadSha := "2222222222222222222222222222222222222222"
  pullRequestTreeSha := "3333333333333333333333333333333333333333"
  expectedEffectSha := "4444444444444444444444444444444444444444"
  queuePosition := 1

/-- A fingerprint that is what it should be. -/
def currentFingerprint : PolicyFingerprintEvidence where
  expectedSha256 := "aaaaaaaaaaaaaaaaaaaaaaaaaaaaaaaaaaaaaaaaaaaaaaaaaaaaaaaaaaaaaaaa"
  currentSha256 := some "aaaaaaaaaaaaaaaaaaaaaaaaaaaaaaaaaaaaaaaaaaaaaaaaaaaaaaaaaaaaaaaa"

/-- Evidence that is ready. -/
def readyEvidence : Evidence where
  technicalChecks := { headSha := someTarget.expectedEffectSha, status := .pass }
  policyFingerprints := {
    technicalChecks := currentFingerprint
    engineeringReview := currentFingerprint
    ruleset := currentFingerprint
    mergeTrain := currentFingerprint
    authorization := currentFingerprint
    admissionAlgorithm := currentFingerprint }
  candidateEvidence := {
    structuralStatus := .exact
    recordId := "candidate-1"
    repository := someTarget.repository
    baseSha := someTarget.baseSha
    candidateSha := someTarget.expectedEffectSha
    pullRequestNumber := some 7
    queuePosition := some 1
    pullRequestHeadSha := someTarget.pullRequestHeadSha }
  fenceEvidence := {
    controllerKey := "controller-1"
    controllerRepository := someTarget.repository
    controllerBaseBranch := someTarget.baseBranch
    controllerStatus := "running"
    expectedLeaseOwner := "worker-1"
    observedLeaseOwner := "worker-1"
    leaseExpiresAt := "2026-01-01T00:10:00.000000Z"
    observedEffectSha := someTarget.expectedEffectSha }
  evaluatedAt := "2026-01-01T00:00:00Z"

/-- The same, under a controller of this name. -/
def withController (controllerRepository : String) : Evidence :=
  { readyEvidence with
    fenceEvidence := { readyEvidence.fenceEvidence with controllerRepository } }

/-- The same, with a candidate of this status on another base. -/
def onOtherBase (structuralStatus : StructuralStatus) : Evidence :=
  { readyEvidence with
    candidateEvidence := { readyEvidence.candidateEvidence with
      structuralStatus, baseSha := someTarget.expectedEffectSha } }

/-- The same, with an impact whose fingerprint drifted. -/
def withImpactDrift : Evidence :=
  { readyEvidence with
    policyFingerprints := { readyEvidence.policyFingerprints with
      impact := some { currentFingerprint with
        currentSha256 := some "bbbbbbbbbbbbbbbbbbbbbbbbbbbbbbbbbbbbbbbbbbbbbbbbbbbbbbbbbbbbbbbb" } } }

/-- The state of the evaluation, if it gives one. -/
def stateOf (evidence : Evidence) : Option State :=
  ((evaluateMergeReadiness readInstant someTarget evidence).map Result.state).toOption

/-- A controller that names no repository is ready where one of another repository is not; a rolling
candidate on another base is ready where an exact one is not; and the impact is not compared. -/
theorem ready_of_unnamed_controller :
    (withController "").fenceEvidence.controllerRepository ≠ someTarget.repository ∧
      stateOf (withController "") = some .ready ∧
      stateOf (withController "other/repository") = some .blockedCandidateIdentity ∧
      stateOf (onOtherBase .exact) = some .blockedCandidateIdentity ∧
      stateOf (onOtherBase .recordedRolling) = some .ready ∧
      (∃ impact ∈ withImpactDrift.policyFingerprints.impact,
        impact.currentSha256 ≠ some impact.expectedSha256) ∧
      stateOf withImpactDrift = some .ready := by
  decide +kernel

end Launchplane.MergeReadiness
