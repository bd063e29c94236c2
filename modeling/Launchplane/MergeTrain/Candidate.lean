import Launchplane.MergeTrain.Provenance

/-!
# Launchplane.MergeTrain.Candidate

**Batch candidates and their records.** A candidate is the branch on which a
queue of pull requests was tested together. Once it is built it carries the
provenance of its branch, and its validator refuses a candidate whose identity,
queue or digest differs from what that provenance says.
-/

namespace Launchplane.MergeTrain

/-- `MergeTrainBatchCandidateStatus`. -/
inductive MergeTrainBatchCandidateStatus
  | planned | building | readyForChecks | passed | failed | stale | blocked
  deriving Repr, DecidableEq

/-- `MergeTrainBatchEntry`. -/
structure MergeTrainBatchEntry where
  pullRequestNumber : Nat
  position : Nat
  headSha : String
  headTreeSha : String := ""
  impactStatus : MergeTrainStructuralImpactStatus := .unknown
  affectedSubjects : List MergeTrainStructuralSubject := []
  deriving Repr, DecidableEq

/-- `MergeTrainBatchEntry._validate_entry`. -/
def MergeTrainBatchEntry.validate (entry : MergeTrainBatchEntry) :
    Except String MergeTrainBatchEntry := do
  raiseIf (entry.pullRequestNumber = 0) "pull_request_number must be greater than 0"
  raiseIf (entry.position = 0) "position must be greater than 0"
  let headSha ← requireText entry.headSha "merge train batch entry requires head_sha"
  let affectedSubjects := sortedSubjects entry.affectedSubjects
  raiseIf (entry.impactStatus = .unknown ∧ affectedSubjects ≠ [])
    "unknown merge train batch impact cannot carry affected subjects"
  return { entry with headSha, headTreeSha := pyStrip entry.headTreeSha, affectedSubjects }

/-- The part of an entry that its provenance binding repeats. -/
def MergeTrainBatchEntry.binding (entry : MergeTrainBatchEntry) :
    MergeTrainStructuralEntryBinding :=
  { position := entry.position
    pullRequestNumber := entry.pullRequestNumber
    headSha := entry.headSha
    headTreeSha := entry.headTreeSha
    impactStatus := entry.impactStatus
    affectedSubjects := entry.affectedSubjects }

/-- `MergeTrainBatchCandidate`. -/
structure MergeTrainBatchCandidate where
  batchId : String
  repository : String
  baseBranch : String
  baseSha : String
  policyKey : String
  policySha256 : String
  candidateRef : String
  candidateSha : String := ""
  candidateTreeSha : String := ""
  candidateSha256 : String := ""
  status : MergeTrainBatchCandidateStatus := .planned
  entries : List MergeTrainBatchEntry
  stackCollapseRoot : Option MergeTrainStackCollapseRootProof := none
  structuralProvenance : Option MergeTrainStructuralProvenance := none
  createdAt : String
  updatedAt : String
  deriving Repr, DecidableEq

/-- `MergeTrainBatchCandidateRecord`. -/
structure MergeTrainBatchCandidateRecord where
  recordId : String
  status : MergeTrainBatchRecordStatus := .active
  ordinaryJobBinding : Option OrdinaryAgentJobBinding := none
  source : String
  updatedAt : String
  candidate : MergeTrainBatchCandidate
  deriving Repr, DecidableEq

namespace MergeTrainBatchCandidate

/-- `_normalize_entries`. -/
def checkEntries (entries : List MergeTrainBatchEntry) : Except String Unit := do
  raiseIf (entries = []) "merge train batch candidate requires entries"
  raiseIf (entries.map (·.position) ≠ List.range' 1 entries.length)
    "merge train batch candidate positions must be contiguous"
  raiseIf (¬ (entries.map (·.pullRequestNumber)).Nodup)
    "merge train batch candidate PR numbers must be unique"

/-- The part of `_validate_candidate` that compares a candidate with its provenance. -/
def checkProvenance (candidate : MergeTrainBatchCandidate)
    (provenance : MergeTrainStructuralProvenance) : Except String MergeTrainBatchCandidate := do
  raiseIf (provenance.complete = false ∧ candidate.status ∉
      [MergeTrainBatchCandidateStatus.planned, MergeTrainBatchCandidateStatus.building])
    "completed batch candidate requires complete structural provenance"
  raiseIf (pyLower provenance.repository ≠ pyLower candidate.repository ∨
      provenance.baseBranch ≠ candidate.baseBranch ∨
      provenance.baseSha ≠ candidate.baseSha ∨
      provenance.policyKey ≠ candidate.policyKey ∨
      provenance.policySha256 ≠ candidate.policySha256 ∨
      provenance.candidateSha ≠ candidate.candidateSha ∨
      provenance.candidateTreeSha ≠ candidate.candidateTreeSha ∨
      provenance.stackCollapseRoot ≠ candidate.stackCollapseRoot)
    "batch candidate identity does not match structural provenance"
  raiseIf (provenance.entries ≠ candidate.entries.map MergeTrainBatchEntry.binding)
    "batch candidate entries do not match structural provenance"
  raiseIf (candidate.candidateSha256 ≠ "" ∧ candidate.candidateSha256 ≠ provenance.candidateSha256)
    "batch candidate digest does not match structural provenance"
  return { candidate with candidateSha256 := provenance.candidateSha256 }

/-- `MergeTrainBatchCandidate._validate_candidate`. -/
def validate (D : ProvenanceDigests) (candidate : MergeTrainBatchCandidate) :
    Except String MergeTrainBatchCandidate := do
  let entries ← candidate.entries.mapM MergeTrainBatchEntry.validate
  let stackCollapseRoot ← candidate.stackCollapseRoot.mapM MergeTrainStackCollapseRootProof.validate
  let structuralProvenance ← candidate.structuralProvenance.mapM (·.validate D)
  let batchId ← requireText candidate.batchId "merge train batch candidate requires batch_id"
  let repository ← MergeTrainBatchLandingPlan.normalizeRepository candidate.repository
  let baseBranch ←
    requireText candidate.baseBranch "merge train batch candidate requires base_branch"
  let baseSha ← requireText candidate.baseSha "merge train batch candidate requires base_sha"
  let policyKey ← requireText candidate.policyKey "merge train batch candidate requires policy_key"
  let policySha256 ←
    requireText candidate.policySha256 "merge train batch candidate requires policy_sha256"
  let candidateRef ←
    requireText candidate.candidateRef "merge train batch candidate requires candidate_ref"
  let createdAt ← requireText candidate.createdAt "merge train batch candidate requires created_at"
  let updatedAt ← requireText candidate.updatedAt "merge train batch candidate requires updated_at"
  checkEntries entries
  let normalized : MergeTrainBatchCandidate :=
    { batchId, repository, baseBranch, baseSha, policyKey, policySha256, candidateRef, entries
      status := candidate.status
      candidateSha := pyStrip candidate.candidateSha
      candidateTreeSha := pyStrip candidate.candidateTreeSha
      candidateSha256 := pyLower (pyStrip candidate.candidateSha256)
      stackCollapseRoot, structuralProvenance, createdAt, updatedAt }
  match structuralProvenance with
  | none => return normalized
  | some provenance => checkProvenance normalized provenance

/-- A candidate that was built, and so is rebuilt to itself. -/
def Valid (D : ProvenanceDigests) (candidate : MergeTrainBatchCandidate) : Prop :=
  candidate.validate D = .ok candidate

instance (D : ProvenanceDigests) (candidate : MergeTrainBatchCandidate) :
    Decidable (candidate.Valid D) :=
  inferInstanceAs (Decidable (candidate.validate D = .ok candidate))

theorem checkProvenance_eq_ok {candidate candidate' : MergeTrainBatchCandidate}
    {provenance : MergeTrainStructuralProvenance}
    (h : candidate.checkProvenance provenance = .ok candidate') :
    provenance.baseSha = candidate.baseSha ∧ provenance.candidateSha = candidate.candidateSha ∧
      provenance.candidateTreeSha = candidate.candidateTreeSha ∧
      provenance.entries = candidate.entries.map MergeTrainBatchEntry.binding ∧
      candidate' = { candidate with candidateSha256 := provenance.candidateSha256 } := by
  unfold checkProvenance at h
  simp only [bind_eq_ok, raiseIf_eq_ok] at h
  obtain ⟨_, _, _, hidentity, _, hentries, _, _, hret⟩ := h
  simp only [not_or, ne_eq, not_not] at hidentity hentries
  exact ⟨hidentity.2.2.1, hidentity.2.2.2.2.2.1, hidentity.2.2.2.2.2.2.1, hentries,
    (Except.ok.inj hret).symm⟩

/-- **A built candidate with provenance is the candidate its provenance describes.** -/
theorem provenance_of_valid {D : ProvenanceDigests} {candidate : MergeTrainBatchCandidate}
    {provenance : MergeTrainStructuralProvenance} (h : candidate.Valid D)
    (hp : candidate.structuralProvenance = some provenance) :
    provenance.Valid D ∧ provenance.baseSha = candidate.baseSha ∧
      provenance.candidateSha = candidate.candidateSha ∧
      provenance.candidateTreeSha = candidate.candidateTreeSha ∧
      provenance.entries = candidate.entries.map MergeTrainBatchEntry.binding ∧
      candidate.entries.map (·.position) = List.range' 1 candidate.entries.length := by
  unfold Valid validate at h
  rw [hp] at h
  simp only [Option.mapM_some, map_eq_pure_bind, bind_eq_ok] at h
  obtain ⟨entries, _, _, _, _, ⟨checked, hchecked, hsome⟩, _, _, _, _, _, _, baseSha, _, _, _, _,
    _, _, _, _, _, _, _, _, hentries, hfinal⟩ := h
  obtain rfl := Except.ok.inj hsome
  obtain ⟨hbase, hsha, htree, hbinding, hself⟩ := checkProvenance_eq_ok hfinal
  unfold checkEntries at hentries
  simp only [bind_eq_ok, raiseIf_eq_ok, ne_eq, not_not] at hentries
  obtain ⟨_, _, _, hpositions, _⟩ := hentries
  -- the rebuilt candidate is the candidate itself, so its parts are the normalized ones
  have hprovenance : provenance = checked :=
    Option.some.inj (hp.symm.trans (congrArg MergeTrainBatchCandidate.structuralProvenance hself))
  subst hprovenance
  refine ⟨hchecked, ?_, ?_, ?_, ?_, ?_⟩
  · rw [hself]
    exact hbase
  · rw [hself]
    exact hsha
  · rw [hself]
    exact htree
  · rw [hself]
    exact hbinding
  · rw [hself]
    exact hpositions

end MergeTrainBatchCandidate

end Launchplane.MergeTrain
