import Mathlib.Data.List.Sort
import Mathlib.Data.Prod.Lex
import Mathlib.Data.String.Basic
import Launchplane.Chain.Linked
import Launchplane.MergeTrain.LandingPlan

/-!
# Launchplane.MergeTrain.Provenance

**How a batch candidate was built.** The candidate branch starts at the base and
takes one rolling step for each queued head: a merge commit, or nothing when the
head is already contained. The provenance record keeps every step with the
commit and tree before and after it, and is refused unless the steps link up
from the base to the candidate.

The link between consecutive steps is what later admission relies on, so it is
stated once, as `RollingSteps`, and read off the validator by
`rollingSteps_of_valid`.
-/

namespace Launchplane.MergeTrain

open Launchplane.Chain

/-- `MergeTrainStructuralSubject`. -/
structure MergeTrainStructuralSubject where
  product : String
  system : String
  deriving Repr, DecidableEq

/-- `MergeTrainStructuralImpactStatus`. -/
inductive MergeTrainStructuralImpactStatus
  | known | unknown
  deriving Repr, DecidableEq

/-- `tuple(sorted(set(subjects), key=...))`. -/
def sortedSubjects (subjects : List MergeTrainStructuralSubject) :
    List MergeTrainStructuralSubject :=
  subjects.dedup.insertionSort fun a b => toLex (a.product, a.system) ≤ toLex (b.product, b.system)

/-- `MergeTrainStructuralEntryBinding`. -/
structure MergeTrainStructuralEntryBinding where
  position : Nat
  pullRequestNumber : Nat
  headSha : String
  headTreeSha : String
  impactStatus : MergeTrainStructuralImpactStatus := .unknown
  affectedSubjects : List MergeTrainStructuralSubject := []
  deriving Repr, DecidableEq

/-- `MergeTrainStructuralEntryBinding._validate_binding`. -/
def MergeTrainStructuralEntryBinding.validate (entry : MergeTrainStructuralEntryBinding) :
    Except String MergeTrainStructuralEntryBinding := do
  raiseIf (entry.position = 0) "position must be greater than or equal to 1"
  raiseIf (entry.pullRequestNumber = 0) "pull_request_number must be greater than or equal to 1"
  let headSha ← requiredToken entry.headSha "head_sha"
  let headTreeSha ← requiredToken entry.headTreeSha "head_tree_sha"
  let affectedSubjects := sortedSubjects entry.affectedSubjects
  raiseIf (entry.impactStatus = .unknown ∧ affectedSubjects ≠ [])
    "Unknown structural impact cannot carry affected subjects"
  return { entry with headSha, headTreeSha, affectedSubjects }

/-- `MergeTrainRollingStepKind`. -/
inductive MergeTrainRollingStepKind
  | mergeCommit | noOpAlreadyContained
  deriving Repr, DecidableEq

/-- `MergeTrainRollingStep`. -/
structure MergeTrainRollingStep where
  position : Nat
  pullRequestNumber : Nat
  parentSha : String
  parentTreeSha : String
  headSha : String
  headTreeSha : String
  resultSha : String
  resultTreeSha : String
  kind : MergeTrainRollingStepKind
  deriving Repr, DecidableEq

/-- `MergeTrainRollingStep._validate_step`. -/
def MergeTrainRollingStep.validate (step : MergeTrainRollingStep) :
    Except String MergeTrainRollingStep := do
  raiseIf (step.position = 0) "position must be greater than or equal to 1"
  raiseIf (step.pullRequestNumber = 0) "pull_request_number must be greater than or equal to 1"
  let parentSha ← requiredToken step.parentSha "parent_sha"
  let parentTreeSha ← requiredToken step.parentTreeSha "parent_tree_sha"
  let headSha ← requiredToken step.headSha "head_sha"
  let headTreeSha ← requiredToken step.headTreeSha "head_tree_sha"
  let resultSha ← requiredToken step.resultSha "result_sha"
  let resultTreeSha ← requiredToken step.resultTreeSha "result_tree_sha"
  raiseIf (step.kind = .noOpAlreadyContained ∧
      (resultSha ≠ parentSha ∨ resultTreeSha ≠ parentTreeSha))
    "Already-contained rolling steps must preserve parent identity"
  raiseIf (step.kind ≠ .noOpAlreadyContained ∧ resultSha = parentSha)
    "Merge-commit rolling steps must advance the candidate SHA"
  return { step with parentSha, parentTreeSha, headSha, headTreeSha, resultSha, resultTreeSha }

/-- `MergeTrainStackCollapseRootProof`. -/
structure MergeTrainStackCollapseRootProof where
  collapseRecordId : String
  collapseId : String
  rootPullRequestNumber : Nat
  originalRootHeadSha : String
  collapsedRootHeadSha : String
  collapsedRootTreeSha : String := ""
  deriving Repr, DecidableEq

/-- `MergeTrainStackCollapseRootProof._validate_proof`. -/
def MergeTrainStackCollapseRootProof.validate (proof : MergeTrainStackCollapseRootProof) :
    Except String MergeTrainStackCollapseRootProof := do
  raiseIf (proof.rootPullRequestNumber = 0)
    "root_pull_request_number must be greater than or equal to 1"
  let collapseRecordId ← requiredToken proof.collapseRecordId "collapse_record_id"
  let collapseId ← requiredToken proof.collapseId "collapse_id"
  let originalRootHeadSha ← requiredToken proof.originalRootHeadSha "original_root_head_sha"
  let collapsedRootHeadSha ← requiredToken proof.collapsedRootHeadSha "collapsed_root_head_sha"
  return { proof with
    collapseRecordId, collapseId, originalRootHeadSha, collapsedRootHeadSha
    collapsedRootTreeSha := pyStrip proof.collapsedRootTreeSha }

/-- `MergeTrainStructuralProvenance`. -/
structure MergeTrainStructuralProvenance where
  repository : String
  baseBranch : String
  baseSha : String
  baseTreeSha : String
  policyKey : String
  policySha256 : String
  entries : List MergeTrainStructuralEntryBinding
  steps : List MergeTrainRollingStep
  candidateSha : String
  candidateTreeSha : String
  stackCollapseRoot : Option MergeTrainStackCollapseRootProof := none
  provenanceSha256 : String := ""
  candidateSha256 : String := ""
  deriving Repr, DecidableEq

namespace MergeTrainStructuralProvenance

/-- `provenance.complete`: every queued head has its step. -/
def complete (provenance : MergeTrainStructuralProvenance) : Bool :=
  provenance.steps.length == provenance.entries.length

end MergeTrainStructuralProvenance

/-- The digests of a provenance record: `merge_train_structural_provenance_sha256` of everything
but the digests, and `merge_train_structural_candidate_sha256` of that digest and everything but
the steps. -/
structure ProvenanceDigests where
  provenance : MergeTrainStructuralProvenance → String
  candidate : MergeTrainStructuralProvenance → String

/-- `merge_train_structural_provenance_sha256`. -/
def mergeTrainStructuralProvenanceSha256 (D : ProvenanceDigests)
    (provenance : MergeTrainStructuralProvenance) : String :=
  D.provenance { provenance with provenanceSha256 := "", candidateSha256 := "" }

/-- `merge_train_structural_candidate_sha256`. -/
def mergeTrainStructuralCandidateSha256 (D : ProvenanceDigests)
    (provenance : MergeTrainStructuralProvenance) : String :=
  D.candidate { provenance with
    steps := []
    provenanceSha256 := mergeTrainStructuralProvenanceSha256 D provenance
    candidateSha256 := "" }

/-- The loop of the validator over the entries and steps taken together: each step belongs to its
entry and starts where the previous one ended. It returns the end of the chain. -/
def rollingChainEnd : String → String → List MergeTrainStructuralEntryBinding →
    List MergeTrainRollingStep → Except String (String × String)
  | previousSha, previousTreeSha, entry :: entries, step :: steps =>
    if (step.position, step.pullRequestNumber, step.headSha, step.headTreeSha) ≠
        (entry.position, entry.pullRequestNumber, entry.headSha, entry.headTreeSha) then
      .error "Structural provenance step does not match its entry binding"
    else if step.parentSha ≠ previousSha ∨ step.parentTreeSha ≠ previousTreeSha then
      .error "Structural provenance rolling chain is broken"
    else rollingChainEnd step.resultSha step.resultTreeSha entries steps
  | previousSha, previousTreeSha, _, _ => .ok (previousSha, previousTreeSha)

/-- The stack root of a provenance, when it has one, is one of its entries. -/
def checkStackRoot (entries : List MergeTrainStructuralEntryBinding) :
    Option MergeTrainStackCollapseRootProof → Except String Unit
  | none => .ok ()
  | some stackRoot =>
    match entries.find? (·.pullRequestNumber = stackRoot.rootPullRequestNumber) with
    | none => .error "Structural provenance stack root does not match an entry"
    | some rootEntry => do
      raiseIf (rootEntry.headSha ≠ stackRoot.collapsedRootHeadSha)
        "Structural provenance stack root does not match an entry"
      raiseIf (stackRoot.collapsedRootTreeSha ≠ "" ∧
          rootEntry.headTreeSha ≠ stackRoot.collapsedRootTreeSha)
        "Structural provenance stack root tree does not match entry"

namespace MergeTrainStructuralProvenance

/-- `_validate_provenance` after the fields' own normalization. -/
def check (D : ProvenanceDigests) (provenance : MergeTrainStructuralProvenance) :
    Except String MergeTrainStructuralProvenance := do
  raiseIf (provenance.entries = [] ∨ provenance.steps = [])
    "Structural provenance requires entries and rolling steps"
  raiseIf (provenance.entries.map (·.position) ≠ List.range' 1 provenance.entries.length)
    "Structural provenance entry positions must be contiguous"
  raiseIf (provenance.steps.length > provenance.entries.length)
    "Structural provenance cannot contain more steps than entries"
  raiseIf (provenance.steps.map (·.position) ≠ List.range' 1 provenance.steps.length)
    "Structural provenance rolling positions must be contiguous"
  let chainEnd ← rollingChainEnd provenance.baseSha provenance.baseTreeSha provenance.entries
    provenance.steps
  raiseIf (chainEnd ≠ (provenance.candidateSha, provenance.candidateTreeSha))
    "Structural provenance terminal identity does not match candidate"
  checkStackRoot provenance.entries provenance.stackCollapseRoot
  let provenanceSha256 := mergeTrainStructuralProvenanceSha256 D provenance
  raiseIf (provenance.provenanceSha256 ≠ "" ∧
      pyLower (pyStrip provenance.provenanceSha256) ≠ provenanceSha256)
    "Structural provenance digest does not match payload"
  let candidateSha256 := mergeTrainStructuralCandidateSha256 D provenance
  raiseIf (provenance.candidateSha256 ≠ "" ∧
      pyLower (pyStrip provenance.candidateSha256) ≠ candidateSha256)
    "Structural candidate digest does not match payload"
  return { provenance with provenanceSha256, candidateSha256 }

/-- `MergeTrainStructuralProvenance._validate_provenance`. -/
def validate (D : ProvenanceDigests) (provenance : MergeTrainStructuralProvenance) :
    Except String MergeTrainStructuralProvenance := do
  let entries ← provenance.entries.mapM MergeTrainStructuralEntryBinding.validate
  let steps ← provenance.steps.mapM MergeTrainRollingStep.validate
  let stackCollapseRoot ← provenance.stackCollapseRoot.mapM MergeTrainStackCollapseRootProof.validate
  let repository ← normalizeOwnerName provenance.repository "repository must be non-empty"
    "repository must use owner/name"
  let baseBranch ← requiredToken provenance.baseBranch "base_branch"
  let baseSha ← requiredToken provenance.baseSha "base_sha"
  let baseTreeSha ← requiredToken provenance.baseTreeSha "base_tree_sha"
  let policyKey ← requiredToken provenance.policyKey "policy_key"
  let policySha256 ← requiredToken provenance.policySha256 "policy_sha256"
  let candidateSha ← requiredToken provenance.candidateSha "candidate_sha"
  let candidateTreeSha ← requiredToken provenance.candidateTreeSha "candidate_tree_sha"
  check D { provenance with
    entries, steps, stackCollapseRoot, repository, baseBranch, baseSha, baseTreeSha, policyKey
    policySha256, candidateSha, candidateTreeSha }

/-- A provenance record that was built, and so is rebuilt to itself. -/
def Valid (D : ProvenanceDigests) (provenance : MergeTrainStructuralProvenance) : Prop :=
  provenance.validate D = .ok provenance

instance (D : ProvenanceDigests) (provenance : MergeTrainStructuralProvenance) :
    Decidable (provenance.Valid D) :=
  inferInstanceAs (Decidable (provenance.validate D = .ok provenance))

end MergeTrainStructuralProvenance

/-! ### The recorded chain -/

/-- The commit and tree a step starts from. -/
def MergeTrainRollingStep.parent (step : MergeTrainRollingStep) : String × String :=
  (step.parentSha, step.parentTreeSha)

/-- The commit and tree a step ends at. -/
def MergeTrainRollingStep.result (step : MergeTrainRollingStep) : String × String :=
  (step.resultSha, step.resultTreeSha)

/-- The steps link up from a commit and tree, and each merges the head of its entry. -/
structure RollingSteps (base : String × String) (entries : List MergeTrainStructuralEntryBinding)
    (steps : List MergeTrainRollingStep) : Prop where
  linked : Linked MergeTrainRollingStep.parent MergeTrainRollingStep.result base steps
  heads : ∀ pair ∈ entries.zip steps,
    pair.2.headSha = pair.1.headSha ∧ pair.2.headTreeSha = pair.1.headTreeSha

theorem rollingSteps_of_chainEnd {entries : List MergeTrainStructuralEntryBinding} :
    ∀ {steps : List MergeTrainRollingStep} {sha tree : String} {last : String × String},
      steps.length ≤ entries.length → rollingChainEnd sha tree entries steps = .ok last →
        RollingSteps (sha, tree) entries steps := by
  induction entries with
  | nil =>
      intro steps sha tree last hlen _
      obtain rfl := List.length_eq_zero_iff.mp (Nat.le_zero.mp hlen)
      exact ⟨linked_nil _, by simp⟩
  | cons entry entries ih =>
      intro steps sha tree last hlen h
      cases steps with
      | nil => exact ⟨linked_nil _, by simp⟩
      | cons step steps =>
          rw [rollingChainEnd] at h
          split at h
          · cases h
          · rename_i hentry
            split at h
            · cases h
            · rename_i hparent
              simp only [ne_eq, Prod.mk.injEq, not_not] at hentry
              simp only [ne_eq, not_or, not_not] at hparent
              have hrest := ih (by simpa using hlen) h
              refine ⟨⟨Prod.ext hparent.1 hparent.2, hrest.linked⟩, ?_⟩
              intro pair hpair
              rw [List.zip_cons_cons, List.mem_cons] at hpair
              rcases hpair with rfl | hpair
              · exact ⟨hentry.2.2.1, hentry.2.2.2⟩
              · exact hrest.heads pair hpair

/-- What the final check guarantees of the record it returns. -/
theorem check_eq_ok {D : ProvenanceDigests} {provenance provenance' : MergeTrainStructuralProvenance}
    (h : provenance.check D = .ok provenance') :
    provenance'.baseSha = provenance.baseSha ∧ provenance'.baseTreeSha = provenance.baseTreeSha ∧
      provenance'.entries = provenance.entries ∧ provenance'.steps = provenance.steps ∧
      provenance.steps.length ≤ provenance.entries.length ∧
      RollingSteps (provenance.baseSha, provenance.baseTreeSha) provenance.entries
        provenance.steps := by
  unfold MergeTrainStructuralProvenance.check at h
  simp only [bind_eq_ok, raiseIf_eq_ok] at h
  obtain ⟨_, _, _, _, _, hlen, _, _, chainEnd, hchain, _, _, _, _, _, _, _, _, hret⟩ := h
  obtain rfl := Except.ok.inj hret
  exact ⟨rfl, rfl, rfl, rfl, not_lt.mp hlen, rollingSteps_of_chainEnd (not_lt.mp hlen) hchain⟩

/-- **A provenance record that was built records one unbroken chain from its base.** -/
theorem rollingSteps_of_valid {D : ProvenanceDigests} {provenance : MergeTrainStructuralProvenance}
    (h : provenance.Valid D) :
    provenance.steps.length ≤ provenance.entries.length ∧
      RollingSteps (provenance.baseSha, provenance.baseTreeSha) provenance.entries
        provenance.steps := by
  unfold MergeTrainStructuralProvenance.Valid MergeTrainStructuralProvenance.validate at h
  simp only [bind_eq_ok] at h
  obtain ⟨entries, _, steps, _, _, _, _, _, _, _, base, _, tree, _, _, _, _, _, _, _, _, _,
    hcheck⟩ := h
  obtain ⟨hbase, htree, hentries, hsteps, hlen, hchain⟩ := check_eq_ok hcheck
  simp only at hbase htree hentries hsteps hlen hchain
  rw [hbase, htree, hentries, hsteps]
  exact ⟨hlen, hchain⟩

end Launchplane.MergeTrain
