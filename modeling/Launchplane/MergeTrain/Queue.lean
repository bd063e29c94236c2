import Mathlib.Data.List.Sort
import Mathlib.Data.Prod.Lex
import Mathlib.Data.String.Basic
import Launchplane.MergeTrain.Policy

/-!
# Launchplane.MergeTrain.Queue

**Who is in the queue, and why not.** A snapshot is what the provider says about
the open pull requests of a repository. Every pull request that targets the base
becomes a queue entry, oldest first, which is eligible when nothing speaks
against it. A pull request with further pull requests stacked on its branch is
followed up the stack to see whether the train could collapse it.
-/

namespace Launchplane.MergeTrain

/-- Heads are known by a number and a commit. -/
instance lawfulBEqHead : LawfulBEq (Nat × String) := Prod.instLawfulBEq

/-! ### Snapshots -/

/-- `MergeTrainCheckStatus`. -/
inductive MergeTrainCheckStatus
  | pass | fail | pending | unknown
  deriving Repr, DecidableEq

/-- The text of a check status. -/
def MergeTrainCheckStatus.text : MergeTrainCheckStatus → String
  | pass => "pass"
  | fail => "fail"
  | pending => "pending"
  | unknown => "unknown"

/-- `MergeTrainMergeableState`. -/
inductive MergeTrainMergeableState
  | mergeable | conflicting | unknown
  deriving Repr, DecidableEq

/-- The text of a mergeable state. -/
def MergeTrainMergeableState.text : MergeTrainMergeableState → String
  | mergeable => "mergeable"
  | conflicting => "conflicting"
  | unknown => "unknown"

/-- `MergeTrainPullRequestState`. -/
inductive MergeTrainPullRequestState
  | opened | closed | merged
  deriving Repr, DecidableEq

/-- `DependencyUpdateClass`. -/
inductive DependencyUpdateClass
  | patchOrMinor | needsReview
  deriving Repr, DecidableEq

/-- `MergeTrainLabelActor`. -/
structure MergeTrainLabelActor where
  label : String
  actorId : Option Nat := none
  actorLogin : String := ""
  actorRole : String := "unknown"
  onBehalfViaApp : String := ""
  deriving Repr, DecidableEq

/-- The status of a `MergeTrainReadyHandoff`. -/
inductive ReadyHandoffStatus
  | ready | missing | waiting | stale | unreadable | edited
  deriving Repr, DecidableEq

/-- `MergeTrainReadyHandoff`. -/
structure MergeTrainReadyHandoff where
  status : ReadyHandoffStatus
  headSha : String := ""
  actorId : Option Nat := none
  actorRole : String := "unknown"
  commentId : Option Nat := none
  clientWait : Bool := false
  clientAccepted : Bool := false
  deriving Repr, DecidableEq

/-- `MergeTrainReviewConversations`. -/
structure MergeTrainReviewConversations where
  ruleRequired : Bool
  unresolvedCount : Nat
  codeScanningCount : Nat := 0
  deriving Repr, DecidableEq

/-- `MergeTrainPullRequestSnapshot`. -/
structure MergeTrainPullRequestSnapshot where
  number : Nat
  url : String := ""
  title : String := ""
  state : MergeTrainPullRequestState := .opened
  isDraft : Bool := false
  createdAt : String
  labels : List String := []
  labelActors : List MergeTrainLabelActor := []
  readyHandoff : Option MergeTrainReadyHandoff := none
  recoveryReadyCommentFloor : Nat := 0
  recoveryReadyUnavailable : Bool := false
  changedPaths : List String := []
  actorId : Option Nat := none
  actorRole : String := "unknown"
  headSha : String
  headRef : String := ""
  headRepository : String := ""
  baseSha : String := ""
  baseRef : String := ""
  baseRepository : String := ""
  mergeable : MergeTrainMergeableState := .unknown
  requiresIndividualLanding : Bool := false
  ownerReviewRequired : Bool := false
  clientTestNotesError : String := ""
  requiredChecksStatus : MergeTrainCheckStatus := .unknown
  requiredChecksObservationError : String := ""
  branchUpdateRequired : Bool := false
  dependencyUpdateClass : Option DependencyUpdateClass := none
  previewHold : String := ""
  reviewConversations : Option MergeTrainReviewConversations := none
  deriving Repr, DecidableEq

/-- `MergeTrainDryRunSnapshot`. -/
structure MergeTrainDryRunSnapshot where
  repository : String
  baseBranch : String
  baseSha : String := ""
  pullRequests : List MergeTrainPullRequestSnapshot
  deriving Repr, DecidableEq

/-- `MergeTrainQueueEntry`. -/
structure MergeTrainQueueEntry where
  number : Nat
  url : String := ""
  title : String := ""
  createdAt : String
  headSha : String
  labels : List String
  actorRole : String
  mergeable : MergeTrainMergeableState
  requiresIndividualLanding : Bool := false
  ownerReviewRequired : Bool := false
  clientTestNotesError : String := ""
  requiredChecksStatus : MergeTrainCheckStatus
  requiredChecksObservationError : String := ""
  branchUpdateRequired : Bool
  eligible : Bool
  ineligibleReasons : List String := []
  deferredReasons : List String := []
  deriving Repr, DecidableEq

/-- A pull request and the head it was planned with. -/
abbrev PlannedHead := Nat × String

/-! ### Reasons against an entry -/

/-- A reason that applies under a condition. -/
def reasonIf (condition : Prop) [Decidable condition] (reason : String) : List String :=
  if condition then [reason] else []

/-- `review_conversations_reason`. -/
def reviewConversationsReason (conversations : MergeTrainReviewConversations) : String :=
  toString conversations.unresolvedCount ++ " unresolved review " ++
    (if conversations.unresolvedCount = 1 then "conversation" else "conversations") ++ "; " ++
    (if conversations.ruleRequired then "the base branch requires conversation resolution"
      else "the base branch's conversation-resolution rule could not be read") ++
    (if conversations.codeScanningCount ≠ 0 then
      "; fix the code-scanning finding in the code instead of resolving its thread" else "")

def dependencyHeadConflicts : String := "dependency update current-head merge conflicts"

def dependencyHeadMergeabilityUnknown : String :=
  "dependency update current-head mergeability unknown"

def dependencyHeadChecksFailed : String := "dependency update current-head checks failed"

/-- `DEPENDENCY_HEAD_HOLD_REASONS`. -/
def dependencyHeadHoldReasons : List String :=
  [dependencyHeadConflicts, dependencyHeadMergeabilityUnknown, dependencyHeadChecksFailed,
    "current-head preview failed", "preview has not served the current head",
    "preview record could not be read"]

/-- `handoff_actor_allowed`. -/
def handoffActorAllowed (policy : MergeTrainRepositoryPolicy) (actorId : Option Nat)
    (actorRole : String) : Bool :=
  match actorId with
  | none => false
  | some actorId =>
    actorId ∈ policy.enqueue.trustedAutomationGithubUserIds ∨
      actorRole ∈ policy.enqueue.allowedActorRoles

/-- `ready_handoff_refusal`; the empty text is no refusal. -/
def readyHandoffRefusal (policy : MergeTrainRepositoryPolicy)
    (handoff : Option MergeTrainReadyHandoff) (headSha : String) : String :=
  match handoff with
  | none => "missing trusted current-head Ready handoff"
  | some handoff =>
    if handoff.status = .missing then "missing trusted current-head Ready handoff"
    else if handoff.status = .edited then
      "trusted comment was edited; post a fresh checked gh-pr.py ready handoff"
    else if handoff.status = .unreadable then "Ready handoff evidence is unreadable"
    else if handoff.status = .waiting ∧ handoff.clientAccepted = false then
      if handoff.clientWait = false then
        "latest trusted engineering handoff is waiting (not the checked Client wait); post a fresh checked gh-pr.py ready handoff when that wait clears"
      else if handoff.headSha = "" ∨ handoff.headSha ≠ headSha then
        "checked Client-wait handoff does not name the current head; post a fresh checked gh-pr.py ready handoff"
      else
        "checked Client-wait handoff is waiting for the Client's acceptance of the current head; Client acceptance in Launchplane clears it"
    else if handoff.status = .stale ∨ handoff.headSha ≠ headSha then
      "Ready handoff does not name exactly the current head; post a fresh checked gh-pr.py ready handoff"
    else if handoffActorAllowed policy handoff.actorId handoff.actorRole = false then
      "Ready handoff author is not allowed to enqueue"
    else ""

/-- `enqueue_label_refusal`; the empty text is no refusal. -/
def enqueueLabelRefusal (policy : MergeTrainRepositoryPolicy) (labels : List String)
    (labelActors : List MergeTrainLabelActor) : String :=
  let label := policy.enqueueLabel
  if label ∉ labels then "missing " ++ label ++ " label"
  else
    match labelActors.find? (·.label = label) with
    | none => label ++ " label ignored: could not read who applied it"
    | some labeler =>
      match labeler.actorId with
      | none => label ++ " label ignored: could not read who applied it"
      | some actorId =>
        if labeler.onBehalfViaApp ≠ "" then
          label ++ " label ignored: applied by the " ++ labeler.onBehalfViaApp ++
            " GitHub App acting as " ++ labeler.actorLogin ++ ", which is not allowed to enqueue"
        else if actorId ∈ policy.enqueue.trustedAutomationGithubUserIds then ""
        else if labeler.actorRole ∈ policy.enqueue.allowedActorRoles then ""
        else
          label ++ " label ignored: applied by " ++
            (if labeler.actorLogin ≠ "" then labeler.actorLogin
              else "user id " ++ toString actorId) ++
            " (" ++ labeler.actorRole ++ "), who is not allowed to enqueue"

/-- The keyword arguments of `_build_queue_entry`. -/
structure QueueEntryOptions where
  skipBlocked : Bool := false
  allowUnknownMergeability : Bool := false
  allowClosed : Bool := false
  deriving Repr, DecidableEq

section QueueEntry

variable (policy : MergeTrainRepositoryPolicy) (pullRequest : MergeTrainPullRequestSnapshot)
  (options : QueueEntryOptions)

/-- `is_trusted_automation`. -/
def isTrustedAutomation : Bool :=
  pullRequest.actorId.any (· ∈ policy.enqueue.trustedAutomationGithubUserIds)

/-- `is_dependency_update`. -/
def isDependencyUpdate : Bool := pullRequest.actorId.any (· ∈ policy.enqueue.dependencyUpdateBots)

/-- The role the entry is enqueued with. -/
def queueActorRole : String :=
  if isTrustedAutomation policy pullRequest then "trusted_automation" else pullRequest.actorRole

/-- `has_ready_handoff`. -/
def hasReadyHandoff : Bool :=
  readyHandoffRefusal policy pullRequest.readyHandoff pullRequest.headSha = ""

/-- Why the enqueue label does not admit the pull request. -/
def labelRefusal : String :=
  enqueueLabelRefusal policy pullRequest.labels pullRequest.labelActors

/-- Is the comment of the handoff no newer than the recovered hold? -/
def handoffBelowRecoveryFloor : Bool :=
  pullRequest.readyHandoff.any fun handoff =>
    handoff.commentId.getD 0 ≤ pullRequest.recoveryReadyCommentFloor

/-- The hold of an automatically admitted dependency head. -/
def dependencyHeadHold : List String :=
  reasonIf (options.skipBlocked ∧ pullRequest.state = .opened ∧ policy.enqueue.labelRequired ∧
      isDependencyUpdate policy pullRequest ∧
      pullRequest.dependencyUpdateClass = some .patchOrMinor ∧
      labelRefusal policy pullRequest ≠ "" ∧
      (pullRequest.requiredChecksStatus = .fail ∨ pullRequest.mergeable = .conflicting ∨
        (pullRequest.mergeable = .unknown ∧ options.allowUnknownMergeability = false)))
    (if pullRequest.clientTestNotesError ≠ "" then pullRequest.clientTestNotesError
      else if pullRequest.mergeable = .conflicting then dependencyHeadConflicts
      else if pullRequest.mergeable = .unknown then dependencyHeadMergeabilityUnknown
      else dependencyHeadChecksFailed)

/-- What a pull request without an admitting label must show instead. -/
def unlabelledReasons : List String :=
  if hasReadyHandoff policy pullRequest then
    -- a handoff admits only a proven source head
    reasonIf (pullRequest.requiredChecksStatus ≠ .pass)
        ("current-head required checks are " ++ pullRequest.requiredChecksStatus.text ++
          (if pullRequest.requiredChecksObservationError ≠ "" then
            "; " ++ pullRequest.requiredChecksObservationError else "")) ++
      reasonIf (pullRequest.mergeable ≠ .mergeable ∧
          ¬ (pullRequest.mergeable = .unknown ∧ options.allowUnknownMergeability))
        ("current-head mergeability is " ++ pullRequest.mergeable.text) ++
      reasonIf (pullRequest.clientTestNotesError ≠ "") pullRequest.clientTestNotesError
  else if isDependencyUpdate policy pullRequest = false then
    labelRefusal policy pullRequest ::
      reasonIf (pullRequest.readyHandoff ≠ none)
        (readyHandoffRefusal policy pullRequest.readyHandoff pullRequest.headSha)
  else
    reasonIf (pullRequest.dependencyUpdateClass ≠ some .patchOrMinor)
      "dependency update needs agent review"

/-- The reasons `_build_queue_entry` collects before it looks at the preview. -/
def admissionReasons : List String :=
  reasonIf (pullRequest.state ≠ .opened ∧ options.allowClosed = false) "pull request is not open" ++
  reasonIf (pullRequest.isDraft = true) "draft pull request" ++
  reasonIf ((options.skipBlocked ∨ pullRequest.readyHandoff ≠ none) ∧
      pullRequest.labels.any (pyLower · = pyLower policy.blockedLabel))
    ("held by " ++ policy.blockedLabel ++ " label") ++
  reasonIf (pullRequest.recoveryReadyUnavailable = true)
    "recovery Ready evidence is unavailable" ++
  reasonIf (pullRequest.recoveryReadyCommentFloor ≠ 0 ∧
      (hasReadyHandoff policy pullRequest = false ∨ handoffBelowRecoveryFloor pullRequest))
    "recovered hold requires a fresh checked Ready handoff" ++
  dependencyHeadHold policy pullRequest options ++
  (if policy.enqueue.labelRequired ∧ labelRefusal policy pullRequest ≠ "" then
    unlabelledReasons policy pullRequest options else [])

/-- The reasons of `_build_queue_entry`. -/
def ineligibleReasons : List String :=
  admissionReasons policy pullRequest options ++
  reasonIf (pullRequest.previewHold ≠ "" ∧ pullRequest.state = .opened ∧
      ¬ (admissionReasons policy pullRequest options).any (· ∈ dependencyHeadHoldReasons))
    pullRequest.previewHold ++
  reasonIf (isTrustedAutomation policy pullRequest = false ∧
      queueActorRole policy pullRequest ∉ policy.enqueue.allowedActorRoles ∧
      ¬ (queueActorRole policy pullRequest = "unknown" ∧
        hasReadyHandoff policy pullRequest = false ∧ policy.enqueue.labelRequired ∧
        policy.enqueueLabel ∉ pullRequest.labels ∧
        pullRequest.dependencyUpdateClass ≠ some .patchOrMinor))
    "actor role is not allowed to enqueue" ++
  (pullRequest.reviewConversations.map reviewConversationsReason).toList

/-- `_build_queue_entry`. -/
def buildQueueEntry : MergeTrainQueueEntry :=
  { number := pullRequest.number
    url := pullRequest.url
    title := pullRequest.title
    createdAt := pullRequest.createdAt
    headSha := pullRequest.headSha
    labels := pullRequest.labels
    actorRole := queueActorRole policy pullRequest
    mergeable := pullRequest.mergeable
    requiresIndividualLanding := pullRequest.requiresIndividualLanding
    ownerReviewRequired := pullRequest.ownerReviewRequired
    clientTestNotesError := pullRequest.clientTestNotesError
    requiredChecksStatus := pullRequest.requiredChecksStatus
    requiredChecksObservationError := pullRequest.requiredChecksObservationError
    branchUpdateRequired := pullRequest.branchUpdateRequired
    eligible := (ineligibleReasons policy pullRequest options).isEmpty
    ineligibleReasons := ineligibleReasons policy pullRequest options }

end QueueEntry

@[simp] theorem buildQueueEntry_number (policy : MergeTrainRepositoryPolicy)
    (pullRequest : MergeTrainPullRequestSnapshot) (options : QueueEntryOptions) :
    (buildQueueEntry policy pullRequest options).number = pullRequest.number := rfl

/-- Batch caps say nothing about a single entry. -/
@[simp] theorem buildQueueEntry_maxBatchSize (policy : MergeTrainRepositoryPolicy)
    (pullRequest : MergeTrainPullRequestSnapshot) (options : QueueEntryOptions)
    (cap : Option Nat) :
    buildQueueEntry { policy with maxBatchSize := cap } pullRequest options =
      buildQueueEntry policy pullRequest options := rfl

/-! ### The queue -/

/-- `_targets_merge_train_base`. -/
def targetsMergeTrainBase (baseBranch : String) (pullRequest : MergeTrainPullRequestSnapshot) :
    Bool :=
  pullRequest.baseRef = "" ∨ pullRequest.baseRef = baseBranch

/-- The queue order: oldest first, then by number. -/
def queuedBefore (a b : MergeTrainPullRequestSnapshot) : Prop :=
  toLex (a.createdAt, a.number) ≤ toLex (b.createdAt, b.number)

instance (a b : MergeTrainPullRequestSnapshot) : Decidable (queuedBefore a b) :=
  inferInstanceAs (Decidable (toLex (a.createdAt, a.number) ≤ toLex (b.createdAt, b.number)))

instance : IsTrans MergeTrainPullRequestSnapshot queuedBefore := ⟨fun _ _ _ => le_trans⟩

instance : Std.Total queuedBefore := ⟨fun a _ => le_total (toLex (a.createdAt, a.number)) _⟩

/-- Only pull requests with the same number can tie. -/
theorem number_of_queuedBefore {a b : MergeTrainPullRequestSnapshot} (hab : queuedBefore a b)
    (hba : queuedBefore b a) : a.number = b.number := by
  have heq : toLex (a.createdAt, a.number) = toLex (b.createdAt, b.number) := le_antisymm hab hba
  exact congrArg Prod.snd (toLex.injective heq)

/-- `build_merge_train_queue_entries`, once the policy is found. -/
def buildMergeTrainQueueEntries (policy : MergeTrainRepositoryPolicy)
    (snapshot : MergeTrainDryRunSnapshot) (batchLanding : Bool)
    (plannedDependencyHeads plannedHandoffHeads : List PlannedHead) : List MergeTrainQueueEntry :=
  ((snapshot.pullRequests.filter (targetsMergeTrainBase snapshot.baseBranch)).insertionSort
    queuedBefore).map fun pullRequest =>
      buildQueueEntry policy pullRequest
        { skipBlocked := batchLanding
          allowUnknownMergeability :=
            (pullRequest.number, pullRequest.headSha) ∈
              plannedDependencyHeads ++ plannedHandoffHeads }

/-! ### Stack discovery -/

/-- `MergeTrainStackDiscoveryStatus`. -/
inductive MergeTrainStackDiscoveryStatus
  | readyForCollapse | notStacked | unsupported
  deriving Repr, DecidableEq

/-- `MergeTrainStackEntry`. -/
structure MergeTrainStackEntry where
  number : Nat
  headSha : String
  headRef : String
  baseSha : String := ""
  baseRef : String
  deriving Repr, DecidableEq

/-- `MergeTrainStackDiscoveryResult`. -/
structure MergeTrainStackDiscoveryResult where
  status : MergeTrainStackDiscoveryStatus
  repository : String
  baseBranch : String
  rootPullRequestNumber : Nat
  stackOrder : List Nat := []
  entries : List MergeTrainStackEntry := []
  unsupportedReasons : List String := []
  deriving Repr, DecidableEq

/-- `_stack_entry`. -/
def stackEntry (pullRequest : MergeTrainPullRequestSnapshot) : MergeTrainStackEntry :=
  { number := pullRequest.number
    headSha := pullRequest.headSha
    headRef := pullRequest.headRef
    baseSha := pullRequest.baseSha
    baseRef := pullRequest.baseRef }

/-- `_stack_pull_request_reasons`. -/
def stackPullRequestReasons (snapshot : MergeTrainDryRunSnapshot)
    (pullRequest : MergeTrainPullRequestSnapshot) : List String :=
  let about (text : String) := "pull request #" ++ toString pullRequest.number ++ text
  reasonIf (pullRequest.state ≠ .opened) (about " is not open") ++
  reasonIf (pullRequest.headRef = "") (about " is missing head ref") ++
  reasonIf (pullRequest.baseRef = "") (about " is missing base ref") ++
  reasonIf (pullRequest.headRepository = "" ∨ pullRequest.baseRepository = "")
    (about " is missing repository identity") ++
  reasonIf (pyLower pullRequest.headRepository ≠ pyLower snapshot.repository)
    (about " is not from the train repository") ++
  reasonIf (pyLower pullRequest.baseRepository ≠ pyLower snapshot.repository)
    (about " does not target the train repository") ++
  reasonIf (pullRequest.headRef = pullRequest.baseRef) (about " has identical head and base refs")

/-- `merge_train_stack_child_readiness_reasons`. -/
def mergeTrainStackChildReadinessReasons (policy : MergeTrainRepositoryPolicy)
    (pullRequest : MergeTrainPullRequestSnapshot) (recoveredMerge : Bool) : List String :=
  (buildQueueEntry policy pullRequest
    { skipBlocked := true
      allowClosed := recoveredMerge
      allowUnknownMergeability := recoveredMerge }).ineligibleReasons.map fun reason =>
    "stacked pull request #" ++ toString pullRequest.number ++ " is not ready for the train: " ++
      reason

/-- The pull requests that are left when one was followed. -/
def withoutNumber (number : Nat) (pullRequests : List MergeTrainPullRequestSnapshot) :
    List MergeTrainPullRequestSnapshot :=
  pullRequests.filter (·.number ≠ number)

theorem length_withoutNumber_lt {pullRequest : MergeTrainPullRequestSnapshot}
    {pullRequests : List MergeTrainPullRequestSnapshot} (h : pullRequest ∈ pullRequests) :
    (withoutNumber pullRequest.number pullRequests).length < pullRequests.length := by
  exact List.length_filter_lt_length_iff_exists.mpr ⟨pullRequest, h, by simp⟩

/-- The loop of `discover_merge_train_stack` from a branch: the pull requests stacked on it, or why
the stack is not supported. A pull request is followed once, so the unseen ones run out. -/
def stackChain (policy : MergeTrainRepositoryPolicy) (snapshot : MergeTrainDryRunSnapshot)
    (currentHeadRef : String) (unseen : List MergeTrainPullRequestSnapshot) :
    Except (List String) (List MergeTrainPullRequestSnapshot) :=
  if currentHeadRef = "" then .ok []
  else
    match _hchildren : unseen.filter (fun child => child.baseRef = currentHeadRef) with
    | [] => .ok []
    | [child] =>
      let childReasons :=
        if stackPullRequestReasons snapshot child ≠ [] then stackPullRequestReasons snapshot child
        else mergeTrainStackChildReadinessReasons policy child false
      if childReasons ≠ [] then .error childReasons
      else
        (stackChain policy snapshot child.headRef (withoutNumber child.number unseen)).map (child :: ·)
    | _ :: _ :: _ =>
      .error ["branch " ++ currentHeadRef ++ " has multiple stacked child pull requests"]
termination_by unseen.length
decreasing_by
  exact length_withoutNumber_lt (List.mem_of_mem_filter (_hchildren ▸ List.mem_singleton_self child))

/-- `discover_merge_train_stack`, once the policy is found. -/
def discoverMergeTrainStack (policy : MergeTrainRepositoryPolicy)
    (snapshot : MergeTrainDryRunSnapshot) (rootPullRequestNumber : Nat) :
    MergeTrainStackDiscoveryResult :=
  let result : MergeTrainStackDiscoveryResult :=
    { status := .unsupported
      repository := snapshot.repository
      baseBranch := snapshot.baseBranch
      rootPullRequestNumber }
  match snapshot.pullRequests.reverse.find? (·.number = rootPullRequestNumber) with
  | none =>
    { result with unsupportedReasons := ["root pull request was not present in the snapshot"] }
  | some root =>
    let rootReasons := stackPullRequestReasons snapshot root ++
      reasonIf (root.baseRef ≠ snapshot.baseBranch) "root pull request does not target base branch"
    if rootReasons ≠ [] then { result with unsupportedReasons := rootReasons }
    else
      match stackChain policy snapshot root.headRef
          (withoutNumber root.number snapshot.pullRequests) with
      | .error reasons => { result with unsupportedReasons := reasons }
      | .ok children =>
        -- a member that lands alone lands first, with its children left on their own branches
        let chain :=
          if (root :: children).any (·.requiresIndividualLanding) then [root]
          else root :: children
        { result with
          status := if chain.length = 1 then .notStacked else .readyForCollapse
          stackOrder := chain.map (·.number)
          entries := chain.map stackEntry }

end Launchplane.MergeTrain
