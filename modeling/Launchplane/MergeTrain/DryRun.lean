import Launchplane.MergeTrain.Queue

/-!
# Launchplane.MergeTrain.DryRun

**Which pull requests make the next batch.** `buildMergeTrainDryRunResult` takes
the eligible queue, lets the heads that are not ready wait, and fills a batch up
to the first boundary: the size cap, a dependency update, an individual landing
or another area of the repository.

A candidate is planned once and rebuilt from its own members each time one of
them lands. Planning drops entries for what the *other* entries look like, so
rebuilding could in principle drop more. `buildMergeTrainDryRunResult_rebuild`
says that it does not.
-/

namespace Launchplane.MergeTrain

/-- `MergeTrainDryRunAction`. -/
inductive MergeTrainDryRunAction
  | idle | block | merge | updateBranch | waitForChecks
  deriving Repr, DecidableEq

/-- `MergeTrainDryRunResult`. -/
structure MergeTrainDryRunResult where
  repository : String
  baseBranch : String
  policyKey : String
  mergeMethod : MergeTrainMergeMethod
  failurePolicy : MergeTrainFailurePolicy
  enqueueLabel : String
  blockedLabel : String
  queueOrder : List Nat
  queue : List MergeTrainQueueEntry
  selectedPr : Option MergeTrainQueueEntry := none
  intendedNextAction : MergeTrainDryRunAction
  nextActionDetail : String
  deriving Repr, DecidableEq

/-- The keyword arguments of `build_merge_train_dry_run_result`. -/
structure DryRunOptions where
  batchLanding : Bool := false
  newCandidate : Bool := false
  existingCandidateSize : Option Nat := none
  plannedDependencyHeads : List PlannedHead := []
  plannedHandoffHeads : List PlannedHead := []
  deriving Repr, DecidableEq

/-- The options a new candidate is planned with. -/
def DryRunOptions.planning (plannedDependencyHeads plannedHandoffHeads : List PlannedHead) :
    DryRunOptions :=
  { batchLanding := true, newCandidate := true, plannedDependencyHeads, plannedHandoffHeads }

/-- The options a recorded candidate of the given size is rebuilt with. -/
def DryRunOptions.rebuilding (size : Nat)
    (plannedDependencyHeads plannedHandoffHeads : List PlannedHead) : DryRunOptions :=
  { batchLanding := true
    newCandidate := false
    existingCandidateSize := some size
    plannedDependencyHeads
    plannedHandoffHeads }

/-! ### Holding entries back -/

/-- The eligible entries of a queue. -/
def eligibleEntries (queue : List MergeTrainQueueEntry) : List MergeTrainQueueEntry :=
  queue.filter (·.eligible)

/-- A queue in which the eligible entries that meet a condition became ineligible. -/
def holdBack (condition : MergeTrainQueueEntry → Bool)
    (reasons : MergeTrainQueueEntry → List String) (queue : List MergeTrainQueueEntry) :
    List MergeTrainQueueEntry :=
  queue.map fun entry =>
    if entry.eligible && condition entry then
      { entry with
        eligible := false
        ineligibleReasons := entry.ineligibleReasons ++ reasons entry }
    else entry

/-- Holding back only removes entries from the eligible ones, and changes none that stays. -/
theorem eligibleEntries_holdBack (condition : MergeTrainQueueEntry → Bool)
    (reasons : MergeTrainQueueEntry → List String) (queue : List MergeTrainQueueEntry) :
    eligibleEntries (holdBack condition reasons queue) =
      (eligibleEntries queue).filter fun entry => !condition entry := by
  unfold eligibleEntries holdBack
  induction queue with
  | nil => rfl
  | cons entry rest ih =>
      rw [List.map_cons, List.filter_cons, List.filter_cons, ih]
      cases heligible : entry.eligible with
      | false => simp [heligible]
      | true => cases hcondition : condition entry <;> simp [heligible, hcondition]

section DryRun

variable (policy : MergeTrainRepositoryPolicy) (snapshot : MergeTrainDryRunSnapshot)
  (options : DryRunOptions)

/-- The pull requests with others stacked on their branch. -/
def stackedRoots : List Nat :=
  let childBases :=
    (snapshot.pullRequests.filter fun pr => pr.baseRef ≠ snapshot.baseBranch).map (·.baseRef)
  (snapshot.pullRequests.filter fun pr => pr.headRef ∈ childBases).map (·.number)

/-- Why `_defer_unsupported_stacks` defers an entry, if it does. -/
def stackRefusal (entry : MergeTrainQueueEntry) : Option (List String) :=
  if entry.eligible = false ∨ entry.number ∉ stackedRoots snapshot ∨
      entry.requiredChecksStatus = .fail ∨ entry.mergeable = .conflicting then
    none
  else
    let discovery := discoverMergeTrainStack policy snapshot entry.number
    if discovery.status = .unsupported then some discovery.unsupportedReasons else none

/-- `_defer_unsupported_stacks`: defer the roots of unsupported stacks, unless no other entry could
go ahead. The refusals are kept by number, the last entry of a number deciding. -/
def deferUnsupportedStacks (queue : List MergeTrainQueueEntry) : List MergeTrainQueueEntry :=
  let refusals := queue.filterMap fun entry =>
    (stackRefusal policy snapshot entry).map fun reasons => (entry.number, reasons)
  let refusal (entry : MergeTrainQueueEntry) := refusals.reverse.lookup entry.number
  if refusals = [] ∨
      queue.any (fun entry => entry.eligible && (refusal entry).isNone) = false then
    queue
  else
    queue.map fun entry =>
      match refusal entry with
      | none => entry
      | some reasons =>
        { entry with
          eligible := false
          ineligibleReasons := entry.ineligibleReasons ++ reasons
          deferredReasons := reasons }

/-- A Client head that is to be reviewed, or was planned, and is ready on its current head. -/
def startsClientBatch (entry : MergeTrainQueueEntry) : Bool :=
  (entry.ownerReviewRequired ||
      decide ((entry.number, entry.headSha) ∈ options.plannedDependencyHeads)) &&
    entry.requiredChecksStatus == .pass && entry.mergeable != .conflicting

/-- A Client head that needs review or repair. -/
def clientNotReady (entry : MergeTrainQueueEntry) : Bool :=
  entry.ownerReviewRequired &&
    (entry.requiredChecksStatus != .pass || entry.mergeable == .conflicting)

/-- Accepted features start a batch: Client heads that are not ready stay outside it. -/
def holdBackClientHeads (queue : List MergeTrainQueueEntry) : List MergeTrainQueueEntry :=
  if (eligibleEntries queue).any (startsClientBatch options) then
    holdBack clientNotReady (fun _ => ["Client feature is not ready on its current head"]) queue
  else queue

/-- An engineering head that is neither ready nor broken. -/
def engineeringNotSettled (entry : MergeTrainQueueEntry) : Bool :=
  !entry.ownerReviewRequired && entry.clientTestNotesError == "" &&
    entry.requiredChecksStatus != .fail && entry.mergeable != .conflicting &&
    (entry.requiredChecksStatus == .pending || entry.requiredChecksStatus == .unknown ||
      entry.mergeable == .unknown)

/-- Readiness chooses a new batch: engineering heads that have not settled wait when another head
is ready. -/
def holdBackEngineeringHeads (queue : List MergeTrainQueueEntry) : List MergeTrainQueueEntry :=
  if options.newCandidate && (eligibleEntries queue).any fun entry =>
      entry.requiredChecksStatus == .pass && entry.mergeable == .mergeable &&
        entry.clientTestNotesError == "" then
    holdBack engineeringNotSettled
      (fun entry => ["Engineering head " ++ entry.headSha ++ " deferred: checks " ++
        entry.requiredChecksStatus.text ++ ", mergeability " ++ entry.mergeable.text])
      queue
  else queue

/-! ### Filling a batch -/

/-- The first part of a path, or `.` for a file at the top. -/
def pathArea (path : String) : String :=
  if '/' ∈ path.toList then String.ofList (path.toList.takeWhile (· ≠ '/')) else "."

/-- `paths_by_number[number]`, of the pull requests that target the base. Every entry of the queue
is one of these. -/
def pathsByNumber (number : Nat) : List String :=
  (((snapshot.pullRequests.filter (targetsMergeTrainBase snapshot.baseBranch)).reverse.find?
    (·.number = number)).map (·.changedPaths)).getD []

/-- `dependency_numbers`. -/
def dependencyNumbers : List Nat :=
  (snapshot.pullRequests.filter fun pr =>
    pr.actorId.any (· ∈ policy.enqueue.dependencyIdentityIds)).map (·.number)

/-- The cap of this batch: recorded work keeps its size when the policy's cap changes. -/
def batchSize : Option Nat :=
  match policy.maxBatchSize, options.existingCandidateSize with
  | some cap, some size => some (max cap size)
  | cap, _ => cap

/-- What decides where a batch ends. -/
structure BatchBoundary where
  size : Option Nat
  isDependency : Nat → Bool
  areas : Nat → List String
  groupAreas : Bool

/-- The loop that fills a batch, given the members and their areas so far. It returns the members
and, when it stopped at a boundary, why. -/
def fillBatch (boundary : BatchBoundary) : List MergeTrainQueueEntry → List String →
    List MergeTrainQueueEntry → List MergeTrainQueueEntry × String
  | members, _, [] => (members, "")
  | members, batchAreas, entry :: rest =>
    let areas := boundary.areas entry.number
    if boundary.size = some members.length then
      (members, "waiting for the next candidate: maximum batch size reached")
    else if boundary.isDependency entry.number then
      (if members = [] then [entry] else members,
        "waiting for the next candidate: dependency update isolation")
    else if entry.requiresIndividualLanding then
      (if members = [] then [entry] else members,
        "waiting for the next candidate: individual landing boundary")
    else if boundary.groupAreas ∧ members ≠ [] ∧ batchAreas ≠ [] ∧ areas ≠ [] ∧
        batchAreas.any (· ∈ areas) = false then
      (members, "waiting for the next candidate: different changed-file area")
    else fillBatch boundary (members ++ [entry]) (batchAreas ++ areas) rest

/-- The boundary of this batch. -/
def batchBoundary (eligible : List MergeTrainQueueEntry) : BatchBoundary :=
  { size := batchSize policy options
    isDependency := fun number => number ∈ dependencyNumbers policy snapshot
    areas := fun number => (pathsByNumber snapshot number).map pathArea
    groupAreas := options.newCandidate && !eligible.any (·.ownerReviewRequired) }

/-- `_next_action_for_selected_pr`. -/
def nextActionForSelectedPr (selectedPr : Option MergeTrainQueueEntry) (skipBranchUpdate : Bool) :
    MergeTrainDryRunAction × String :=
  match selectedPr with
  | none => (.idle, "No eligible pull requests are queued.")
  | some selected =>
    let number := "#" ++ toString selected.number
    let diagnostic :=
      if selected.requiredChecksObservationError ≠ "" then
        " Check evidence: " ++ selected.requiredChecksObservationError ++ "."
      else ""
    if selected.clientTestNotesError ≠ "" then
      (.block, "Pull request " ++ number ++ ": " ++ selected.clientTestNotesError)
    else if selected.mergeable = .conflicting then
      (.block, "Add " ++ policy.blockedLabel ++ "; pull request has merge conflicts.")
    else if selected.requiredChecksStatus = .fail then
      if selected.ownerReviewRequired then
        (.block, "Current-head review or required checks failed on pull request " ++ number ++ "." ++
          diagnostic)
      else (.block, "Add " ++ policy.blockedLabel ++ "; required checks failed." ++ diagnostic)
    else if selected.branchUpdateRequired ∧ skipBranchUpdate = false then
      (.updateBranch, "Refresh the pull request against the current base branch.")
    else if selected.ownerReviewRequired ∧ selected.requiredChecksStatus ≠ .pass then
      (.waitForChecks, "Wait for current-head Client review and required checks on pull request " ++
        number ++ "." ++ diagnostic)
    else if selected.mergeable = .unknown ∨ selected.requiredChecksStatus = .pending ∨
        selected.requiredChecksStatus = .unknown then
      (.waitForChecks, "Wait for mergeability and required checks on the head SHA." ++ diagnostic)
    else
      (.merge, "Merge with " ++ policy.mergeMethod.text ++ " after confirming current head checks.")

/-- The queue after stacks and heads that must wait were held back. -/
def heldBackQueue (queue : List MergeTrainQueueEntry) : List MergeTrainQueueEntry :=
  if options.batchLanding then
    holdBackEngineeringHeads options (holdBackClientHeads options
      (if options.newCandidate then deferUnsupportedStacks policy snapshot queue else queue))
  else queue

/-- The batch that is landed together, and why it ends where it does. Without batch landing every
eligible entry is its own batch, so all of them are listed. -/
def selectBatch (eligible : List MergeTrainQueueEntry) : List MergeTrainQueueEntry × String :=
  if options.batchLanding then fillBatch (batchBoundary policy snapshot options eligible) [] [] eligible
  else (eligible, "")

/-- The queue with the eligible entries outside a new candidate marked as deferred. -/
def markDeferred (batch : List MergeTrainQueueEntry × String) (queue : List MergeTrainQueueEntry) :
    List MergeTrainQueueEntry :=
  if options.batchLanding && options.newCandidate then
    queue.map fun entry =>
      if entry.eligible ∧ entry.number ∉ batch.1.map (·.number) then
        { entry with deferredReasons := [batch.2] }
      else entry
  else queue

/-- The selected pull request and what to do with it. -/
def selectAction (batch : List MergeTrainQueueEntry) :
    Option MergeTrainQueueEntry × MergeTrainDryRunAction × String :=
  let action := nextActionForSelectedPr policy batch.head?
    (options.batchLanding && policy.mergeMethod == .merge && !batch.isEmpty &&
      !batch.any (·.requiresIndividualLanding))
  -- a batch is merged only when every Client member is ready, not just the oldest entry
  let waitingReview :=
    if options.batchLanding ∧ action.1 = .merge then
      batch.find? fun entry => entry.clientTestNotesError ≠ "" ∨
        (entry.ownerReviewRequired ∧ entry.requiredChecksStatus ≠ .pass)
    else none
  match waitingReview with
  | some waiting => (some waiting, nextActionForSelectedPr policy (some waiting) true)
  | none => (batch.head?, action)

end DryRun

/-- `build_merge_train_dry_run_result`. -/
def buildMergeTrainDryRunResult (policy : MergeTrainPolicy) (snapshot : MergeTrainDryRunSnapshot)
    (options : DryRunOptions) : Except String MergeTrainDryRunResult := do
  let repositoryPolicy ← policy.findRepositoryPolicy snapshot.repository snapshot.baseBranch
  let queue := heldBackQueue repositoryPolicy snapshot options
    (buildMergeTrainQueueEntries repositoryPolicy snapshot options.batchLanding
      options.plannedDependencyHeads options.plannedHandoffHeads)
  let batch := selectBatch repositoryPolicy snapshot options (eligibleEntries queue)
  let action := selectAction repositoryPolicy options batch.1
  return {
    repository := snapshot.repository
    baseBranch := snapshot.baseBranch
    policyKey := repositoryPolicy.policyKey
    mergeMethod := repositoryPolicy.mergeMethod
    failurePolicy := repositoryPolicy.failurePolicy
    enqueueLabel := repositoryPolicy.enqueueLabel
    blockedLabel := repositoryPolicy.blockedLabel
    queueOrder := batch.1.map (·.number)
    queue := markDeferred options batch queue
    selectedPr := action.1
    intendedNextAction := action.2.1
    nextActionDetail := action.2.2 }

/-- `merge_train_snapshot_of`. -/
def mergeTrainSnapshotOf (snapshot : MergeTrainDryRunSnapshot) (pullRequestNumbers : List Nat) :
    MergeTrainDryRunSnapshot :=
  { snapshot with
    pullRequests := snapshot.pullRequests.filter (·.number ∈ pullRequestNumbers) }

/-! ### What holding back leaves -/

theorem eligibleEntries_deferUnsupportedStacks (policy : MergeTrainRepositoryPolicy)
    (snapshot : MergeTrainDryRunSnapshot) (queue : List MergeTrainQueueEntry) :
    (eligibleEntries (deferUnsupportedStacks policy snapshot queue)).Sublist
      (eligibleEntries queue) := by
  unfold deferUnsupportedStacks
  dsimp only
  split
  · exact List.Sublist.refl _
  · generalize (queue.filterMap _).reverse = refusals
    clear * -
    -- every entry is kept as it is, or comes out ineligible
    induction queue with
    | nil => exact List.Sublist.refl _
    | cons entry rest ih =>
        unfold eligibleEntries at ih ⊢
        rw [List.map_cons, List.filter_cons, List.filter_cons]
        cases refusals.lookup entry.number with
        | none =>
            cases heligible : entry.eligible with
            | false => simpa [heligible] using ih
            | true => simpa [heligible] using ih
        | some reasons =>
            cases heligible : entry.eligible with
            | false => simpa [heligible] using ih
            | true => simpa [heligible] using ih.cons entry

theorem eligibleEntries_holdBackEngineeringHeads (options : DryRunOptions)
    (queue : List MergeTrainQueueEntry) :
    (eligibleEntries (holdBackEngineeringHeads options queue)).Sublist (eligibleEntries queue) := by
  unfold holdBackEngineeringHeads
  split
  · rw [eligibleEntries_holdBack]
    exact List.filter_sublist
  · exact List.Sublist.refl _

theorem eligibleEntries_holdBackClientHeads (options : DryRunOptions)
    (queue : List MergeTrainQueueEntry) :
    (eligibleEntries (holdBackClientHeads options queue)).Sublist (eligibleEntries queue) := by
  unfold holdBackClientHeads
  split
  · rw [eligibleEntries_holdBack]
    exact List.filter_sublist
  · exact List.Sublist.refl _

/-- A list of entries that the Client filter leaves alone: either nothing in it starts a Client
batch, or every Client head in it is ready. -/
def ClientSettled (options : DryRunOptions) (entries : List MergeTrainQueueEntry) : Prop :=
  entries.any (startsClientBatch options) = true → ∀ entry ∈ entries, clientNotReady entry = false

theorem ClientSettled.subset {options : DryRunOptions} {entries entries' : List MergeTrainQueueEntry}
    (h : ClientSettled options entries) (hsub : entries' ⊆ entries) :
    ClientSettled options entries' := by
  intro hany entry hentry
  obtain ⟨start, hstart, hstarts⟩ := List.any_eq_true.mp hany
  exact h (List.any_eq_true.mpr ⟨start, hsub hstart, hstarts⟩) entry (hsub hentry)

/-- The Client filter leaves a queue that it would leave alone. -/
theorem clientSettled_holdBackClientHeads (options : DryRunOptions)
    (queue : List MergeTrainQueueEntry) :
    ClientSettled options (eligibleEntries (holdBackClientHeads options queue)) := by
  unfold holdBackClientHeads
  split
  · intro _ entry hentry
    rw [eligibleEntries_holdBack, List.mem_filter] at hentry
    simpa using hentry.2
  · rename_i hnone
    intro hany
    exact absurd hany hnone

theorem eligibleEntries_holdBackClientHeads_of_settled {options : DryRunOptions}
    {queue : List MergeTrainQueueEntry} (h : ClientSettled options (eligibleEntries queue)) :
    eligibleEntries (holdBackClientHeads options queue) = eligibleEntries queue := by
  unfold holdBackClientHeads
  split
  · rename_i hany
    rw [eligibleEntries_holdBack, List.filter_eq_self]
    intro entry hentry
    simp [h hany entry hentry]
  · rfl

theorem eligibleEntries_heldBackQueue (policy : MergeTrainRepositoryPolicy)
    (snapshot : MergeTrainDryRunSnapshot) {options : DryRunOptions}
    (hbatch : options.batchLanding = true) (queue : List MergeTrainQueueEntry) :
    (eligibleEntries (heldBackQueue policy snapshot options queue)).Sublist (eligibleEntries queue) ∧
      ClientSettled options (eligibleEntries (heldBackQueue policy snapshot options queue)) := by
  unfold heldBackQueue
  rw [if_pos hbatch]
  have hengineering := eligibleEntries_holdBackEngineeringHeads options
    (holdBackClientHeads options
      (if options.newCandidate then deferUnsupportedStacks policy snapshot queue else queue))
  refine ⟨?_, (clientSettled_holdBackClientHeads options _).subset hengineering.subset⟩
  refine hengineering.trans ((eligibleEntries_holdBackClientHeads options _).trans ?_)
  split
  · exact eligibleEntries_deferUnsupportedStacks policy snapshot queue
  · exact List.Sublist.refl _

/-! ### What a batch looks like -/

/-- An entry that shares a batch with no other. -/
def BatchBoundary.Isolated (boundary : BatchBoundary) (entry : MergeTrainQueueEntry) : Prop :=
  boundary.isDependency entry.number = true ∨ entry.requiresIndividualLanding = true

/-- The shape of a batch: one entry, or entries that may share a batch. -/
def BatchBoundary.Shape (boundary : BatchBoundary) (batch : List MergeTrainQueueEntry) : Prop :=
  (∀ entry ∈ batch, ¬ boundary.Isolated entry) ∨ batch.length ≤ 1

/-- A batch is a first part of the eligible entries and has the shape of one. -/
theorem fillBatch_spec {boundary : BatchBoundary} {entries : List MergeTrainQueueEntry} :
    ∀ {members : List MergeTrainQueueEntry} {areas : List String},
      (∀ entry ∈ members, ¬ boundary.Isolated entry) →
        (∃ taken, (fillBatch boundary members areas entries).1 = members ++ taken ∧
          taken.Sublist entries) ∧
        boundary.Shape (fillBatch boundary members areas entries).1 := by
  induction entries with
  | nil =>
      intro members areas hmembers
      exact ⟨⟨[], by simp [fillBatch], List.Sublist.refl _⟩, .inl hmembers⟩
  | cons entry rest ih =>
      intro members areas hmembers
      have hstop : (∃ taken, members = members ++ taken ∧ taken.Sublist (entry :: rest)) ∧
          boundary.Shape members := ⟨⟨[], by simp, List.nil_sublist _⟩, .inl hmembers⟩
      -- an isolated entry is taken only into an empty batch
      have halone : (∃ taken, (if members = [] then [entry] else members) = members ++ taken ∧
          taken.Sublist (entry :: rest)) ∧
          boundary.Shape (if members = [] then [entry] else members) := by
        by_cases hempty : members = []
        · rw [if_pos hempty]
          exact ⟨⟨[entry], by simp [hempty], by simp⟩, .inr (by simp)⟩
        · rw [if_neg hempty]
          exact hstop
      rw [fillBatch]
      split
      · exact hstop
      · split
        · exact halone
        · rename_i hdependency
          split
          · exact halone
          · rename_i hindividual
            split
            · exact hstop
            · have hmembers' : ∀ other ∈ members ++ [entry], ¬ boundary.Isolated other := by
                intro other hother
                rcases List.mem_append.mp hother with hother | hother
                · exact hmembers other hother
                · rw [List.mem_singleton.mp hother]
                  exact not_or.mpr ⟨hdependency, hindividual⟩
              obtain ⟨⟨taken, htaken, hsub⟩, hshape⟩ := ih hmembers'
              exact ⟨⟨entry :: taken, by rw [htaken]; simp, hsub.cons_cons entry⟩, hshape⟩

/-- Without areas, and with room for all, a list in the shape of a batch is taken whole. -/
theorem fillBatch_whole {boundary : BatchBoundary} (hareas : boundary.groupAreas = false)
    {entries : List MergeTrainQueueEntry} :
    ∀ {members : List MergeTrainQueueEntry} {areas : List String},
      (∀ size ∈ boundary.size, members.length + entries.length ≤ size) →
      (∀ entry ∈ entries, ¬ boundary.Isolated entry) →
        (fillBatch boundary members areas entries).1 = members ++ entries := by
  induction entries with
  | nil =>
      intro members areas _ _
      simp [fillBatch]
  | cons entry rest ih =>
      intro members areas hsize hshape
      have hroom : boundary.size ≠ some members.length := by
        intro hfull
        have := hsize _ hfull
        simp at this
      obtain ⟨hdependency, hindividual⟩ := not_or.mp (hshape entry List.mem_cons_self)
      rw [fillBatch]
      rw [if_neg hroom, if_neg hdependency, if_neg hindividual, if_neg (by simp [hareas]), ih]
      · simp
      · intro size hmem
        have := hsize size hmem
        simp only [List.length_append, List.length_cons, List.length_nil] at this ⊢
        omega
      · intro other hother
        exact hshape other (List.mem_cons_of_mem _ hother)

/-- A list in the shape of a batch is refilled to itself. -/
theorem fillBatch_shape {boundary : BatchBoundary} (hareas : boundary.groupAreas = false)
    {entries : List MergeTrainQueueEntry} (hsize : ∀ size ∈ boundary.size, entries.length ≤ size)
    (hshape : boundary.Shape entries) : (fillBatch boundary [] [] entries).1 = entries := by
  rcases hshape with hshape | hshort
  · simpa using @fillBatch_whole boundary hareas entries [] [] (by simpa using hsize) hshape
  · match entries, hshort with
    | [], _ => rfl
    | [entry], _ =>
        have hroom : boundary.size ≠ some 0 := by
          intro hfull
          exact absurd (hsize 0 hfull) (by simp)
        rw [fillBatch]
        dsimp only [List.length_nil]
        rw [if_neg hroom]
        split
        · rfl
        · split
          · rfl
          · rw [if_neg (by simp [hareas])]
            rfl

/-! ### Rebuilding a batch from its own members -/

/-- Picking elements by key from a list, or from a part of it that has all these keys, is the same
when keys are distinct. -/
theorem filter_key_of_sublist {α : Type} {key : α → Nat} {keys : List Nat} {part whole : List α}
    (hsub : part.Sublist whole) (hdistinct : (whole.map key).Nodup)
    (hkeys : ∀ k ∈ keys, k ∈ part.map key) :
    whole.filter (key · ∈ keys) = part.filter (key · ∈ keys) := by
  have hsubset : whole.filter (key · ∈ keys) ⊆ part.filter (key · ∈ keys) := by
    intro a ha
    obtain ⟨hwhole, hkey⟩ := List.mem_filter.mp ha
    obtain ⟨b, hb, hsame⟩ := List.mem_map.mp (hkeys _ (by simpa using hkey))
    obtain rfl := List.inj_on_of_nodup_map hdistinct (hsub.subset hb) hwhole hsame
    exact List.mem_filter.mpr ⟨hb, hkey⟩
  have hnodup : (whole.filter (key · ∈ keys)).Nodup := (List.Nodup.of_map key hdistinct).filter _
  exact ((hsub.filter _).eq_of_length_le
    (List.subperm_of_subset hnodup hsubset).length_le).symm

/-- Sorting and picking commute, since distinct pull requests never tie. -/
theorem insertionSort_filter {pullRequests : List MergeTrainPullRequestSnapshot}
    (hdistinct : (pullRequests.map (·.number)).Nodup) (p : MergeTrainPullRequestSnapshot → Bool) :
    (pullRequests.filter p).insertionSort queuedBefore =
      (pullRequests.insertionSort queuedBefore).filter p := by
  have hpairwise := List.pairwise_insertionSort queuedBefore
  refine List.Perm.eq_of_pairwise ?_ (hpairwise _) ((hpairwise _).filter p) ?_
  · intro a b ha hb hab hba
    have hmem {c : MergeTrainPullRequestSnapshot} (hc : c ∈ pullRequests.filter p) :
        c ∈ pullRequests := List.mem_of_mem_filter hc
    have ha' : a ∈ pullRequests := hmem ((List.perm_insertionSort _ _).mem_iff.mp ha)
    have hb' : b ∈ pullRequests :=
      (List.perm_insertionSort _ _).mem_iff.mp (List.mem_of_mem_filter hb)
    exact List.inj_on_of_nodup_map hdistinct ha' hb' (number_of_queuedBefore hab hba)
  · exact (List.perm_insertionSort _ _).trans ((List.perm_insertionSort _ _).symm.filter p)

/-- The queue of a part of the snapshot is that part of the queue. -/
theorem buildMergeTrainQueueEntries_snapshotOf {policy : MergeTrainRepositoryPolicy}
    {snapshot : MergeTrainDryRunSnapshot} {members : List Nat} {batchLanding : Bool}
    {dependencyHeads handoffHeads : List PlannedHead}
    (hdistinct : (snapshot.pullRequests.map (·.number)).Nodup) :
    buildMergeTrainQueueEntries policy (mergeTrainSnapshotOf snapshot members) batchLanding
        dependencyHeads handoffHeads =
      (buildMergeTrainQueueEntries policy snapshot batchLanding dependencyHeads
        handoffHeads).filter (·.number ∈ members) := by
  have hbase : ((snapshot.pullRequests.filter
      (targetsMergeTrainBase snapshot.baseBranch)).map (·.number)).Nodup :=
    hdistinct.sublist (List.filter_sublist.map _)
  unfold buildMergeTrainQueueEntries mergeTrainSnapshotOf
  dsimp only
  rw [List.filter_map, List.filter_comm, insertionSort_filter hbase]
  rfl

theorem queueEntries_nodup {policy : MergeTrainRepositoryPolicy}
    {snapshot : MergeTrainDryRunSnapshot} {batchLanding : Bool}
    {dependencyHeads handoffHeads : List PlannedHead}
    (hdistinct : (snapshot.pullRequests.map (·.number)).Nodup) :
    ((buildMergeTrainQueueEntries policy snapshot batchLanding dependencyHeads
      handoffHeads).map (·.number)).Nodup := by
  unfold buildMergeTrainQueueEntries
  rw [List.map_map]
  have hsorted : (((snapshot.pullRequests.filter
      (targetsMergeTrainBase snapshot.baseBranch)).insertionSort queuedBefore).map
      (·.number)).Nodup :=
    ((List.perm_insertionSort _ _).map _).nodup_iff.mpr
      (hdistinct.sublist (List.filter_sublist.map _))
  exact hsorted

/-- The eligible queue a batch landing fills its batch from. -/
def batchCandidates (policy : MergeTrainRepositoryPolicy) (snapshot : MergeTrainDryRunSnapshot)
    (options : DryRunOptions) : List MergeTrainQueueEntry :=
  eligibleEntries (heldBackQueue policy snapshot options
    (buildMergeTrainQueueEntries policy snapshot true options.plannedDependencyHeads
      options.plannedHandoffHeads))

/-- The batch of a batch landing. -/
def landingBatch (policy : MergeTrainRepositoryPolicy) (snapshot : MergeTrainDryRunSnapshot)
    (options : DryRunOptions) : List MergeTrainQueueEntry :=
  (fillBatch (batchBoundary policy snapshot options (batchCandidates policy snapshot options)) [] []
    (batchCandidates policy snapshot options)).1

/-- The queue order of a batch landing is its batch. -/
theorem queueOrder_eq_landingBatch {policy : MergeTrainPolicy}
    {repositoryPolicy : MergeTrainRepositoryPolicy} {snapshot : MergeTrainDryRunSnapshot}
    (options : DryRunOptions) (hbatch : options.batchLanding = true)
    (hpolicy : policy.findRepositoryPolicy snapshot.repository snapshot.baseBranch =
      .ok repositoryPolicy) :
    ∃ result, buildMergeTrainDryRunResult policy snapshot options = .ok result ∧
      result.queueOrder = (landingBatch repositoryPolicy snapshot options).map (·.number) := by
  unfold buildMergeTrainDryRunResult
  rw [hpolicy]
  refine ⟨_, rfl, ?_⟩
  dsimp only
  rw [selectBatch, if_pos hbatch, hbatch]
  rfl

/-- What is known of a batch: it comes from the eligible queue in order, has the shape of a batch,
and its Client heads are settled. -/
theorem landingBatch_spec (policy : MergeTrainRepositoryPolicy)
    (snapshot : MergeTrainDryRunSnapshot) (options : DryRunOptions)
    (hbatch : options.batchLanding = true) :
    (landingBatch policy snapshot options).Sublist (eligibleEntries
        (buildMergeTrainQueueEntries policy snapshot true options.plannedDependencyHeads
          options.plannedHandoffHeads)) ∧
      ClientSettled options (landingBatch policy snapshot options) ∧
      (batchBoundary policy snapshot options (batchCandidates policy snapshot options)).Shape
        (landingBatch policy snapshot options) := by
  obtain ⟨hheld, hsettled⟩ := eligibleEntries_heldBackQueue policy snapshot hbatch
    (buildMergeTrainQueueEntries policy snapshot true options.plannedDependencyHeads
      options.plannedHandoffHeads)
  obtain ⟨⟨taken, htaken, hsub⟩, hshape⟩ :=
    @fillBatch_spec (batchBoundary policy snapshot options (batchCandidates policy snapshot options))
      (batchCandidates policy snapshot options) [] [] (by simp)
  rw [List.nil_append] at htaken
  have hpart : (landingBatch policy snapshot options).Sublist
      (batchCandidates policy snapshot options) := by
    rw [landingBatch, htaken]
    exact hsub
  exact ⟨hpart.trans hheld, hsettled.subset hpart.subset, hshape⟩

/-- The members of a batch that are left make a batch by themselves. -/
theorem shape_filter {policy : MergeTrainRepositoryPolicy} {cap : Option Nat}
    {snapshot : MergeTrainDryRunSnapshot} {options options' : DryRunOptions}
    {eligible eligible' batch : List MergeTrainQueueEntry} {members : List Nat}
    (h : (batchBoundary policy snapshot options eligible).Shape batch) :
    (batchBoundary { policy with maxBatchSize := cap } (mergeTrainSnapshotOf snapshot members)
      options' eligible').Shape (batch.filter (·.number ∈ members)) := by
  rcases h with hshape | hshort
  · left
    intro entry hentry hisolated
    refine hshape entry (List.mem_of_mem_filter hentry) ?_
    rcases hisolated with hdependency | hindividual
    · left
      have hnumbers : entry.number ∈ dependencyNumbers { policy with maxBatchSize := cap }
          (mergeTrainSnapshotOf snapshot members) := of_decide_eq_true hdependency
      obtain ⟨pr, hpr, hnumber⟩ := List.mem_map.mp hnumbers
      obtain ⟨hkept, hidentity⟩ := List.mem_filter.mp hpr
      refine decide_eq_true (List.mem_map.mpr ⟨pr, ?_, hnumber⟩)
      exact List.mem_filter.mpr ⟨List.mem_of_mem_filter hkept, hidentity⟩
    · exact .inr hindividual
  · right
    exact (List.length_filter_le _ _).trans hshort

/-- What a batch is rebuilt from, when some of its members are left: exactly these members. -/
theorem batchCandidates_rebuild {policy : MergeTrainRepositoryPolicy} {cap : Option Nat}
    {snapshot : MergeTrainDryRunSnapshot} {options options' : DryRunOptions}
    (hdistinct : (snapshot.pullRequests.map (·.number)).Nodup)
    (hbatch : options.batchLanding = true) (hbatch' : options'.batchLanding = true)
    (hnew : options'.newCandidate = false)
    (hdependency : options'.plannedDependencyHeads = options.plannedDependencyHeads)
    (hhandoff : options'.plannedHandoffHeads = options.plannedHandoffHeads) {members : List Nat}
    (hmembers : ∀ number ∈ members, number ∈ (landingBatch policy snapshot options).map (·.number)) :
    batchCandidates { policy with maxBatchSize := cap } (mergeTrainSnapshotOf snapshot members)
        options' =
      (landingBatch policy snapshot options).filter (·.number ∈ members) := by
  obtain ⟨hsub, hsettled, _⟩ := landingBatch_spec policy snapshot options hbatch
  have hqueue : buildMergeTrainQueueEntries { policy with maxBatchSize := cap }
      (mergeTrainSnapshotOf snapshot members) true options'.plannedDependencyHeads
      options'.plannedHandoffHeads =
      (landingBatch policy snapshot options).filter (·.number ∈ members) := by
    rw [buildMergeTrainQueueEntries_snapshotOf hdistinct, hdependency, hhandoff]
    exact filter_key_of_sublist (hsub.trans List.filter_sublist) (queueEntries_nodup hdistinct)
      hmembers
  have heligible : eligibleEntries ((landingBatch policy snapshot options).filter
      (·.number ∈ members)) = (landingBatch policy snapshot options).filter (·.number ∈ members) := by
    rw [eligibleEntries, List.filter_eq_self]
    intro entry hentry
    exact (List.mem_filter.mp (hsub.subset (List.mem_of_mem_filter hentry))).2
  have hsettled' : ClientSettled options' ((landingBatch policy snapshot options).filter
      (·.number ∈ members)) := by
    have hstarts : startsClientBatch options' = startsClientBatch options := by
      funext entry
      rw [startsClientBatch, startsClientBatch, hdependency]
    unfold ClientSettled
    rw [hstarts]
    exact hsettled.subset List.filter_sublist.subset
  rw [batchCandidates, hqueue, heldBackQueue, if_pos hbatch', hnew, if_neg Bool.false_ne_true,
    holdBackEngineeringHeads, hnew, Bool.false_and, if_neg Bool.false_ne_true,
    eligibleEntries_holdBackClientHeads_of_settled (by rw [heligible]; exact hsettled'), heligible]

/-- **A planned batch rebuilds to itself**: from any of its members, under any batch cap, it keeps
exactly these members in the order they had. -/
theorem buildMergeTrainDryRunResult_rebuild {policy : MergeTrainPolicy}
    {snapshot : MergeTrainDryRunSnapshot} {dependencyHeads handoffHeads : List PlannedHead}
    {planned : MergeTrainDryRunResult}
    (hdistinct : (snapshot.pullRequests.map (·.number)).Nodup)
    (hplanned : buildMergeTrainDryRunResult policy snapshot
      (.planning dependencyHeads handoffHeads) = .ok planned)
    {members : List Nat} (hmembers : ∀ number ∈ members, number ∈ planned.queueOrder)
    (cap : MergeTrainRepositoryPolicy → Option Nat) :
    ∃ rebuilt, buildMergeTrainDryRunResult (policy.withMaxBatchSize cap)
        (mergeTrainSnapshotOf snapshot members)
        (.rebuilding planned.queueOrder.length dependencyHeads handoffHeads) = .ok rebuilt ∧
      rebuilt.queueOrder = planned.queueOrder.filter (· ∈ members) := by
  let options := DryRunOptions.planning dependencyHeads handoffHeads
  let options' := DryRunOptions.rebuilding planned.queueOrder.length dependencyHeads handoffHeads
  obtain ⟨repositoryPolicy, hpolicy, _⟩ := bind_eq_ok.mp hplanned
  obtain ⟨planned', hplanned', horder⟩ :=
    queueOrder_eq_landingBatch options rfl hpolicy
  obtain rfl : planned = planned' := Except.ok.inj (hplanned.symm.trans hplanned')
  have hpolicy' : (policy.withMaxBatchSize cap).findRepositoryPolicy
      (mergeTrainSnapshotOf snapshot members).repository
      (mergeTrainSnapshotOf snapshot members).baseBranch =
        .ok { repositoryPolicy with maxBatchSize := cap repositoryPolicy } :=
    MergeTrainPolicy.findRepositoryPolicy_withMaxBatchSize hpolicy
  obtain ⟨rebuilt, hrebuilt, horder'⟩ := queueOrder_eq_landingBatch options' rfl hpolicy'
  refine ⟨rebuilt, hrebuilt, ?_⟩
  obtain ⟨_, _, hshape⟩ := landingBatch_spec repositoryPolicy snapshot options rfl
  have hcandidates := @batchCandidates_rebuild repositoryPolicy (cap repositoryPolicy) snapshot
    options options' hdistinct rfl rfl rfl rfl rfl members (horder ▸ hmembers)
  -- recorded work keeps its size, so there is room for what is left of it
  have hroom : ∀ size ∈ batchSize { repositoryPolicy with maxBatchSize := cap repositoryPolicy }
      options', ((landingBatch repositoryPolicy snapshot options).filter
        (·.number ∈ members)).length ≤ size := by
    intro size hsize
    have hle := List.length_filter_le (fun entry : MergeTrainQueueEntry => entry.number ∈ members)
      (landingBatch repositoryPolicy snapshot options)
    have hlength : (landingBatch repositoryPolicy snapshot options).length =
        planned.queueOrder.length := by rw [horder, List.length_map]
    cases hcap : cap repositoryPolicy with
    | none => simp [batchSize, hcap] at hsize
    | some limit =>
        obtain rfl : max limit planned.queueOrder.length = size := by
          simpa [batchSize, hcap, options', DryRunOptions.rebuilding] using hsize
        omega
  rw [horder', horder, landingBatch, hcandidates, fillBatch_shape rfl hroom (shape_filter hshape),
    List.filter_map]
  rfl

/-- A policy with a cap of two pull requests a batch. -/
def samplePolicy : MergeTrainPolicy :=
  { policies :=
      [{ repository := "Owner/name"
         baseBranch := "main"
         enqueueLabel := "ready"
         blockedLabel := "blocked"
         mergeMethod := .merge
         maxBatchSize := some 2
         failurePolicy := .pauseTrain
         enqueue := { labelRequired := false } }] }

/-- A pull request that is ready, apart from its number. -/
def samplePullRequest (number : Nat) (createdAt : String) : MergeTrainPullRequestSnapshot :=
  { number
    createdAt
    headSha := "head"
    actorRole := "repo_owner"
    mergeable := .mergeable
    requiredChecksStatus := .pass }

/-- Three ready pull requests, the oldest listed last. -/
def sampleSnapshot : MergeTrainDryRunSnapshot :=
  { repository := "owner/name"
    baseBranch := "main"
    pullRequests :=
      [samplePullRequest 7 "2026-01-02", samplePullRequest 9 "2026-01-03",
        samplePullRequest 4 "2026-01-01"] }

theorem plannedSample : ∃ planned,
    buildMergeTrainDryRunResult samplePolicy sampleSnapshot (.planning [] []) = .ok planned ∧
      planned.queueOrder = [4, 7] :=
  ⟨_, rfl, by decide⟩

/-- The two oldest were planned; after the oldest landed the other one is rebuilt, though the cap
is one by now. -/
theorem buildMergeTrainDryRunResult_rebuild_sample :
    ∃ rebuilt, buildMergeTrainDryRunResult (samplePolicy.withMaxBatchSize fun _ => some 1)
        (mergeTrainSnapshotOf sampleSnapshot [7]) (.rebuilding 2 [] []) = .ok rebuilt ∧
      rebuilt.queueOrder = [7] := by
  obtain ⟨planned, hplanned, horder⟩ := plannedSample
  have hmembers : ∀ number ∈ [7], number ∈ planned.queueOrder := by
    rw [horder]
    decide
  obtain ⟨rebuilt, hrebuilt, hqueue⟩ :=
    buildMergeTrainDryRunResult_rebuild (by decide) hplanned hmembers fun _ => some 1
  rw [horder] at hrebuilt hqueue
  exact ⟨rebuilt, hrebuilt, hqueue⟩

end Launchplane.MergeTrain
