import Launchplane.MergeTrain.DryRun

/-!
# Launchplane.MergeTrain.BatchSelection

**Which batch a new candidate starts with.** The eligible queue is filled up from
its oldest entry to the first boundary, so a batch is a first part of the queue:
nobody overtakes. Entries that must land alone end a batch or are one, and what is
left waits with a reason. A batch is merged only when all of it is ready, not
just the entry it was selected by.

The heads that have to wait leave the queue before the batch is filled
(`heldBackQueue`), in four rewrites. All that matters of them here is that an
entry is dropped or kept as it is.
-/

namespace Launchplane.MergeTrain

/-! ### Filling -/

section

variable {boundary : BatchBoundary} {members entries rest : List MergeTrainQueueEntry}
  {entry : MergeTrainQueueEntry} {areas : List String}
  {result : List MergeTrainQueueEntry × String}

/-- What comes of filling a batch that has some members from a queue. -/
structure Filled (boundary : BatchBoundary) (members entries : List MergeTrainQueueEntry)
    (result : List MergeTrainQueueEntry × String) : Prop where
  /-- A first part of the queue is taken; when something is left there is a reason. -/
  taken : ∃ taken left, entries = taken ++ left ∧ result.1 = members ++ taken ∧
    (left ≠ [] → result.2 ≠ "")
  /-- The batch stays within its size. -/
  capped : ∀ size ∈ boundary.size, members.length ≤ size → result.1.length ≤ size
  /-- The batch is empty only when there was nothing to take, or no room. -/
  nonempty : entries ≠ [] → boundary.size ≠ some 0 → result.1 ≠ []

/-- Stopping before an entry. -/
theorem Filled.stop {reason : String} (hreason : reason ≠ "")
    (hmembers : members = [] → boundary.size = some 0) :
    Filled boundary members entries (members, reason) where
  taken := ⟨[], entries, rfl, by simp, fun _ => hreason⟩
  capped := fun _ _ hle => hle
  nonempty := fun _ hroom hempty => hroom (hmembers hempty)

/-- Stopping at an entry that shares no batch. -/
theorem Filled.isolated {reason : String} (hreason : reason ≠ "")
    (hroom : boundary.size ≠ some members.length) :
    Filled boundary members (entry :: rest) (if members = [] then [entry] else members, reason) := by
  by_cases hempty : members = []
  · subst hempty
    refine ⟨⟨[entry], rest, rfl, rfl, fun _ => hreason⟩, fun size hsize _ => ?_, by simp⟩
    have hpositive : size ≠ 0 := by
      rintro rfl
      exact hroom hsize
    show 1 ≤ size
    omega
  · rw [if_neg hempty]
    exact .stop hreason (absurd · hempty)

/-- Taking an entry and going on. -/
theorem Filled.take (hroom : boundary.size ≠ some members.length)
    (h : Filled boundary (members ++ [entry]) rest result) :
    Filled boundary members (entry :: rest) result := by
  obtain ⟨taken, left, hentries, hresult, hreason⟩ := h.taken
  refine ⟨⟨entry :: taken, left, by rw [hentries]; rfl, by rw [hresult]; simp, hreason⟩,
    fun size hsize hle => ?_, fun _ _ => by simp [hresult]⟩
  have hlt : members.length ≠ size := by
    rintro rfl
    exact hroom hsize
  refine h.capped size hsize ?_
  simp only [List.length_append, List.length_cons, List.length_nil]
  omega

theorem fillBatch_filled (boundary : BatchBoundary) (members : List MergeTrainQueueEntry)
    (areas : List String) (entries : List MergeTrainQueueEntry) :
    Filled boundary members entries (fillBatch boundary members areas entries) := by
  induction entries generalizing members areas with
  | nil => exact ⟨⟨[], [], rfl, by simp [fillBatch], by simp⟩, fun _ _ hle => hle, by simp⟩
  | cons entry rest ih =>
    rw [fillBatch]
    -- one case for each boundary, then the entry is taken
    split
    case isTrue hfull =>
      exact .stop (by decide) fun hempty => by simpa [hempty] using hfull
    case isFalse hroom =>
      split
      case isTrue => exact .isolated (by decide) hroom
      case isFalse =>
        split
        case isTrue => exact .isolated (by decide) hroom
        case isFalse =>
          split
          case isTrue harea => exact .stop (by decide) (absurd · harea.2.1)
          case isFalse => exact .take hroom (ih _ _)

end

/-! ### The queue it is filled from -/

/-- The queue order, of entries. -/
def EntryBefore (a b : MergeTrainQueueEntry) : Prop :=
  toLex (a.createdAt, a.number) ≤ toLex (b.createdAt, b.number)

theorem buildMergeTrainQueueEntries_sorted (policy : MergeTrainRepositoryPolicy)
    (snapshot : MergeTrainDryRunSnapshot) (batchLanding : Bool)
    (dependencyHeads handoffHeads : List PlannedHead) :
    (buildMergeTrainQueueEntries policy snapshot batchLanding dependencyHeads
      handoffHeads).Pairwise EntryBefore := by
  unfold buildMergeTrainQueueEntries
  exact (List.pairwise_insertionSort queuedBefore _).map _ fun _ _ h => h

/-- An entry outside the batch, with the reason. -/
def deferredEntry (batch : List MergeTrainQueueEntry × String) (entry : MergeTrainQueueEntry) :
    MergeTrainQueueEntry :=
  if entry.number ∉ batch.1.map (·.number) then { entry with deferredReasons := [batch.2] }
  else entry

section

variable {batch : List MergeTrainQueueEntry × String} {entry : MergeTrainQueueEntry}

@[simp] theorem deferredEntry_number : (deferredEntry batch entry).number = entry.number := by
  unfold deferredEntry
  split <;> rfl

@[simp] theorem deferredEntry_createdAt :
    (deferredEntry batch entry).createdAt = entry.createdAt := by
  unfold deferredEntry
  split <;> rfl

theorem deferredEntry_of_mem (h : entry ∈ batch.1) : deferredEntry batch entry = entry :=
  if_neg (not_not.mpr (List.mem_map_of_mem h))

theorem deferredEntry_reasons (h : entry.number ∉ batch.1.map (·.number)) :
    (deferredEntry batch entry).deferredReasons = [batch.2] := by
  rw [deferredEntry, if_pos h]

/-- Marking what is left leaves it eligible. -/
theorem eligibleEntries_markDeferred {options : DryRunOptions}
    (hbatch : options.batchLanding = true) (hnew : options.newCandidate = true)
    (queue : List MergeTrainQueueEntry) :
    eligibleEntries (markDeferred options batch queue) =
      (eligibleEntries queue).map (deferredEntry batch) := by
  unfold eligibleEntries markDeferred
  rw [hbatch, hnew, Bool.and_self, if_pos rfl]
  induction queue with
  | nil => rfl
  | cons entry rest ih =>
    rw [List.map_cons, List.filter_cons, List.filter_cons, ih]
    cases heligible : entry.eligible with
    | false => simp [heligible]
    | true =>
      by_cases hmem : entry.number ∈ batch.1.map (·.number)
      · simp only [hmem, heligible, deferredEntry, not_true_eq_false, and_false, if_false, if_true,
          List.map_cons]
      · simp only [hmem, heligible, deferredEntry, not_false_eq_true, and_self, if_true,
          List.map_cons]

end

/-! ### The action -/

/-- A selected pull request is merged only when it is ready by itself. -/
theorem nextActionForSelectedPr_merge {policy : MergeTrainRepositoryPolicy}
    {selectedPr : Option MergeTrainQueueEntry} {skipBranchUpdate : Bool}
    (h : (nextActionForSelectedPr policy selectedPr skipBranchUpdate).1 = .merge) :
    ∃ selected, selectedPr = some selected ∧ selected.clientTestNotesError = "" ∧
      selected.mergeable = .mergeable ∧ selected.requiredChecksStatus = .pass := by
  cases selectedPr with
  | none => cases h
  | some selected =>
    refine ⟨selected, rfl, ?_⟩
    unfold nextActionForSelectedPr at h
    dsimp only at h
    -- every other branch has another action
    split_ifs at h with hnotes hconflict hfail _ hupdate hreview hwait
    obtain ⟨hknown, hpending, hchecked⟩ := by simpa only [not_or] using hwait
    refine ⟨not_not.mp hnotes, ?_, ?_⟩
    · cases hmergeable : selected.mergeable <;> simp_all
    · cases hchecks : selected.requiredChecksStatus <;> simp_all

/-- A member that keeps its batch from being merged. -/
def waitsForReview (entry : MergeTrainQueueEntry) : Prop :=
  entry.clientTestNotesError ≠ "" ∨
    (entry.ownerReviewRequired = true ∧ entry.requiredChecksStatus ≠ .pass)

/-- It is not merged when it is selected instead. -/
theorem nextActionForSelectedPr_waiting {policy : MergeTrainRepositoryPolicy}
    {waiting : MergeTrainQueueEntry} {skipBranchUpdate : Bool} (hwaits : waitsForReview waiting) :
    (nextActionForSelectedPr policy (some waiting) skipBranchUpdate).1 ≠ .merge := by
  intro h
  obtain ⟨selected, heq, hnotes, _, hchecks⟩ := nextActionForSelectedPr_merge h
  cases heq
  rcases hwaits with hwaits | ⟨_, hwaits⟩
  · exact hwaits hnotes
  · exact hwaits hchecks

/-- What merging a batch takes. -/
structure BatchReady (batch : List MergeTrainQueueEntry) (selectedPr : Option MergeTrainQueueEntry) :
    Prop where
  /-- The selected pull request is the oldest, and it is ready. -/
  oldest : ∃ oldest, batch.head? = some oldest ∧ selectedPr = some oldest ∧
    oldest.mergeable = .mergeable ∧ oldest.requiredChecksStatus = .pass
  /-- No member has a Client test-notes error. -/
  notes : ∀ entry ∈ batch, entry.clientTestNotesError = ""
  /-- The checks of every Client-reviewed member pass. -/
  reviewed : ∀ entry ∈ batch, entry.ownerReviewRequired = true → entry.requiredChecksStatus = .pass

theorem selectAction_merge {policy : MergeTrainRepositoryPolicy} {options : DryRunOptions}
    {batch : List MergeTrainQueueEntry} (hbatch : options.batchLanding = true)
    (h : (selectAction policy options batch).2.1 = .merge) :
    BatchReady batch (selectAction policy options batch).1 := by
  unfold selectAction at h ⊢
  dsimp only at h ⊢
  generalize (options.batchLanding && _ && _ && _) = skip at h ⊢
  by_cases hmerge : (nextActionForSelectedPr policy batch.head? skip).1 = .merge
  case neg =>
    rw [if_neg fun hboth => hmerge hboth.2] at h
    exact absurd h hmerge
  case pos =>
    rw [if_pos ⟨hbatch, hmerge⟩] at h ⊢
    cases hfind : batch.find? fun entry => entry.clientTestNotesError ≠ "" ∨
        (entry.ownerReviewRequired ∧ entry.requiredChecksStatus ≠ .pass) with
    | some waiting =>
      rw [hfind] at h
      have hwaits : waitsForReview waiting := by
        simpa [waitsForReview] using List.find?_some hfind
      exact absurd h (nextActionForSelectedPr_waiting hwaits)
    | none =>
      have hready (entry : MergeTrainQueueEntry) (hentry : entry ∈ batch) :
          ¬ waitsForReview entry := by
        simpa [waitsForReview] using List.find?_eq_none.mp hfind entry hentry
      obtain ⟨oldest, hhead, _, hmergeable, hchecks⟩ := nextActionForSelectedPr_merge hmerge
      refine ⟨⟨oldest, hhead, hhead, hmergeable, hchecks⟩, fun entry hentry => ?_,
        fun entry hentry hreviewed => ?_⟩
      · exact not_not.mp (not_or.mp (hready entry hentry)).1
      · exact not_not.mp fun hchecks => (not_or.mp (hready entry hentry)).2 ⟨hreviewed, hchecks⟩

/-! ### The selection -/

/-- The entries of a result's queue that its order lists. -/
def MergeTrainDryRunResult.selected (result : MergeTrainDryRunResult) :
    List MergeTrainQueueEntry :=
  (eligibleEntries result.queue).take result.queueOrder.length

/-- What a new candidate's selection is like. -/
structure FairSelection (policy : MergeTrainRepositoryPolicy) (snapshot : MergeTrainDryRunSnapshot)
    (result : MergeTrainDryRunResult) : Prop where
  /-- The queue has an entry for each pull request to the base branch, and no other. -/
  queued : (result.queue.map (·.number)).Perm
    ((snapshot.pullRequests.filter (targetsMergeTrainBase snapshot.baseBranch)).map (·.number))
  /-- An eligible entry says of its pull request what the snapshot does. -/
  observed : ∀ entry ∈ eligibleEntries result.queue, ∃ pullRequest ∈ snapshot.pullRequests,
    ∃ options, { entry with deferredReasons := [] } = buildQueueEntry policy pullRequest options
  /-- The eligible queue is in queue order. -/
  sorted : (eligibleEntries result.queue).Pairwise EntryBefore
  /-- The order is a first part of it. -/
  isPrefix : result.queueOrder <+: (eligibleEntries result.queue).map (·.number)
  /-- Something is selected when something is eligible. -/
  nonempty : eligibleEntries result.queue ≠ [] → result.queueOrder ≠ []
  /-- No more than the policy allows. -/
  capped : ∀ cap, policy.maxBatchSize = some cap → result.queueOrder.length ≤ cap
  /-- A dependency bot's pull request is selected alone. -/
  dependencyAlone : ∀ pullRequest ∈ snapshot.pullRequests,
    pullRequest.actorId.any (· ∈ policy.enqueue.dependencyIdentityIds) = true →
      pullRequest.number ∈ result.queueOrder → result.queueOrder = [pullRequest.number]
  /-- So is one that requires individual landing. -/
  individualAlone : ∀ entry ∈ result.selected, entry.requiresIndividualLanding = true →
    result.queueOrder = [entry.number]
  /-- An eligible entry that is left out has a reason. -/
  deferred : ∀ entry ∈ eligibleEntries result.queue, entry.number ∉ result.queueOrder →
    ∃ reason ∈ entry.deferredReasons, reason ≠ ""
  /-- A batch is merged only when all of it is ready. -/
  merge : result.intendedNextAction = .merge → BatchReady result.selected result.selectedPr

/-- A member that shares no batch is the only one. -/
theorem BatchBoundary.Shape.alone {boundary : BatchBoundary} {batch : List MergeTrainQueueEntry}
    (h : boundary.Shape batch) {entry : MergeTrainQueueEntry} (hentry : entry ∈ batch)
    (hisolated : boundary.Isolated entry) : batch = [entry] := by
  rcases h with hshape | hshort
  · exact absurd hisolated (hshape entry hentry)
  · match batch, hshort with
    | [only], _ => rw [List.mem_singleton.mp hentry]

/-- What a planning run returns, in terms of the eligible queue it fills its batch from: the batch,
with why it ends, decides the rest. -/
structure Planned (policy : MergeTrainRepositoryPolicy) (snapshot : MergeTrainDryRunSnapshot)
    (options : DryRunOptions) (batch : List MergeTrainQueueEntry × String)
    (result : MergeTrainDryRunResult) : Prop where
  queue : result.queue = markDeferred options batch (heldBackQueue policy snapshot options
    (buildMergeTrainQueueEntries policy snapshot true options.plannedDependencyHeads
      options.plannedHandoffHeads))
  filled : batch = fillBatch
    (batchBoundary policy snapshot options (batchCandidates policy snapshot options)) [] []
    (batchCandidates policy snapshot options)
  order : result.queueOrder = batch.1.map (·.number)
  eligible : eligibleEntries result.queue =
    (batchCandidates policy snapshot options).map (deferredEntry batch)
  selectedPr : result.selectedPr = (selectAction policy options batch.1).1
  action : result.intendedNextAction = (selectAction policy options batch.1).2.1

theorem planned_of_build {policy : MergeTrainPolicy} {snapshot : MergeTrainDryRunSnapshot}
    {options : DryRunOptions} {result : MergeTrainDryRunResult}
    (hbatch : options.batchLanding = true) (hnew : options.newCandidate = true)
    (h : buildMergeTrainDryRunResult policy snapshot options = .ok result) :
    ∃ repositoryPolicy,
      policy.findRepositoryPolicy snapshot.repository snapshot.baseBranch = .ok repositoryPolicy ∧
        ∃ batch, Planned repositoryPolicy snapshot options batch result := by
  obtain ⟨repositoryPolicy, hpolicy, hresult⟩ := bind_eq_ok.mp h
  rw [hbatch] at hresult
  obtain rfl := Except.ok.inj hresult
  refine ⟨repositoryPolicy, hpolicy, selectBatch repositoryPolicy snapshot options
    (batchCandidates repositoryPolicy snapshot options), rfl, ?_, rfl, ?_, rfl, rfl⟩
  · rw [selectBatch, if_pos hbatch]
  · exact eligibleEntries_markDeferred hbatch hnew _

section

variable {policy : MergeTrainRepositoryPolicy} {snapshot : MergeTrainDryRunSnapshot}
  {options : DryRunOptions} {batch : List MergeTrainQueueEntry × String}
  {result : MergeTrainDryRunResult}

/-- Holding entries back and marking them keeps their numbers. -/
theorem number_holdBack (condition : MergeTrainQueueEntry → Bool)
    (reasons : MergeTrainQueueEntry → List String) (queue : List MergeTrainQueueEntry) :
    (holdBack condition reasons queue).map (·.number) = queue.map (·.number) := by
  unfold holdBack
  rw [List.map_map]
  refine List.map_congr_left fun entry _ => ?_
  dsimp only [Function.comp_apply]
  split_ifs <;> rfl

theorem number_heldBackQueue (queue : List MergeTrainQueueEntry) :
    (heldBackQueue policy snapshot options queue).map (·.number) = queue.map (·.number) := by
  have hstacks : (deferUnsupportedStacks policy snapshot queue).map (·.number) =
      queue.map (·.number) := by
    unfold deferUnsupportedStacks
    dsimp only
    split_ifs
    · rfl
    · rw [List.map_map]
      refine List.map_congr_left fun entry _ => ?_
      dsimp only [Function.comp_apply]
      split <;> rfl
  unfold heldBackQueue holdBackEngineeringHeads holdBackClientHeads
  split_ifs <;> simp only [number_holdBack, hstacks]

theorem number_markDeferred (queue : List MergeTrainQueueEntry) :
    (markDeferred options batch queue).map (·.number) = queue.map (·.number) := by
  unfold markDeferred
  split_ifs
  · rw [List.map_map]
    refine List.map_congr_left fun entry _ => ?_
    dsimp only [Function.comp_apply]
    split_ifs <;> rfl
  · rfl

theorem batchCandidates_sorted (hbatch : options.batchLanding = true) :
    (batchCandidates policy snapshot options).Pairwise EntryBefore := by
  obtain ⟨hheld, _⟩ := eligibleEntries_heldBackQueue policy snapshot hbatch
    (buildMergeTrainQueueEntries policy snapshot true options.plannedDependencyHeads
      options.plannedHandoffHeads)
  exact (buildMergeTrainQueueEntries_sorted policy snapshot true _ _).sublist
    (hheld.trans List.filter_sublist)

/-- A candidate is the entry of its pull request. -/
theorem exists_of_mem_batchCandidates (hbatch : options.batchLanding = true)
    {entry : MergeTrainQueueEntry} (h : entry ∈ batchCandidates policy snapshot options) :
    ∃ pullRequest ∈ snapshot.pullRequests, ∃ options, entry = buildQueueEntry policy pullRequest options := by
  obtain ⟨hheld, _⟩ := eligibleEntries_heldBackQueue policy snapshot hbatch
    (buildMergeTrainQueueEntries policy snapshot true options.plannedDependencyHeads
      options.plannedHandoffHeads)
  have hbuilt := (List.mem_filter.mp (hheld.subset h)).1
  obtain ⟨pullRequest, hmem, rfl⟩ := List.mem_map.mp hbuilt
  have hlisted := (List.mem_filter.mp ((List.mem_insertionSort _).mp hmem)).1
  exact ⟨pullRequest, hlisted, _, rfl⟩

/-- The batch is what the order selects, and the rest of the eligible queue is left. -/
theorem Planned.split (planned : Planned policy snapshot options batch result) :
    ∃ left, batchCandidates policy snapshot options = batch.1 ++ left ∧
      (left ≠ [] → batch.2 ≠ "") := by
  obtain ⟨taken, left, hentries, htaken, hreason⟩ :=
    (fillBatch_filled (batchBoundary policy snapshot options
      (batchCandidates policy snapshot options)) [] [] (batchCandidates policy snapshot options)).taken
  rw [← planned.filled] at htaken hreason
  exact ⟨left, by rw [htaken]; exact hentries, hreason⟩

theorem Planned.selected (planned : Planned policy snapshot options batch result) :
    result.selected = batch.1 := by
  obtain ⟨left, hsplit, _⟩ := planned.split
  have hkept : batch.1.map (deferredEntry batch) = batch.1 :=
    (List.map_congr_left fun entry hentry => deferredEntry_of_mem hentry).trans (List.map_id' _)
  rw [MergeTrainDryRunResult.selected, planned.eligible, planned.order, hsplit, List.map_append,
    hkept, List.length_map, List.take_left]

/-- **A new candidate is a fair, isolated first part of the queue.** -/
theorem Planned.fairSelection (planned : Planned policy snapshot options batch result)
    (hbatch : options.batchLanding = true) (hsize : options.existingCandidateSize = none)
    (hcap : policy.maxBatchSize ≠ some 0) : FairSelection policy snapshot result := by
  obtain ⟨left, hsplit, hreason⟩ := planned.split
  have hfilled := fillBatch_filled (batchBoundary policy snapshot options
    (batchCandidates policy snapshot options)) [] [] (batchCandidates policy snapshot options)
  have hshape := (@fillBatch_spec (batchBoundary policy snapshot options
    (batchCandidates policy snapshot options)) (batchCandidates policy snapshot options) [] []
    (by simp)).2
  have hboundary : (batchBoundary policy snapshot options
      (batchCandidates policy snapshot options)).size = policy.maxBatchSize := by
    simp only [batchBoundary, batchSize, hsize]
    cases policy.maxBatchSize <;> rfl
  rw [← planned.filled] at hfilled hshape
  have horder (entry : MergeTrainQueueEntry) (halone : batch.1 = [entry]) :
      result.queueOrder = [entry.number] := by
    rw [planned.order, halone, List.map_singleton]
  constructor
  case queued =>
    rw [planned.queue, number_markDeferred, number_heldBackQueue]
    unfold buildMergeTrainQueueEntries
    rw [List.map_map]
    exact (List.perm_insertionSort _ _).map _
  case observed =>
    intro entry hentry
    rw [planned.eligible] at hentry
    obtain ⟨candidate, hcandidate, rfl⟩ := List.mem_map.mp hentry
    obtain ⟨pullRequest, hmem, built, rfl⟩ := exists_of_mem_batchCandidates hbatch hcandidate
    refine ⟨pullRequest, hmem, built, ?_⟩
    unfold deferredEntry
    split_ifs <;> rfl
  case sorted =>
    rw [planned.eligible]
    refine (batchCandidates_sorted hbatch).map _ fun a b hab => ?_
    simpa [EntryBefore] using hab
  case isPrefix =>
    rw [planned.order, planned.eligible, hsplit, List.map_map, List.map_append]
    refine ⟨left.map (·.number), congrArg₂ _ (List.map_congr_left fun entry _ => ?_)
      (List.map_congr_left fun entry _ => ?_)⟩ <;> simp
  case nonempty =>
    intro heligible
    rw [planned.eligible] at heligible
    rw [planned.order]
    simpa using hfilled.nonempty (by simpa using heligible) (by rwa [hboundary])
  case capped =>
    intro cap hmax
    rw [planned.order, List.length_map]
    exact hfilled.capped cap (by rw [hboundary, hmax]; rfl) (Nat.zero_le _)
  case dependencyAlone =>
    intro pullRequest hmem hdependency hlisted
    rw [planned.order] at hlisted
    obtain ⟨entry, hentry, hnumber⟩ := List.mem_map.mp hlisted
    rw [← hnumber]
    refine horder entry (hshape.alone hentry (.inl (decide_eq_true ?_)))
    rw [hnumber]
    exact List.mem_map_of_mem (List.mem_filter.mpr ⟨hmem, hdependency⟩)
  case individualAlone =>
    intro entry hentry hindividual
    rw [planned.selected] at hentry
    exact horder entry (hshape.alone hentry (.inr hindividual))
  case deferred =>
    intro entry hentry hleft
    rw [planned.eligible] at hentry
    obtain ⟨original, horiginal, rfl⟩ := List.mem_map.mp hentry
    rw [planned.order, deferredEntry_number] at hleft
    rw [deferredEntry_reasons hleft]
    refine ⟨batch.2, List.mem_singleton_self _, hreason ?_⟩
    rintro rfl
    rw [List.append_nil] at hsplit
    exact hleft (List.mem_map_of_mem (hsplit ▸ horiginal))
  case merge =>
    intro hmerge
    rw [planned.action] at hmerge
    rw [planned.selected, planned.selectedPr]
    exact selectAction_merge hbatch hmerge

end

/-- A policy is found among those of the train. -/
theorem mem_of_findRepositoryPolicy {policy : MergeTrainPolicy} {repository baseBranch : String}
    {found : MergeTrainRepositoryPolicy}
    (h : policy.findRepositoryPolicy repository baseBranch = .ok found) :
    found ∈ policy.policies := by
  unfold MergeTrainPolicy.findRepositoryPolicy at h
  obtain ⟨repository', _, h⟩ := bind_eq_ok.mp h
  obtain ⟨baseBranch', _, h⟩ := bind_eq_ok.mp h
  split at h
  case h_1 target hfind =>
    obtain rfl := Except.ok.inj h
    exact List.mem_of_find?_eq_some hfind
  case h_2 => cases h

/-- **Batch selection is a fair, isolated prefix**, for every policy whose caps are positive. -/
theorem buildMergeTrainDryRunResult_fair {policy : MergeTrainPolicy}
    {snapshot : MergeTrainDryRunSnapshot} {dependencyHeads handoffHeads : List PlannedHead}
    {result : MergeTrainDryRunResult}
    (hcaps : ∀ repositoryPolicy ∈ policy.policies, repositoryPolicy.maxBatchSize ≠ some 0)
    (h : buildMergeTrainDryRunResult policy snapshot (.planning dependencyHeads handoffHeads) =
      .ok result) :
    ∃ repositoryPolicy,
      policy.findRepositoryPolicy snapshot.repository snapshot.baseBranch = .ok repositoryPolicy ∧
        FairSelection repositoryPolicy snapshot result := by
  obtain ⟨repositoryPolicy, hpolicy, batch, planned⟩ := planned_of_build rfl rfl h
  have hmem := mem_of_findRepositoryPolicy hpolicy
  exact ⟨repositoryPolicy, hpolicy, planned.fairSelection rfl rfl (hcaps _ hmem)⟩

/-- Two of the three sample pull requests fit into a batch; the third waits. -/
theorem buildMergeTrainDryRunResult_fair_sample :
    ∃ planned, buildMergeTrainDryRunResult samplePolicy sampleSnapshot (.planning [] []) =
        .ok planned ∧ planned.queueOrder = [4, 7] ∧
      ∃ repositoryPolicy,
        samplePolicy.findRepositoryPolicy sampleSnapshot.repository sampleSnapshot.baseBranch =
            .ok repositoryPolicy ∧
          FairSelection repositoryPolicy sampleSnapshot planned := by
  obtain ⟨planned, hplanned, horder⟩ := plannedSample
  exact ⟨planned, hplanned, horder, buildMergeTrainDryRunResult_fair (by decide) hplanned⟩

end Launchplane.MergeTrain
