import Launchplane.ClientRelease.Review

/-!
# Launchplane.ClientRelease.Rollback

**A rejected hotfix and the release it returns to.** A history is any sequence of
recorded decisions, edits of the profile that keep its owner, and production
deployments that pass or fail.

The target of a rejection is another release than the rejected one (`TargetSound`)
as long as every acceptance of the rejected release is `Superseded`: the Client
has later accepted another release that was deployed. Where it is not, the search
finds the rejected release itself (`target_of_not_superseded`).
-/

namespace Launchplane.ClientRelease

section Histories

variable {κ : Type} [LinearOrder κ] (collate : String ↪ κ)

/-- A step of a history. -/
inductive ReleaseStep
  | decide (request : DecisionRequest)
  | edit (profile : ProductProfile)
  /-- A production deployment of a version; a failed one may leave anything behind. -/
  | deploy (deployment : DeploymentRecord) (version : ReleaseVersion)
      (left : Option ReleaseVersion)

/-- What a step does. -/
inductive Step : ReleaseStore → ReleaseStep → ReleaseStore → Prop
  | decide {store store' : ReleaseStore} {request : DecisionRequest}
      (hdrawn : store.decisions.get ("release-review-" ++ request.drawnRecordId) = none)
      (hpublished : request.publishedUrl ≠ "")
      (hok : store.writeReleaseReviewDecision collate request = .ok store') :
      Step store (.decide request) store'
  | edit {store : ReleaseStore} {profile : ProductProfile}
      (howner : profile.ownerGithubId = store.profile.ownerGithubId) :
      Step store (.edit profile) { store with profile }
  | deploy {store : ReleaseStore} {deployment : DeploymentRecord} {version : ReleaseVersion}
      {left : Option ReleaseVersion}
      (hdrawn : store.deployments.get deployment.recordId = none)
      (hlane : deployment.instanceName = "prod")
      (hversion : ∃ decision ∈ store.decisions.rows,
        decision.decision ∈ [ReleaseDecision.accepted, .temporaryHotfix] ∧
          decision.checklist.candidate = version)
      (hdeploys : deploys store.profile deployment version = true) :
      Step store (.deploy deployment version left)
        { store with
          deployments := store.deployments.merge deployment
          production := Function.update store.production deployment.context
            (if deploymentRecordPassed deployment then some version else left) }

/-- The states of the histories whose steps are `Allowed`. -/
inductive Reached (Allowed : ReleaseStore → ReleaseStep → Prop) : ReleaseStore → Prop
  | start {store : ReleaseStore} (hempty : store.decisions.rows = []) : Reached Allowed store
  | step {store store' : ReleaseStore} {step : ReleaseStep} (hreached : Reached Allowed store)
      (hallowed : Allowed store step) (hstep : Step collate store step store') :
      Reached Allowed store'

/-- The rollback target of a rejection that production waits on is another release, which the
Client accepted; once production runs it, the rejection is over. -/
def TargetSound (store : ReleaseStore) : Prop :=
  ∀ rejection, (store.listDecisions collate).head? = some rejection →
    isHotfixRejection rejection = true →
    store.productionVersion = some rejection.checklist.candidate →
    ∀ target, store.rejectionRollbackTarget collate (some rejection) = some target →
      (deploymentRecordPassed target = true ∧ target.instanceName = "prod" ∧
        ∃ acceptance ∈ store.decisions.rows,
          isClientAcceptance store.profile.ownerGithubId acceptance = true ∧
            deploys store.profile target acceptance.checklist.candidate = true) ∧
      deploys store.profile target rejection.checklist.candidate = false ∧
      ∀ (store' : ReleaseStore) (version : ReleaseVersion), store'.decisions = store.decisions →
        store'.productionVersion = some version → deploys store.profile target version = true →
          store'.rejectionRollbackPending collate = false

/-- Two versions that the search for a target cannot tell apart. -/
def SameRelease (profile : ProductProfile) (version version' : ReleaseVersion) : Prop :=
  version.artifactId = version'.artifactId ∧
    (profile.driverId ≠ "generic-web" ∨
      version.sourceCommit = version'.sourceCommit ∧
        version.runtimeSettings = version'.runtimeSettings)

/-- An acceptance by the Client that was deployed. -/
def IsDeployedAcceptance (store : ReleaseStore) (acceptance : ReleaseReviewDecisionRecord) : Prop :=
  isClientAcceptance store.profile.ownerGithubId acceptance = true ∧
    ∃ deployment ∈ store.listProdDeployments collate,
      deploys store.profile deployment acceptance.checklist.candidate = true ∧
        deploymentRecordPassed deployment = true

/-- After every acceptance of the release the Client accepted another one, which was deployed. -/
def Superseded (store : ReleaseStore) (candidate : ReleaseVersion) : Prop :=
  ∀ later acceptance earlier, store.listDecisions collate = later ++ acceptance :: earlier →
    isClientAcceptance store.profile.ownerGithubId acceptance = true →
    SameRelease store.profile acceptance.checklist.candidate candidate →
    ∃ newer ∈ later, IsDeployedAcceptance collate store newer ∧
      ¬ SameRelease store.profile newer.checklist.candidate candidate

/-- The histories in which a rejection finds another release: decisions are recorded in the order of
their times, a hotfix is rejected only when its release is superseded, and while a rejection is the
newest decision neither the driver nor the production lane is edited. -/
def RejectsSuperseded (store : ReleaseStore) : ReleaseStep → Prop
  | .decide request =>
    (∀ decision ∈ store.decisions.rows, decision.decidedAt < request.now) ∧
      (request.envelope.decision = .changesRequested →
        ∀ hotfix ∈ liveTemporaryHotfix collate store request.views,
          Superseded collate store hotfix.checklist.candidate)
  | .edit profile =>
    (∃ rejection ∈ (store.listDecisions collate).head?, isHotfixRejection rejection = true) →
      profile.driverId = store.profile.driverId ∧ profile.prodContext = store.profile.prodContext
  | .deploy .. => True

/-! ### The search -/

variable {collate}

theorem mem_listProdDeployments {store : ReleaseStore} {deployment : DeploymentRecord} :
    deployment ∈ store.listProdDeployments collate ↔
      deployment ∈ store.deployments.rows ∧
        (store.profile.prodContextName = "" ∨
          deployment.context = store.profile.prodContextName) ∧
        deployment.instanceName = "prod" := by
  simp [ReleaseStore.listProdDeployments]

theorem sameRelease_of_deploys {profile : ProductProfile} {deployment : DeploymentRecord}
    {version version' : ReleaseVersion} (h : deploys profile deployment version = true)
    (h' : deploys profile deployment version' = true) : SameRelease profile version version' := by
  simp only [deploys, decide_eq_true_eq] at h h'
  refine ⟨Option.some.inj (h.1.symm.trans h'.1), ?_⟩
  rcases h.2 with hdriver | ⟨hcommit, hsettings⟩
  · exact .inl hdriver
  · rcases h'.2 with hdriver | ⟨hcommit', hsettings'⟩
    · exact .inl hdriver
    · exact .inr ⟨hcommit.symm.trans hcommit', hsettings.symm.trans hsettings'⟩

theorem SameRelease.symm {profile : ProductProfile} {version version' : ReleaseVersion}
    (h : SameRelease profile version version') : SameRelease profile version' version :=
  ⟨h.1.symm, h.2.imp_right fun hsame => ⟨hsame.1.symm, hsame.2.symm⟩⟩

theorem deploys_of_sameRelease {profile : ProductProfile} {deployment : DeploymentRecord}
    {version version' : ReleaseVersion} (h : deploys profile deployment version = true)
    (hsame : SameRelease profile version version') : deploys profile deployment version' = true := by
  simp only [deploys, decide_eq_true_eq] at h ⊢
  refine ⟨h.1.trans (congrArg some hsame.1), ?_⟩
  rcases h.2 with hdriver | ⟨hcommit, hsettings⟩
  · exact .inl hdriver
  · rcases hsame.2 with hdriver | ⟨hcommit', hsettings'⟩
    · exact .inl hdriver
    · exact .inr ⟨hcommit.trans hcommit', hsettings.trans hsettings'⟩

/-- No listed decision is newer than the first one. -/
theorem decidedAt_le_head {store : ReleaseStore} {newest decision : ReleaseReviewDecisionRecord}
    (hhead : (store.listDecisions collate).head? = some newest)
    (hmem : decision ∈ store.listDecisions collate) : decision.decidedAt ≤ newest.decidedAt := by
  have hsorted := pairwise_sortedBy (decisionRank collate) store.decisions.rows
  unfold ReleaseStore.listDecisions at hhead hmem
  cases hlist : sortedBy (decisionRank collate) store.decisions.rows with
  | nil =>
      rw [hlist] at hhead
      cases hhead
  | cons first rest =>
      rw [hlist] at hhead hmem hsorted
      obtain rfl := Option.some.inj hhead
      rcases List.mem_cons.mp hmem with rfl | hrest
      · exact le_refl _
      · have hle := (List.pairwise_cons.mp hsorted).1 decision hrest
        rw [decisionRank, decisionRank, OrderDual.toDual_le_toDual, Prod.Lex.toLex_le_toLex] at hle
        rcases hle with hlt | ⟨heq, -⟩
        · exact hlt.le
        · exact heq.le

/-- An acceptance that was deployed ends the search. -/
theorem acceptedDeployment_ne_none {store : ReleaseStore}
    {newest decision : ReleaseReviewDecisionRecord}
    (hhead : (store.listDecisions collate).head? = some newest)
    (hmem : decision ∈ store.listDecisions collate)
    (h : IsDeployedAcceptance collate store decision) :
    store.acceptedDeployment collate (some newest) decision ≠ none := by
  obtain ⟨hclient, deployment, hdeployment, hdeploys, hpassed⟩ := h
  intro hnone
  unfold ReleaseStore.acceptedDeployment at hnone
  rw [if_pos ⟨hclient, by simpa using decidedAt_le_head hhead hmem⟩] at hnone
  have hno := List.find?_eq_none.mp hnone deployment hdeployment
  simp [hdeploys, hpassed] at hno

/-- The search ends at the newest acceptance that was deployed. -/
theorem target_eq_some {store : ReleaseStore} {newest : ReleaseReviewDecisionRecord}
    (hhead : (store.listDecisions collate).head? = some newest) {target : DeploymentRecord}
    (h : store.rejectionRollbackTarget collate (some newest) = some target) :
    ∃ later acceptance earlier, store.listDecisions collate = later ++ acceptance :: earlier ∧
      isClientAcceptance store.profile.ownerGithubId acceptance = true ∧
      target ∈ store.listProdDeployments collate ∧
      deploys store.profile target acceptance.checklist.candidate = true ∧
      deploymentRecordPassed target = true ∧
      ∀ newer ∈ later, ¬ IsDeployedAcceptance collate store newer := by
  obtain ⟨later, acceptance, earlier, hlist, hfound, hlater⟩ := List.findSome?_eq_some_iff.mp h
  unfold ReleaseStore.acceptedDeployment at hfound
  split at hfound
  · rename_i haccepted
    have hmatch := List.find?_some hfound
    rw [Bool.and_eq_true] at hmatch
    refine ⟨later, acceptance, earlier, hlist, haccepted.1, List.mem_of_find?_eq_some hfound,
      hmatch.1, hmatch.2, ?_⟩
    intro newer hnewer hdeployed
    have hmem : newer ∈ store.listDecisions collate := by
      rw [hlist]
      exact List.mem_append_left _ hnewer
    exact acceptedDeployment_ne_none hhead hmem hdeployed (hlater newer hnewer)
  · cases hfound

/-- **Where every acceptance of the release is superseded, the search finds another one.** -/
theorem not_deploys_of_superseded {store : ReleaseStore} {newest : ReleaseReviewDecisionRecord}
    {candidate : ReleaseVersion} (hhead : (store.listDecisions collate).head? = some newest)
    (hsuperseded : Superseded collate store candidate) {target : DeploymentRecord}
    (h : store.rejectionRollbackTarget collate (some newest) = some target) :
    deploys store.profile target candidate = false := by
  obtain ⟨later, acceptance, earlier, hlist, hclient, -, hdeploys, -, hlater⟩ :=
    target_eq_some hhead h
  cases hsame : deploys store.profile target candidate with
  | false => rfl
  | true =>
      obtain ⟨newer, hnewer, hdeployed, -⟩ := hsuperseded later acceptance earlier hlist hclient
        (sameRelease_of_deploys hdeploys hsame)
      exact absurd hdeployed (hlater newer hnewer)

theorem targetSound_of_superseded {store : ReleaseStore}
    (h : ∀ rejection, (store.listDecisions collate).head? = some rejection →
      isHotfixRejection rejection = true →
        Superseded collate store rejection.checklist.candidate) : TargetSound collate store := by
  intro rejection hhead hrejection _ target htarget
  have hother := not_deploys_of_superseded hhead (h rejection hhead hrejection) htarget
  obtain ⟨later, acceptance, earlier, hlist, hclient, hlisted, hdeploys, hpassed, -⟩ :=
    target_eq_some hhead htarget
  have hlane : target.instanceName = "prod" := (mem_listProdDeployments.mp hlisted).2.2
  have hacceptance : acceptance ∈ store.decisions.rows := by
    rw [← mem_sortedBy (decisionRank collate)]
    show acceptance ∈ store.listDecisions collate
    rw [hlist]
    exact List.mem_append_right _ List.mem_cons_self
  refine ⟨⟨hpassed, hlane, acceptance, hacceptance, hclient, hdeploys⟩, hother, ?_⟩
  intro store' version hdecisions hproduction hruns
  have hne : version ≠ rejection.checklist.candidate := by
    intro heq
    rw [heq, hother] at hruns
    cases hruns
  have hhead' : (store'.listDecisions collate).head? = some rejection := by
    unfold ReleaseStore.listDecisions at hhead ⊢
    rw [hdecisions]
    exact hhead
  simp [ReleaseStore.rejectionRollbackPending, hhead', hproduction, hne]

/-- Where one is not, and the release was deployed, the search finds the release itself. -/
theorem target_of_not_superseded {store : ReleaseStore} {newest : ReleaseReviewDecisionRecord}
    {candidate : ReleaseVersion} (hhead : (store.listDecisions collate).head? = some newest)
    (hsuperseded : ¬ Superseded collate store candidate)
    (hdeployed : ∃ deployment ∈ store.listProdDeployments collate,
      deploys store.profile deployment candidate = true ∧
        deploymentRecordPassed deployment = true) :
    ∃ target, store.rejectionRollbackTarget collate (some newest) = some target ∧
      deploys store.profile target candidate = true := by
  unfold Superseded at hsuperseded
  push Not at hsuperseded
  obtain ⟨later, acceptance, earlier, hlist, hclient, hsame, hlater⟩ := hsuperseded
  obtain ⟨deployment, hdeployment, hdeploys, hpassed⟩ := hdeployed
  have hdeployedAcceptance : IsDeployedAcceptance collate store acceptance :=
    ⟨hclient, deployment, hdeployment, deploys_of_sameRelease hdeploys hsame.symm, hpassed⟩
  have hmem : acceptance ∈ store.listDecisions collate := by
    rw [hlist]
    exact List.mem_append_right _ List.mem_cons_self
  cases htarget : store.rejectionRollbackTarget collate (some newest) with
  | none =>
      exact absurd (List.findSome?_eq_none_iff.mp htarget acceptance hmem)
        (acceptedDeployment_ne_none hhead hmem hdeployedAcceptance)
  | some target =>
      refine ⟨target, rfl, ?_⟩
      obtain ⟨later', found, earlier', hlist', hclient', hlisted, hdeploys', hpassed', hlater'⟩ :=
        target_eq_some hhead htarget
      -- the search ends at `acceptance` or before it, where only the same release is deployed
      have hbefore : found ∈ later ∨ found = acceptance := by
        rcases List.append_eq_append_iff.mp (hlist.symm.trans hlist') with
          ⟨rest, hrest, htail⟩ | ⟨rest, hrest, htail⟩
        · cases rest with
          | nil => exact .inr (List.cons.inj htail).1.symm
          | cons first rest =>
              obtain rfl : acceptance = first := (List.cons.inj htail).1
              exact absurd hdeployedAcceptance (hlater' acceptance (by simp [hrest]))
        · cases rest with
          | nil => exact .inr (List.cons.inj htail).1
          | cons first rest =>
              obtain rfl : found = first := (List.cons.inj htail).1
              exact .inl (by simp [hrest])
      rcases hbefore with hnewer | rfl
      · exact deploys_of_sameRelease hdeploys'
          (hlater found hnewer ⟨hclient', target, hlisted, hdeploys', hpassed'⟩)
      · exact deploys_of_sameRelease hdeploys' hsame

/-! ### What a step changes -/

variable (collate) in
omit [LinearOrder κ] in
theorem ranked_decisions (rows : Table ReleaseReviewDecisionRecord
    ReleaseReviewDecisionRecord.recordId) : Ranked (decisionRank collate) rows.rows := by
  intro a ha b hb h
  have hid : collate a.recordId = collate b.recordId := by
    simpa [decisionRank] using congrArg (fun rank => (ofLex (OrderDual.ofDual rank)).2) h
  exact rows.eq_of_key_eq ha hb (collate.injective hid)

/-- A decision that is recorded last is listed first. -/
theorem listDecisions_merge {store store' : ReleaseStore} {record : ReleaseReviewDecisionRecord}
    (hnew : store.decisions.get record.recordId = none)
    (hlast : ∀ decision ∈ store.decisions.rows, decision.decidedAt < record.decidedAt)
    (h : store'.decisions = store.decisions.merge record) :
    store'.listDecisions collate = record :: store.listDecisions collate := by
  unfold ReleaseStore.listDecisions
  rw [h]
  have hrows : (store.decisions.merge record).rows = store.decisions.rows ++ [record] := by
    show store.decisions.rows.filter _ ++ [record] = _
    rw [List.filter_eq_self.mpr]
    intro decision hdecision
    simpa using Table.get_eq_none.mp hnew decision hdecision
  refine eq_of_pairwise_of_perm ?_ (pairwise_sortedBy _ _) ?_ ?_
  · exact (ranked_decisions collate _).subset fun decision h => (mem_sortedBy _).mp h
  · refine List.pairwise_cons.mpr ⟨?_, pairwise_sortedBy _ _⟩
    intro decision hdecision
    rw [decisionRank, decisionRank, OrderDual.toDual_le_toDual, Prod.Lex.toLex_le_toLex]
    exact .inl (hlast decision ((mem_sortedBy _).mp hdecision))
  · rw [hrows]
    refine (perm_sortedBy _ _).trans ?_
    refine (List.perm_append_comm).trans ?_
    exact (perm_sortedBy (decisionRank collate) store.decisions.rows).symm.cons record

theorem of_liveTemporaryHotfix {store : ReleaseStore} {hotfix : ReleaseReviewDecisionRecord}
    {views : ReleaseReviewDecisionRecord → List ClientReleaseStepStatus}
    (h : liveTemporaryHotfix collate store views = some hotfix) :
    hotfix ∈ store.listDecisions collate ∧ hotfix.decision = .temporaryHotfix ∧
      store.productionVersion = some hotfix.checklist.candidate := by
  unfold liveTemporaryHotfix at h
  dsimp only at h
  split at h
  · cases h
  · rename_i found rest hdrop
    split at h
    · cases h
    · rename_i hfound
      split at h
      · rename_i hlive
        obtain rfl := Option.some.inj h
        rw [not_or, not_not] at hfound
        have hmem : found ∈ found :: rest := List.mem_cons_self
        rw [← hdrop] at hmem
        exact ⟨(List.dropWhile_suffix _).subset hmem, hfound.1, hlive.2⟩
      · cases h

/-- The decision on which a review stands is a stored one. -/
theorem latestDecision_mem {store : ReleaseStore} {request : DecisionRequest}
    {latest : ReleaseReviewDecisionRecord}
    (h : (store.response collate request).review.latestDecision = some latest) :
    latest ∈ store.decisions.rows := by
  have hcurrent (compiled : Option CompiledReview)
      (h : (store.currentReview compiled).latestDecision = some latest) :
      latest ∈ store.decisions.rows := by
    unfold ReleaseStore.currentReview at h
    cases compiled with
    | none => cases h
    | some compiled =>
        dsimp only at h
        split at h
        · cases h
        · have hmem := List.mem_of_head? h
          rw [mem_sortedBy] at hmem
          exact List.mem_of_mem_filter hmem
  unfold ReleaseStore.response at h
  dsimp only at h
  split at h
  · rename_i hotfix hlive
    split at h
    · exact hcurrent _ h
    · have hlisted := (of_liveTemporaryHotfix hlive).1
      rw [← mem_sortedBy (decisionRank collate)]
      show latest ∈ store.listDecisions collate
      cases hlist : store.listDecisions collate with
      | nil =>
          rw [hlist] at hlisted
          cases hlisted
      | cons newest rest =>
          rw [hlist] at h
          obtain rfl := Option.some.inj h
          exact List.mem_cons_self
  · exact hcurrent _ h

/-- The guards leave the checklist of the review. -/
theorem of_decisionGuards {store : ReleaseStore} {request : DecisionRequest}
    {current : ReleaseReviewResponse} {checklist : ReleaseChecklist}
    (h : store.decisionGuards collate request current = .ok checklist) :
    store.decisionAllowed request = true ∧ current.review.checklist = some checklist := by
  unfold ReleaseStore.decisionGuards at h
  simp only [bind_eq_ok, raiseIf_eq_ok] at h
  obtain ⟨-, hallowed, -, -, -, -, -, -, -, -, -, -, -, -, hchecklist⟩ := h
  split at hchecklist
  · cases hchecklist
  · rename_i found hfound
    simp only [bind_eq_ok, raiseIf_eq_ok] at hchecklist
    obtain ⟨-, -, -, -, heq⟩ := hchecklist
    obtain rfl := Except.ok.inj heq
    exact ⟨by simpa using hallowed, hfound⟩

/-- A recorded decision is a new row, when all rows are published; it may also repeat one. -/
theorem write_cases {store store' : ReleaseStore} {request : DecisionRequest}
    (hall : ∀ decision ∈ store.decisions.rows, decision.releaseIssueUrl ≠ "")
    (hdrawn : store.decisions.get ("release-review-" ++ request.drawnRecordId) = none)
    (hok : store.writeReleaseReviewDecision collate request = .ok store') :
    ∃ checklist,
      store.decisionGuards collate request (store.response collate request) = .ok checklist ∧
      ((store' = store ∧ ∃ previous,
          (store.response collate request).review.latestDecision = some previous ∧
            previous.decision = request.envelope.decision) ∨
        store' = { store with
          decisions := store.decisions.merge
            { store.newDecision request (store.response collate request) checklist with
              releaseIssueUrl := request.publishedUrl } }) := by
  unfold ReleaseStore.writeReleaseReviewDecision at hok
  simp only [bind_eq_ok] at hok
  obtain ⟨checklist, hguards, -, -, hrecorded⟩ := hok
  refine ⟨checklist, hguards, ?_⟩
  have hnew : store.recordDecision
      (store.newDecision request (store.response collate request) checklist)
        request.publishedUrl = { store with
          decisions := store.decisions.merge
            { store.newDecision request (store.response collate request) checklist with
              releaseIssueUrl := request.publishedUrl } } := by
    have hget : store.decisions.get (store.newDecision request (store.response collate request)
        checklist).recordId = none := hdrawn
    unfold ReleaseStore.recordDecision
    rw [hget]
    rfl
  rw [hnew] at hrecorded
  split at hrecorded
  · exact .inr (Except.ok.inj hrecorded).symm
  · rename_i previous hlatest
    split at hrecorded
    · rename_i hrepeats
      split at hrecorded
      · rename_i hunpublished
        exact absurd hunpublished (hall previous (latestDecision_mem hlatest))
      · split at hrecorded
        · exact .inl ⟨(Except.ok.inj hrecorded).symm, previous, hlatest,
            (of_decide_eq_true hrepeats).2.1⟩
        · exact .inr (Except.ok.inj hrecorded).symm
    · exact .inr (Except.ok.inj hrecorded).symm

/-- A rejection is made on the checklist of the hotfix that is live. -/
theorem of_rejection {store : ReleaseStore} {request : DecisionRequest}
    {checklist : ReleaseChecklist}
    (hguards : store.decisionGuards collate request (store.response collate request) =
      .ok checklist)
    (h : isHotfixRejection
      (store.newDecision request (store.response collate request) checklist) = true) :
    request.envelope.decision = .changesRequested ∧
      ∃ hotfix, liveTemporaryHotfix collate store request.views = some hotfix ∧
        checklist = hotfix.checklist := by
  obtain ⟨hdecision, hstart⟩ := of_decide_eq_true h
  replace hdecision : request.envelope.decision = .changesRequested := hdecision
  replace hstart : store.decisionReleaseStart request (store.response collate request) =
    .rollback := hstart
  obtain ⟨hallowed, hchecklist⟩ := of_decisionGuards hguards
  refine ⟨hdecision, ?_⟩
  have howner : viewerIsProductOwner store.profile request.githubId = true := by
    simpa [ReleaseStore.decisionAllowed, hdecision] using hallowed
  unfold ReleaseStore.decisionReleaseStart ReleaseStore.response at hstart
  unfold ReleaseStore.response at hchecklist
  cases hlive : liveTemporaryHotfix collate store request.views with
  | none => simp [hdecision, hlive] at hstart
  | some hotfix =>
      refine ⟨hotfix, rfl, ?_⟩
      simpa [hlive, howner] using hchecklist.symm

/-! ### Histories -/

variable (collate) in
/-- What holds in the histories whose rejections are of superseded releases. -/
structure Kept (store : ReleaseStore) : Prop where
  published : ∀ decision ∈ store.decisions.rows, decision.releaseIssueUrl ≠ ""
  superseded : ∀ rejection, (store.listDecisions collate).head? = some rejection →
    isHotfixRejection rejection = true → Superseded collate store rejection.checklist.candidate

/-- Superseding depends on the acceptances, on the profile's driver and on which deployments there
are. -/
theorem Superseded.mono {store store' : ReleaseStore} {candidate : ReleaseVersion}
    (h : Superseded collate store candidate)
    (hlist : store'.listDecisions collate = store.listDecisions collate)
    (howner : store'.profile.ownerGithubId = store.profile.ownerGithubId)
    (hdriver : store'.profile.driverId = store.profile.driverId)
    (hdeployments : store.listProdDeployments collate ⊆ store'.listProdDeployments collate) :
    Superseded collate store' candidate := by
  intro later acceptance earlier hsplit hclient hsame
  rw [hlist] at hsplit
  rw [howner] at hclient
  unfold SameRelease at hsame
  rw [hdriver] at hsame
  obtain ⟨newer, hnewer, ⟨hnewerClient, deployment, hdeployment, hdeploys, hpassed⟩, hother⟩ :=
    h later acceptance earlier hsplit hclient hsame
  refine ⟨newer, hnewer, ⟨howner ▸ hnewerClient, deployment, hdeployments hdeployment, ?_, hpassed⟩,
    ?_⟩
  · unfold deploys at hdeploys ⊢
    rwa [hdriver]
  · unfold SameRelease at hother ⊢
    rwa [hdriver]

theorem superseded_cons {store store' : ReleaseStore} {candidate : ReleaseVersion}
    {record : ReleaseReviewDecisionRecord}
    (hrecord : isClientAcceptance store.profile.ownerGithubId record = false)
    (hlist : store'.listDecisions collate = record :: store.listDecisions collate)
    (hprofile : store'.profile = store.profile)
    (hdeployments : store'.deployments = store.deployments) :
    Superseded collate store' candidate ↔ Superseded collate store candidate := by
  have hprod : store'.listProdDeployments collate = store.listProdDeployments collate := by
    unfold ReleaseStore.listProdDeployments
    rw [hprofile, hdeployments]
  unfold Superseded IsDeployedAcceptance
  rw [hlist, hprofile, hprod]
  constructor
  · intro h later acceptance earlier hsplit hclient hsame
    obtain ⟨newer, hnewer, hdeployed, hother⟩ :=
      h (record :: later) acceptance earlier (by rw [hsplit]; rfl) hclient hsame
    rcases List.mem_cons.mp hnewer with rfl | hnewer
    · exact absurd hdeployed.1 (by simp [hrecord])
    · exact ⟨newer, hnewer, hdeployed, hother⟩
  · intro h later acceptance earlier hsplit hclient hsame
    cases later with
    | nil =>
        obtain rfl := (List.cons.inj hsplit).1
        rw [hrecord] at hclient
        cases hclient
    | cons first later =>
        obtain ⟨newer, hnewer, hdeployed, hother⟩ :=
          h later acceptance earlier (List.cons.inj hsplit).2 hclient hsame
        exact ⟨newer, List.mem_cons_of_mem _ hnewer, hdeployed, hother⟩

/-- With all rows published, a live hotfix is the newest decision. -/
theorem head_of_liveTemporaryHotfix {store : ReleaseStore} {hotfix : ReleaseReviewDecisionRecord}
    {views : ReleaseReviewDecisionRecord → List ClientReleaseStepStatus}
    (hall : ∀ decision ∈ store.decisions.rows, decision.releaseIssueUrl ≠ "")
    (h : liveTemporaryHotfix collate store views = some hotfix) :
    (store.listDecisions collate).head? = some hotfix := by
  have hlisted := (of_liveTemporaryHotfix h).1
  unfold liveTemporaryHotfix at h
  cases hlist : store.listDecisions collate with
  | nil =>
      rw [hlist] at hlisted
      cases hlisted
  | cons newest rest =>
      have hnewest : newest.releaseIssueUrl ≠ "" := by
        refine hall newest ((mem_sortedBy (decisionRank collate)).mp ?_)
        show newest ∈ store.listDecisions collate
        rw [hlist]
        exact List.mem_cons_self
      rw [hlist, List.dropWhile_cons_of_neg (by simp [hnewest])] at h
      dsimp only at h
      split at h
      · cases h
      · split at h
        · exact h
        · cases h

/-- A request for changes to a live hotfix is recorded as its rejection. -/
theorem write_rejection {store store' : ReleaseStore} {request : DecisionRequest}
    {hotfix : ReleaseReviewDecisionRecord}
    (hall : ∀ decision ∈ store.decisions.rows, decision.releaseIssueUrl ≠ "")
    (hdrawn : store.decisions.get ("release-review-" ++ request.drawnRecordId) = none)
    (hok : store.writeReleaseReviewDecision collate request = .ok store')
    (hdecision : request.envelope.decision = .changesRequested)
    (hlive : liveTemporaryHotfix collate store request.views = some hotfix) :
    ∃ rejection, isHotfixRejection rejection = true ∧
      rejection.checklist = hotfix.checklist ∧ rejection.decidedAt = request.now ∧
      store.decisions.get rejection.recordId = none ∧
      store' = { store with decisions := store.decisions.merge rejection } := by
  obtain ⟨checklist, hguards, hcases⟩ := write_cases hall hdrawn hok
  obtain ⟨hallowed, hchecklist⟩ := of_decisionGuards hguards
  have howner : viewerIsProductOwner store.profile request.githubId = true := by
    simpa [ReleaseStore.decisionAllowed, hdecision] using hallowed
  have hhead := head_of_liveTemporaryHotfix hall hlive
  have hhotfix := (of_liveTemporaryHotfix hlive).2.1
  unfold ReleaseStore.response at hchecklist
  simp only [hlive, howner, Bool.not_true, Bool.false_and, Bool.false_eq_true, if_false,
    Option.some.injEq] at hchecklist
  rcases hcases with ⟨-, previous, hlatest, hsame⟩ | hstore
  · -- only the hotfix itself is the latest decision on its review
    unfold ReleaseStore.response at hlatest
    simp only [hlive, howner, Bool.not_true, Bool.false_and, Bool.false_eq_true, if_false, hhead,
      Option.getD_some, Option.some.injEq] at hlatest
    rw [← hlatest, hhotfix, hdecision] at hsame
    cases hsame
  · refine ⟨_, ?_, hchecklist.symm, rfl, hdrawn, hstore⟩
    have hstart : store.decisionReleaseStart request (store.response collate request) =
        .rollback := by
      simp [ReleaseStore.decisionReleaseStart, ReleaseStore.response, hlive, hdecision]
    exact decide_eq_true ⟨hdecision, hstart⟩

theorem Kept.write {store store' : ReleaseStore} {request : DecisionRequest}
    (h : Kept collate store) (hallowed : RejectsSuperseded collate store (.decide request))
    (hdrawn : store.decisions.get ("release-review-" ++ request.drawnRecordId) = none)
    (hpublished : request.publishedUrl ≠ "")
    (hok : store.writeReleaseReviewDecision collate request = .ok store') :
    Kept collate store' := by
  obtain ⟨checklist, hguards, ⟨rfl, -⟩ | rfl⟩ := write_cases h.published hdrawn hok
  · exact h
  · have hlist : ReleaseStore.listDecisions collate { store with
          decisions := store.decisions.merge
            { store.newDecision request (store.response collate request) checklist with
              releaseIssueUrl := request.publishedUrl } } =
        { store.newDecision request (store.response collate request) checklist with
          releaseIssueUrl := request.publishedUrl } :: store.listDecisions collate :=
      listDecisions_merge hdrawn hallowed.1 rfl
    refine ⟨?_, ?_⟩
    · intro decision hdecision
      rcases Table.mem_merge.mp hdecision with ⟨hold, -⟩ | rfl
      · exact h.published decision hold
      · exact hpublished
    · intro rejection hhead hrejection
      rw [hlist] at hhead
      obtain rfl := Option.some.inj hhead
      obtain ⟨hdecision, hotfix, hlive, hchecklist⟩ := of_rejection hguards hrejection
      have hsuperseded := hallowed.2 hdecision hotfix hlive
      rw [← hchecklist] at hsuperseded
      refine (superseded_cons ?_ hlist rfl rfl).mpr hsuperseded
      have hnot : request.envelope.decision ≠ .accepted := by
        rw [hdecision]
        decide
      simp [isClientAcceptance, ReleaseStore.newDecision, hnot]

theorem Kept.edit {store : ReleaseStore} {profile : ProductProfile} (h : Kept collate store)
    (hallowed : RejectsSuperseded collate store (.edit profile))
    (howner : profile.ownerGithubId = store.profile.ownerGithubId) :
    Kept collate { store with profile } := by
  refine ⟨h.published, ?_⟩
  intro rejection hhead hrejection
  obtain ⟨hdriver, hlane⟩ := hallowed ⟨rejection, hhead, hrejection⟩
  refine (h.superseded rejection hhead hrejection).mono rfl howner hdriver ?_
  intro deployment hdeployment
  rw [mem_listProdDeployments, ProductProfile.prodContextName] at hdeployment ⊢
  rwa [hlane]

theorem Kept.deploy {store : ReleaseStore} {deployment : DeploymentRecord}
    {production : String → Option ReleaseVersion} (h : Kept collate store)
    (hdrawn : store.deployments.get deployment.recordId = none) :
    Kept collate { store with deployments := store.deployments.merge deployment, production } := by
  refine ⟨h.published, ?_⟩
  intro rejection hhead hrejection
  refine (h.superseded rejection hhead hrejection).mono rfl rfl rfl ?_
  intro other hother
  obtain ⟨hrow, hlane⟩ := mem_listProdDeployments.mp hother
  exact mem_listProdDeployments.mpr
    ⟨Table.mem_merge.mpr (.inl ⟨hrow, Table.get_eq_none.mp hdrawn other hrow⟩), hlane⟩

theorem Kept.of_reached {store : ReleaseStore}
    (h : Reached collate (RejectsSuperseded collate) store) : Kept collate store := by
  induction h with
  | start hempty =>
      refine ⟨by simp [hempty], ?_⟩
      intro rejection hhead
      have hmem := List.mem_of_head? hhead
      rw [ReleaseStore.listDecisions, mem_sortedBy, hempty] at hmem
      cases hmem
  | step _ hallowed hstep ih =>
      cases hstep with
      | decide hdrawn hpublished hok => exact ih.write hallowed hdrawn hpublished hok
      | edit howner => exact ih.edit hallowed howner
      | deploy hdrawn => exact ih.deploy hdrawn

/-- A hotfix whose release is not superseded becomes its own rollback target. -/
theorem not_targetSound_of_rejection {store store' : ReleaseStore} {request : DecisionRequest}
    {hotfix : ReleaseReviewDecisionRecord}
    (hall : ∀ decision ∈ store.decisions.rows, decision.releaseIssueUrl ≠ "")
    (hlast : ∀ decision ∈ store.decisions.rows, decision.decidedAt < request.now)
    (hstep : Step collate store (.decide request) store')
    (hdecision : request.envelope.decision = .changesRequested)
    (hlive : liveTemporaryHotfix collate store request.views = some hotfix)
    (hdeployed : ∃ deployment ∈ store.listProdDeployments collate,
      deploys store.profile deployment hotfix.checklist.candidate = true ∧
        deploymentRecordPassed deployment = true)
    (hsuperseded : ¬ Superseded collate store hotfix.checklist.candidate) :
    ¬ TargetSound collate store' := by
  cases hstep with
  | decide hdrawn _ hok =>
    obtain ⟨rejection, hrejection, hchecklist, hnow, hnew, rfl⟩ :=
      write_rejection hall hdrawn hok hdecision hlive
    have hlist : ReleaseStore.listDecisions collate
        { store with decisions := store.decisions.merge rejection } =
          rejection :: store.listDecisions collate :=
      listDecisions_merge hnew (hnow ▸ hlast) rfl
    have hhead : (ReleaseStore.listDecisions collate
        { store with decisions := store.decisions.merge rejection }).head? = some rejection := by
      rw [hlist]
      rfl
    have hacceptance : isClientAcceptance store.profile.ownerGithubId rejection = false := by
      simp [isClientAcceptance, (of_decide_eq_true hrejection).1]
    rw [← superseded_cons hacceptance hlist rfl rfl] at hsuperseded
    obtain ⟨target, htarget, hsame⟩ := target_of_not_superseded hhead hsuperseded hdeployed
    intro hsound
    have hproduction := (of_liveTemporaryHotfix hlive).2.2
    rw [← hchecklist] at hproduction hsame
    have hother := (hsound rejection hhead hrejection hproduction target htarget).2.1
    rw [hsame] at hother
    cases hother

/-- **A rejected hotfix is not its own rollback target** in the histories in which a hotfix is
rejected only when its release is superseded. -/
theorem targetSound_of_reached {store : ReleaseStore}
    (h : Reached collate (RejectsSuperseded collate) store) : TargetSound collate store :=
  targetSound_of_superseded (Kept.of_reached h).superseded

end Histories

/-! ### Computed histories -/

section Sample

/-- The ids compared by their characters. -/
private def byCharacters : String ↪ List Char :=
  ⟨String.toList, fun _ _ h => String.toList_injective h⟩

/-- What a step leaves when it can be made. -/
private def perform (store : ReleaseStore) : ReleaseStep → ReleaseStore
  | .decide request =>
    match store.writeReleaseReviewDecision byCharacters request with
    | .ok store' => store'
    | .error _ => store
  | .edit profile => { store with profile }
  | .deploy deployment version left =>
    { store with
      deployments := store.deployments.merge deployment
      production := Function.update store.production deployment.context
        (if deploymentRecordPassed deployment then some version else left) }

/-- Whether a step can be made. -/
private def Possible (store : ReleaseStore) : ReleaseStep → Prop
  | .decide request =>
    store.decisions.get ("release-review-" ++ request.drawnRecordId) = none ∧
      request.publishedUrl ≠ "" ∧
      (store.writeReleaseReviewDecision byCharacters request).toOption.isSome = true
  | .edit profile => profile.ownerGithubId = store.profile.ownerGithubId
  | .deploy deployment version _ =>
    store.deployments.get deployment.recordId = none ∧ deployment.instanceName = "prod" ∧
      (∃ decision ∈ store.decisions.rows,
        decision.decision ∈ [ReleaseDecision.accepted, .temporaryHotfix] ∧
          decision.checklist.candidate = version) ∧
      deploys store.profile deployment version = true

private instance (store : ReleaseStore) : (step : ReleaseStep) → Decidable (Possible store step)
  | .decide _ => inferInstanceAs (Decidable (_ ∧ _ ∧ _))
  | .edit _ => inferInstanceAs (Decidable (_ = _))
  | .deploy .. => inferInstanceAs (Decidable (_ ∧ _ ∧ _ ∧ _))

private theorem step_perform {store : ReleaseStore} {step : ReleaseStep}
    (h : Possible store step) : Step byCharacters store step (perform store step) := by
  cases step with
  | decide request =>
      obtain ⟨hdrawn, hpublished, hsome⟩ := h
      refine .decide hdrawn hpublished ?_
      cases hok : store.writeReleaseReviewDecision byCharacters request with
      | ok store' => simp only [perform, hok]
      | error e => simp [hok, Except.toOption] at hsome
  | edit profile => exact .edit h
  | deploy deployment version left => exact .deploy h.1 h.2.1 h.2.2.1 h.2.2.2

/-- The product of the Client with id 1, whose releases are held. -/
private def sampleProfile : ProductProfile :=
  { product := "site", driverId := "generic-web", ownerGithubId := "1"
    prodContext := some "site-prod" }

private def version (name : String) : ReleaseVersion := { artifactId := name, sourceCommit := name }

private def checklist (production candidate : String) : ReleaseChecklist :=
  { product := "site", ownerGithubId := "1", production := version production
    candidate := version candidate }

/-- A decision on a release, at a time. -/
private def sampleDecision (envelope : DecisionEnvelope) (production candidate : String)
    (now : Nat) : ReleaseStep :=
  .decide
    { envelope, githubId := if envelope.decision = .temporaryHotfix then "2" else "1"
      login := "login", isDirector := envelope.decision = .temporaryHotfix
      compiled := some
        { checklist := checklist production candidate, checklistDigest := envelope.checklistDigest }
      views := fun _ => [.pass, .pass], now, drawnRecordId := toString now
      publishedUrl := "issue" }

/-- A passing deployment of a release. -/
private def sampleDeployment (name : String) (finishedAt : Nat) : ReleaseStep :=
  .deploy
    { recordId := name ++ toString finishedAt, artifactId := some name, context := "site-prod"
      instanceName := "prod", sourceGitRef := name, deploy := .pass, deployFinishedAt := finishedAt }
    (version name) none

/-- The Client accepts and gets `p`. -/
private def acceptedHistory : List ReleaseStep :=
  [sampleDecision { checklistDigest := "p", decision := .accepted } "o" "p" 1,
    sampleDeployment "p" 2]

/-- `x` goes live as a temporary hotfix and is rejected. -/
private def rejectedHotfix : List ReleaseStep :=
  [sampleDecision { checklistDigest := "x", decision := .temporaryHotfix, reason := "down" }
      "p" "x" 4,
    sampleDeployment "x" 5,
    sampleDecision { checklistDigest := "x", decision := .changesRequested, reason := "broken" }
      "p" "x" 6]

/-- The Client has accepted `x`, which is held. -/
private def heldAcceptance : ReleaseStep :=
  sampleDecision { checklistDigest := "x", decision := .accepted } "p" "x" 3

private def sampleStart : ReleaseStore := { profile := sampleProfile }

/-- Every step of a list can be made, and is allowed. -/
private def AllPossible (Allowed : ReleaseStore → ReleaseStep → Prop) :
    ReleaseStore → List ReleaseStep → Prop
  | _, [] => True
  | store, step :: rest =>
    Possible store step ∧ Allowed store step ∧ AllPossible Allowed (perform store step) rest

private theorem reached_of_allPossible {Allowed : ReleaseStore → ReleaseStep → Prop}
    {store : ReleaseStore} {steps : List ReleaseStep} (hreached : Reached byCharacters Allowed store)
    (h : AllPossible Allowed store steps) :
    Reached byCharacters Allowed (steps.foldl perform store) := by
  induction steps generalizing store with
  | nil => exact hreached
  | cons step rest ih =>
      obtain ⟨hpossible, hallowed, hrest⟩ := h
      exact ih (hreached.step hallowed (step_perform hpossible)) hrest

/-- The last step of a history without an acceptance of the rejected release. -/
private theorem superseded_of_forall {store : ReleaseStore} {candidate : ReleaseVersion}
    (h : (store.decisions.rows.all fun decision =>
      !(isClientAcceptance store.profile.ownerGithubId decision &&
        decision.checklist.candidate.artifactId = candidate.artifactId)) = true) :
    Superseded byCharacters store candidate := by
  intro later acceptance earlier hlist hclient hsame
  have hmem : acceptance ∈ store.decisions.rows := by
    rw [← mem_sortedBy (decisionRank byCharacters)]
    show acceptance ∈ store.listDecisions byCharacters
    rw [hlist]
    exact List.mem_append_right _ List.mem_cons_self
  have hnot := List.all_eq_true.mp h acceptance hmem
  simp [hclient, hsame.1] at hnot

private theorem rejectsSuperseded_of_ne {store : ReleaseStore} {request : DecisionRequest}
    (hlast : (store.decisions.rows.all fun decision => decision.decidedAt < request.now) = true)
    (hdecision : request.envelope.decision ≠ .changesRequested) :
    RejectsSuperseded byCharacters store (.decide request) :=
  ⟨fun decision hmem => by simpa using List.all_eq_true.mp hlast decision hmem,
    fun heq => absurd heq hdecision⟩

/-- A hotfix that the Client had not accepted is rolled back to another release. -/
theorem targetSound_of_reached_sample :
    TargetSound byCharacters ((acceptedHistory ++ rejectedHotfix).foldl perform sampleStart) := by
  refine targetSound_of_reached (reached_of_allPossible (.start rfl) ?_)
  refine ⟨by decide +kernel, rejectsSuperseded_of_ne (by decide +kernel) (by decide),
    by decide +kernel, trivial,
    by decide +kernel, rejectsSuperseded_of_ne (by decide +kernel) (by decide),
    by decide +kernel, trivial, by decide +kernel, ⟨?_, ?_⟩, trivial⟩
  · intro decision hmem
    have hlast := List.all_eq_true.mp (show (List.all (Table.rows (ReleaseStore.decisions
      ((acceptedHistory ++ rejectedHotfix.take 2).foldl perform sampleStart)))
        fun decision => decision.decidedAt < 6) = true by decide +kernel) decision hmem
    simpa using hlast
  · intro _ hotfix hlive
    have hcandidate : (liveTemporaryHotfix byCharacters
        ((acceptedHistory ++ rejectedHotfix.take 2).foldl perform sampleStart)
          fun _ => [.pass, .pass]).map (·.checklist.candidate) = some (version "x") := by
      decide +kernel
    rw [show liveTemporaryHotfix byCharacters
        ((acceptedHistory ++ rejectedHotfix.take 2).foldl perform sampleStart)
          (fun _ => [.pass, .pass]) = some hotfix from hlive] at hcandidate
    have hx : hotfix.checklist.candidate = version "x" := Option.some.inj hcandidate
    rw [hx]
    exact superseded_of_forall (by decide +kernel)

/-- The history in which the Client has accepted the hotfix's release. -/
private def heldHistory : ReleaseStore :=
  (acceptedHistory ++ heldAcceptance :: rejectedHotfix).foldl perform sampleStart

/-- A hotfix whose release the Client had accepted is its own target. -/
theorem not_targetSound_heldAcceptance :
    ¬ ∀ store, Reached byCharacters (fun _ _ => True) store → TargetSound byCharacters store := by
  intro h
  have hreached : Reached byCharacters (fun _ _ => True) heldHistory := by
    refine reached_of_allPossible (.start rfl) ?_
    refine ⟨?_, trivial, ?_, trivial, ?_, trivial, ?_, trivial, ?_, trivial, ?_, trivial, trivial⟩
    all_goals decide +kernel
  have hrejection : (heldHistory.listDecisions byCharacters).head?.map (fun rejection =>
      (isHotfixRejection rejection,
        decide (heldHistory.productionVersion = some rejection.checklist.candidate),
        (heldHistory.rejectionRollbackTarget byCharacters (some rejection)).map
          (deploys heldHistory.profile · rejection.checklist.candidate))) =
      some (true, true, some true) := by decide +kernel
  obtain ⟨rejection, hhead, hcomputed⟩ := Option.map_eq_some_iff.mp hrejection
  obtain ⟨hkind, hproduction, htarget⟩ : _ ∧ _ ∧ _ := by simpa using hcomputed
  obtain ⟨target, hfound, hsame⟩ := htarget
  have hother := (h heldHistory hreached rejection hhead hkind hproduction target hfound).2.1
  rw [hsame] at hother
  cases hother

end Sample

end Launchplane.ClientRelease
