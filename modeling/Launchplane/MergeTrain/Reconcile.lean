import Launchplane.MergeTrain.Ledger

/-!
# Launchplane.MergeTrain.Reconcile

**Settling what became of an admission.** A new merge is admitted only when the
last attempt at the same pull request has an outcome that is final. Otherwise the
attempt has to be reconciled first: with a landing that was observed, or with the
observation that the pull request is still open on the same base.

The guard looks at the attempt with the largest number. The two reconciliations
of one pull request look at the admission that the store lists first, which is
the one made last by the clock of the process that made it.
-/

namespace Launchplane.MergeTrain

/-- The landing plan and the pull request whose admissions are listed. -/
structure AdmissionTarget where
  repository : String
  baseBranch : String
  pullRequestNumber : Nat
  landingPlanId : String
  deriving Repr, DecidableEq

namespace Ledger

variable (D : LedgerDigests) (ordinaryPlan : String → Bool)

/-- The admissions of a target, as the store lists them. -/
def admissionsOf (ledger : Ledger) (target : AdmissionTarget) : List MergeAdmissionRecord :=
  ledger.listMergeAdmissionRecords target.repository target.baseBranch target.pullRequestNumber
    target.landingPlanId

/-- `max(existing, key=lambda record: record.attempt_sequence)`. -/
def latestAdmission (ledger : Ledger) (target : AdmissionTarget) : Option MergeAdmissionRecord :=
  (ledger.admissionsOf target).argmax MergeAdmissionRecord.attemptSequence

/-- The guard at the start of `build_proposal`. -/
def requireReconciled (ledger : Ledger) (target : AdmissionTarget) : Except TrainError Unit :=
  match ledger.latestAdmission target with
  | none => .ok ()
  | some latest =>
    match ledger.latestMergeLandingOutcomeRecord latest.admissionId with
    | none => .error (.reconciliationRequired
        "A prior merge admission remains effect-ambiguous and must be reconciled.")
    | some outcome =>
      if outcome.status = .reconcileRequired then .error (.reconciliationRequired
        "A prior merge admission remains effect-ambiguous and must be reconciled.")
      else .ok ()

/-! ### Writing an outcome -/

/-- `create_merge_landing_outcome_record_if_absent`, with nobody else writing in between.
`ordinaryPlan` says of a landing plan row whether it belongs to an ordinary job. -/
def createMergeLandingOutcomeRecordIfAbsent (ledger : Ledger)
    (record : MergeLandingOutcomeRecord) :
    Except TrainError (MergeLandingOutcomeRecord × Bool) × Ledger :=
  if record.reason = .dispatchNotAttempted then
    (.error (.ordinarySessionDenied "dispatch_not_attempted_requires_joined_history"), ledger)
  else match ledger.readMergeAdmissionRecord record.admissionId with
  | .error error => (.error error, ledger)
  | .ok admission =>
    if ordinaryPlan admission.landingPlanRecordId then
      (.error (.ordinarySessionDenied "ordinary_outcome_requires_joined_history"), ledger)
    else match validateMergeLandingOutcomeForAdmission admission record with
    | .error message => (.error (.valueError message), ledger)
    | .ok () =>
      match ledger.latestMergeLandingOutcomeRecord record.admissionId with
      | some prior =>
        if prior.observationSequence = record.observationSequence then
          if prior ≠ record then
            (.error (.valueError "Merge landing outcome observations are append-only."), ledger)
          else (.ok (prior, false), ledger)
        else match validateMergeLandingOutcomeSuccessor prior record with
        | .error message => (.error (.valueError message), ledger)
        | .ok () => ledger.insertMergeLandingOutcomeRecord record
      | none =>
        if record.observationSequence ≠ 1 then
          (.error (.valueError
            "Merge landing outcome reconciliation is missing its predecessor."), ledger)
        else ledger.insertMergeLandingOutcomeRecord record

/-- What `_outcome` builds before it is validated, with nothing observed. -/
def outcomeDraft (ledger : Ledger) (traceId : String) (admission : MergeAdmissionRecord)
    (status : MergeLandingOutcomeStatus) (reason : MergeLandingOutcomeReason)
    (providerEffectAttempted : Bool) (observedAt : Nat) : MergeLandingOutcomeRecord :=
  let previous := ledger.latestMergeLandingOutcomeRecord admission.admissionId
  { admissionId := admission.admissionId
    admissionBindingSha256 := admission.admissionBindingSha256
    attemptId := admission.attemptId
    observationSequence := (previous.map (·.observationSequence + 1)).getD 1
    priorOutcomeId := (previous.map (·.outcomeId)).getD ""
    source := "service:merge-landing-outcome:" ++ traceId
    repository := admission.repository
    baseBranch := admission.baseBranch
    pullRequestNumber := admission.pullRequestNumber
    status
    reason
    providerEffectAttempted
    observedAt }

/-- Validate an outcome and store it. -/
def recordOutcome (ledger : Ledger) (draft : MergeLandingOutcomeRecord) :
    Except TrainError MergeLandingOutcomeRecord × Ledger :=
  match draft.validate D with
  | .error message => (.error (.valueError message), ledger)
  | .ok outcome =>
    let (answer, after) := ledger.createMergeLandingOutcomeRecordIfAbsent ordinaryPlan outcome
    (answer.map Prod.fst, after)

/-! ### The reconciliations -/

/-- What was observed of the pull request and its base. -/
structure Observed where
  baseSha : String
  baseTreeSha : String
  headSha : String
  headTreeSha : String
  at_ : Nat
  deriving Repr, DecidableEq

/-- `record_landed`; `observed` has the landed head. -/
def recordLanded (ledger : Ledger) (traceId : String) (admission : MergeAdmissionRecord)
    (observed : Observed) (mergeCommitSha mergeCommitTreeSha : String)
    (baseContainsMergeCommit providerEffectAttempted : Bool) :
    Except TrainError MergeLandingOutcomeRecord × Ledger :=
  ledger.recordOutcome D ordinaryPlan
    { ledger.outcomeDraft traceId admission .landed .providerAndGitConfirmed
        providerEffectAttempted observed.at_ with
      observedPullRequestHeadSha := observed.headSha
      observedPullRequestHeadTreeSha := observed.headTreeSha
      observedBaseSha := observed.baseSha
      observedBaseTreeSha := observed.baseTreeSha
      mergeCommitSha
      mergeCommitTreeSha
      baseContainsMergeCommit := some baseContainsMergeCommit
      exactLandingConfirmed := baseContainsMergeCommit }

/-- How a landing is refused that follows a rejection. -/
def contradictsRejection : TrainError :=
  .reconciliationRequired "Provider landing evidence contradicts a conclusive rejection outcome."

/-- `reconcile_existing_landed`. -/
def reconcileExistingLanded (ledger : Ledger) (traceId : String) (target : AdmissionTarget)
    (observed : Observed) (mergeCommitSha mergeCommitTreeSha : String)
    (providerEffectAttempted : Bool) : Except TrainError MergeLandingOutcomeRecord × Ledger :=
  match (ledger.admissionsOf target).head? with
  | none => (.error (.reconciliationRequired
      "Observed landing has no preceding immutable merge admission."), ledger)
  | some admission =>
    match ledger.latestMergeLandingOutcomeRecord admission.admissionId with
    | some outcome =>
      match outcome.status with
      | .landed => (.ok outcome, ledger)
      | .rejected => (.error contradictsRejection, ledger)
      | .reconcileRequired => ledger.recordLanded D ordinaryPlan traceId admission observed
          mergeCommitSha mergeCommitTreeSha true providerEffectAttempted
    | none => ledger.recordLanded D ordinaryPlan traceId admission observed mergeCommitSha
        mergeCommitTreeSha true providerEffectAttempted

/-- An outcome of `reconcile_existing_no_effect`. -/
def recordNoEffect (ledger : Ledger) (traceId : String) (admission : MergeAdmissionRecord)
    (observed : Observed) (observedPullRequestState : MergeLandingObservedPullRequestState)
    (status : MergeLandingOutcomeStatus) (reason : MergeLandingOutcomeReason)
    (providerMessage : String) : Except TrainError MergeLandingOutcomeRecord × Ledger :=
  ledger.recordOutcome D ordinaryPlan
    { ledger.outcomeDraft traceId admission status reason true observed.at_ with
      providerMessage
      observedPullRequestState
      observedPullRequestHeadSha := observed.headSha
      observedPullRequestHeadTreeSha := observed.headTreeSha
      observedBaseSha := observed.baseSha
      observedBaseTreeSha := observed.baseTreeSha }

/-- The rejection that `reconcile_existing_no_effect` ends with. -/
def recordRejected (ledger : Ledger) (traceId : String) (admission : MergeAdmissionRecord)
    (observed : Observed) (observedPullRequestState : MergeLandingObservedPullRequestState) :
    Except TrainError (Option MergeLandingOutcomeRecord) × Ledger :=
  let (answer, after) := ledger.recordNoEffect D ordinaryPlan traceId admission observed
    observedPullRequestState .rejected .reconciliationConfirmedNoEffect
    ("Fresh provider observation confirmed the exact pull request remains open " ++
      "and the expected base has not advanced.")
  (answer.map some, after)

/-- `reconcile_existing_no_effect`. -/
def reconcileExistingNoEffect (ledger : Ledger) (traceId : String) (target : AdmissionTarget)
    (observed : Observed) (observedPullRequestState : MergeLandingObservedPullRequestState) :
    Except TrainError (Option MergeLandingOutcomeRecord) × Ledger :=
  match (ledger.admissionsOf target).head? with
  | none => (.ok none, ledger)
  | some admission =>
    match ledger.latestMergeLandingOutcomeRecord admission.admissionId with
    | some outcome =>
      match outcome.status with
      | .rejected => (.ok (some outcome), ledger)
      | .landed => (.error (.reconciliationRequired
          "Open pull request evidence contradicts a landed outcome."), ledger)
      | .reconcileRequired => ledger.recordRejected D ordinaryPlan traceId admission observed
          observedPullRequestState
    | none =>
      match ledger.recordNoEffect D ordinaryPlan traceId admission observed
          observedPullRequestState .reconcileRequired .processInterrupted
          ("Admission existed without a terminal provider observation; exact provider " ++
            "and Git evidence was re-read before no-effect reconciliation.") with
      | (.error error, after) => (.error error, after)
      | (.ok _, after) => after.recordRejected D ordinaryPlan traceId admission observed
          observedPullRequestState

/-! ### What writing an outcome does -/

/-- What the validator keeps of an outcome. -/
theorem validateOutcome_eq_ok {record validated : MergeLandingOutcomeRecord}
    (h : record.validate D = .ok validated) :
    validated.status = record.status ∧ validated.reason = record.reason ∧
      validated.observationSequence = record.observationSequence ∧
      validated.admissionId = pyStrip record.admissionId := by
  simp only [MergeLandingOutcomeRecord.validate, bind_eq_ok] at h
  obtain ⟨-, -, -, -, -, -, repository, -, admissionId, hid, attemptId, -, source, -, binding, -,
    branch, -, head, -, headTree, -, base, -, baseTree, -, merge, -, mergeTree, -, -, -, h⟩ := h
  have hadmission : admissionId = pyStrip record.admissionId := (requireText_eq_ok hid).1
  -- The names come last, and change nothing else.
  unfold MergeLandingOutcomeRecord.checkNames at h
  dsimp only at h
  split at h
  · simp only [bind_eq_ok] at h
    obtain ⟨-, -, -, -, -, -, h⟩ := h
    obtain rfl := Except.ok.inj h
    exact ⟨rfl, rfl, rfl, hadmission⟩
  · simp only [bind_eq_ok] at h
    obtain ⟨-, -, h⟩ := h
    obtain rfl := Except.ok.inj h
    exact ⟨rfl, rfl, rfl, hadmission⟩

variable {D ordinaryPlan}

/-- An outcome that was stored is in the ledger, which keeps its admissions and other outcomes. -/
theorem createOutcome_eq_ok {ledger after : Ledger} {record stored : MergeLandingOutcomeRecord}
    {created : Bool} (hnew : ∀ prior ∈ ledger.latestMergeLandingOutcomeRecord record.admissionId,
      prior.observationSequence < record.observationSequence)
    (h : ledger.createMergeLandingOutcomeRecordIfAbsent ordinaryPlan record =
      (.ok (stored, created), after)) :
    stored = record ∧ after = { ledger with outcomes := record :: ledger.outcomes } := by
  have hinsert : ledger.insertMergeLandingOutcomeRecord record = (.ok (stored, created), after) := by
    unfold createMergeLandingOutcomeRecordIfAbsent at h
    split at h
    · cases h
    · split at h
      · cases h
      · split at h
        · cases h
        · split at h
          · cases h
          · split at h
            next prior hprior =>
              have hlt := hnew prior hprior
              rw [if_neg (by omega)] at h
              split at h
              · cases h
              · exact h
            next =>
              split at h
              · cases h
              · exact h
  obtain ⟨hanswer, hafter, -⟩ | ⟨-, hold⟩ := insertOutcome_cases hinsert
  · cases hanswer
    exact ⟨rfl, hafter⟩
  · -- A record that was there before would be no later than the latest.
    obtain ⟨-, rfl, hmem⟩ := hold stored created rfl
    cases hlatest : ledger.latestMergeLandingOutcomeRecord stored.admissionId with
    | none => exact absurd rfl (latestOutcome_eq_none.mp hlatest stored hmem)
    | some prior =>
        have hlt := hnew prior (by simp [hlatest])
        have hle := (latestOutcome_eq_some hlatest).2.2 stored hmem rfl
        omega

/-- The outcome that was stored last is the latest one. -/
theorem latestOutcome_cons {ledger : Ledger} {record : MergeLandingOutcomeRecord}
    (hnew : ∀ prior ∈ ledger.latestMergeLandingOutcomeRecord record.admissionId,
      prior.observationSequence < record.observationSequence) :
    latestMergeLandingOutcomeRecord { ledger with outcomes := record :: ledger.outcomes }
      record.admissionId = some record := by
  cases hafter : latestMergeLandingOutcomeRecord
      { ledger with outcomes := record :: ledger.outcomes } record.admissionId with
  | none => exact absurd rfl (latestOutcome_eq_none.mp hafter record List.mem_cons_self)
  | some latest =>
      obtain ⟨hmem, hid, hlast⟩ := latestOutcome_eq_some hafter
      obtain rfl | hmem := List.mem_cons.mp hmem
      · rfl
      · have hle := hlast record List.mem_cons_self rfl
        cases hlatest : ledger.latestMergeLandingOutcomeRecord record.admissionId with
        | none => exact absurd hid (latestOutcome_eq_none.mp hlatest latest hmem)
        | some prior =>
            have hlt := hnew prior (by simp [hlatest])
            have hle' := (latestOutcome_eq_some hlatest).2.2 latest hmem hid
            omega

/-- A refused outcome leaves the ledger alone. -/
theorem createOutcome_eq_error {ledger after : Ledger} {record : MergeLandingOutcomeRecord}
    {error : TrainError}
    (h : ledger.createMergeLandingOutcomeRecordIfAbsent ordinaryPlan record =
      (.error error, after)) : after = ledger := by
  have hinsert (hrun : ledger.insertMergeLandingOutcomeRecord record = (.error error, after)) :
      after = ledger := by
    obtain ⟨hanswer, -⟩ | ⟨hsame, -⟩ := insertOutcome_cases hrun
    · cases hanswer
    · exact hsame
  unfold createMergeLandingOutcomeRecordIfAbsent at h
  split at h
  · cases h
    rfl
  · split at h
    · cases h
      rfl
    · split at h
      · cases h
        rfl
      · split at h
        · cases h
          rfl
        · split at h
          · split at h
            · split at h
              · cases h
                rfl
              · cases h
            · split at h
              · cases h
                rfl
              · exact hinsert h
          · split at h
            · cases h
              rfl
            · exact hinsert h

/-- An outcome is recorded for the admission of its draft, or nothing is. -/
theorem recordOutcome_cases {ledger after : Ledger} {draft : MergeLandingOutcomeRecord}
    {answer : Except TrainError MergeLandingOutcomeRecord}
    (hid : pyStrip draft.admissionId = draft.admissionId)
    (hnew : ∀ prior ∈ ledger.latestMergeLandingOutcomeRecord draft.admissionId,
      prior.observationSequence < draft.observationSequence)
    (h : ledger.recordOutcome D ordinaryPlan draft = (answer, after)) :
    (∃ error, answer = .error error) ∧ after = ledger ∨
      ∃ outcome, answer = .ok outcome ∧ outcome.status = draft.status ∧
        outcome.admissionId = draft.admissionId ∧
        after = { ledger with outcomes := outcome :: ledger.outcomes } ∧
        after.latestMergeLandingOutcomeRecord draft.admissionId = some outcome := by
  unfold recordOutcome at h
  split at h
  · cases h
    exact .inl ⟨⟨_, rfl⟩, rfl⟩
  next validated hvalid =>
    obtain ⟨hstatus, -, hsequence, hadmission⟩ := validateOutcome_eq_ok D hvalid
    rw [hid] at hadmission
    cases hcreate : ledger.createMergeLandingOutcomeRecordIfAbsent ordinaryPlan validated with
    | mk created mid =>
        rw [hcreate] at h
        cases created with
        | error error =>
            cases h
            exact .inl ⟨⟨error, rfl⟩, createOutcome_eq_error hcreate⟩
        | ok pair =>
            obtain ⟨stored, created⟩ := pair
            cases h
            rw [← hadmission, ← hsequence] at hnew
            obtain ⟨rfl, rfl⟩ := createOutcome_eq_ok hnew hcreate
            exact .inr ⟨stored, rfl, hstatus, hadmission, rfl, hadmission ▸ latestOutcome_cons hnew⟩

variable (ordinaryPlan) in
/-- The store refuses an outcome in its own words. -/
theorem createOutcome_ne_contradictsRejection (ledger : Ledger)
    (record : MergeLandingOutcomeRecord) :
    (ledger.createMergeLandingOutcomeRecordIfAbsent ordinaryPlan record).1 ≠
      .error contradictsRejection := by
  have hinsert : (ledger.insertMergeLandingOutcomeRecord record).1 ≠
      .error contradictsRejection := by
    unfold insertMergeLandingOutcomeRecord
    split
    · split <;> simp [contradictsRejection]
    · simp
  unfold createMergeLandingOutcomeRecordIfAbsent
  split
  · simp [contradictsRejection]
  split
  next error hread =>
    unfold readMergeAdmissionRecord at hread
    split at hread
    · cases hread
    · cases hread
      simp [contradictsRejection]
  split
  · simp [contradictsRejection]
  split
  · simp [contradictsRejection]
  split
  · split
    · split <;> simp [contradictsRejection]
    · split
      · simp [contradictsRejection]
      · exact hinsert
  · split
    · simp [contradictsRejection]
    · exact hinsert

theorem recordOutcome_ne_contradictsRejection {ledger after : Ledger}
    {draft : MergeLandingOutcomeRecord} :
    ledger.recordOutcome D ordinaryPlan draft ≠ (.error contradictsRejection, after) := by
  intro h
  unfold recordOutcome at h
  split at h
  · simp [contradictsRejection] at h
  next validated _ =>
    have hanswer := createOutcome_ne_contradictsRejection ordinaryPlan ledger validated
    have hmap := congrArg Prod.fst h
    cases hcreate : (ledger.createMergeLandingOutcomeRecordIfAbsent ordinaryPlan validated).1 with
    | ok pair => simp [hcreate, Except.map] at hmap
    | error error =>
        simp only [hcreate, Except.map, Except.error.injEq] at hmap
        exact hanswer (hmap ▸ hcreate)

/-! ### Which admission is settled -/

variable (D) in
/-- A ledger as the store holds it: every record is its own validation, the name of an admission is
unique, and an outcome belongs to an admission. -/
structure Stored (ledger : Ledger) : Prop where
  valid : ∀ row ∈ ledger.admissions, row.validate D = .ok row
  unique : (ledger.admissions.map MergeAdmissionRecord.admissionId).Nodup
  observed : ∀ row ∈ ledger.outcomes, row.validate D = .ok row ∧
    ∃ admission ∈ ledger.admissions, validateMergeLandingOutcomeForAdmission admission row = .ok ()

theorem Stored.pyStrip_admissionId {ledger : Ledger} (h : ledger.Stored D)
    {row : MergeAdmissionRecord} (hrow : row ∈ ledger.admissions) :
    pyStrip row.admissionId = row.admissionId := by
  rw [(MergeAdmissionRecord.normal_of_validate (h.valid row hrow)).named]
  exact pyStrip_digestName (by decide) (D.admission.isSha256_digest _)

theorem Stored.eq_of_admissionId {ledger : Ledger} (h : ledger.Stored D)
    {a b : MergeAdmissionRecord} (ha : a ∈ ledger.admissions) (hb : b ∈ ledger.admissions)
    (hid : a.admissionId = b.admissionId) : a = b :=
  List.inj_on_of_nodup_map h.unique ha hb hid

/-- Of the admissions of a target, the one made last has the largest attempt number. -/
def NewestIsLatest (ledger : Ledger) (target : AdmissionTarget) : Prop :=
  ∀ newest ∈ ledger.admissionsOf target,
    (∀ row ∈ ledger.admissionsOf target, newestFirst newest row) →
      ∀ row ∈ ledger.admissionsOf target, row.attemptSequence ≤ newest.attemptSequence

theorem argmax_cons_of_le {α : Type} (f : α → Nat) {a : α} {rest : List α}
    (h : ∀ b ∈ rest, f b ≤ f a) : (a :: rest).argmax f = some a := by
  classical
  rw [List.argmax_eq_some_iff]
  refine ⟨List.mem_cons_self, fun b hb => ?_, fun b _ _ => by simp⟩
  obtain rfl | hb := List.mem_cons.mp hb
  · exact le_rfl
  · exact h b hb

instance : IsTrans MergeAdmissionRecord newestFirst := ⟨fun _ _ _ hab hbc => le_trans hbc hab⟩

instance : Std.Total newestFirst := ⟨fun _ _ => le_total _ _⟩

theorem pairwise_admissionsOf (ledger : Ledger) (target : AdmissionTarget) :
    (ledger.admissionsOf target).Pairwise newestFirst :=
  List.pairwise_insertionSort _ _

/-- The store lists an admission first that was made last. -/
theorem head_newestFirst {ledger : Ledger} {target : AdmissionTarget}
    {first : MergeAdmissionRecord} {rest : List MergeAdmissionRecord}
    (hlist : ledger.admissionsOf target = first :: rest) :
    ∀ row ∈ ledger.admissionsOf target, newestFirst first row := by
  have hsorted := pairwise_admissionsOf ledger target
  rw [hlist] at hsorted ⊢
  intro row hrow
  obtain rfl | hrow := List.mem_cons.mp hrow
  · exact le_rfl
  · exact (List.pairwise_cons.mp hsorted).1 row hrow

/-- What is listed first is the latest attempt exactly if the clocks agree with the attempts. -/
theorem head_eq_latest_iff {ledger : Ledger} (h : ledger.Stored D) (target : AdmissionTarget) :
    (ledger.admissionsOf target).head? = ledger.latestAdmission target ↔
      ledger.NewestIsLatest target := by
  have hstored : ∀ row ∈ ledger.admissionsOf target, row ∈ ledger.admissions := fun row hrow =>
    (mem_listMergeAdmissionRecords.mp hrow).1
  constructor
  · intro hhead newest hnewest hfirst row hrow
    cases hlist : ledger.admissionsOf target with
    | nil =>
        rw [hlist] at hrow
        exact absurd hrow List.not_mem_nil
    | cons first rest =>
        have hmem : first ∈ ledger.admissionsOf target := hlist ▸ List.mem_cons_self
        -- Both were made last, so they are one.
        have hkeys := le_antisymm (hfirst first hmem) (head_newestFirst hlist newest hnewest)
        have hid : first.admissionId = newest.admissionId :=
          congrArg Prod.snd (toLex.injective hkeys)
        obtain rfl := h.eq_of_admissionId (hstored _ hmem) (hstored _ hnewest) hid
        rw [hlist, List.head?_cons, latestAdmission] at hhead
        exact List.le_of_mem_argmax hrow hhead.symm
  · intro hnewest
    cases hlist : ledger.admissionsOf target with
    | nil => simp [latestAdmission, hlist]
    | cons first rest =>
        have hmem : first ∈ ledger.admissionsOf target := hlist ▸ List.mem_cons_self
        have hlatest := hnewest first hmem (head_newestFirst hlist)
        rw [latestAdmission, hlist, argmax_cons_of_le _ fun row hrow =>
          hlatest row (hlist ▸ List.mem_cons_of_mem _ hrow)]
        rfl

/-- The draft of an outcome follows what was observed before. -/
theorem outcomeDraft_new (ledger : Ledger) (traceId : String) (admission : MergeAdmissionRecord)
    (status : MergeLandingOutcomeStatus) (reason : MergeLandingOutcomeReason) (attempted : Bool)
    (observedAt : Nat) :
    ∀ prior ∈ ledger.latestMergeLandingOutcomeRecord admission.admissionId,
      prior.observationSequence <
        (ledger.outcomeDraft traceId admission status reason attempted
          observedAt).observationSequence := by
  intro prior hprior
  simp only [Option.mem_def] at hprior
  simp [outcomeDraft, hprior]

/-- What recording an observation without effect leaves. -/
theorem recordNoEffect_cases {ledger after : Ledger} {traceId : String}
    {admission : MergeAdmissionRecord} {observed : Observed}
    {state : MergeLandingObservedPullRequestState} {status : MergeLandingOutcomeStatus}
    {reason : MergeLandingOutcomeReason} {message : String}
    {answer : Except TrainError MergeLandingOutcomeRecord}
    (hid : pyStrip admission.admissionId = admission.admissionId)
    (h : ledger.recordNoEffect D ordinaryPlan traceId admission observed state status reason
      message = (answer, after)) :
    (∃ error, answer = .error error) ∧ after = ledger ∨
      ∃ outcome, answer = .ok outcome ∧ outcome.status = status ∧
        outcome.admissionId = admission.admissionId ∧
        after = { ledger with outcomes := outcome :: ledger.outcomes } ∧
        after.latestMergeLandingOutcomeRecord admission.admissionId = some outcome := by
  have hnew := outcomeDraft_new ledger traceId admission status reason true observed.at_
  have hdraft : (ledger.outcomeDraft traceId admission status reason true
      observed.at_).admissionId = admission.admissionId := rfl
  have hstatus : (ledger.outcomeDraft traceId admission status reason true
      observed.at_).status = status := rfl
  unfold recordNoEffect at h
  revert h hnew hdraft hstatus
  generalize ledger.outcomeDraft traceId admission status reason true observed.at_ = draft
  intro h hnew hdraft hstatus
  rw [← hdraft] at hid hnew
  rcases recordOutcome_cases (by exact hid) (by exact hnew) h with
    hrefused | ⟨outcome, hanswer, hsame, hadmission, hafter, hlatest⟩
  · exact .inl hrefused
  · exact .inr ⟨outcome, hanswer, hsame.trans hstatus, hadmission.trans hdraft, hafter,
      hdraft ▸ hlatest⟩

/-- What recording a landing leaves. -/
theorem recordLanded_cases {ledger after : Ledger} {traceId : String}
    {admission : MergeAdmissionRecord} {observed : Observed} {sha treeSha : String}
    {contains attempted : Bool} {answer : Except TrainError MergeLandingOutcomeRecord}
    (hid : pyStrip admission.admissionId = admission.admissionId)
    (h : ledger.recordLanded D ordinaryPlan traceId admission observed sha treeSha contains
      attempted = (answer, after)) :
    (∃ error, answer = .error error) ∧ after = ledger ∨
      ∃ outcome, answer = .ok outcome ∧ outcome.admissionId = admission.admissionId ∧
        after = { ledger with outcomes := outcome :: ledger.outcomes } := by
  have hnew := outcomeDraft_new ledger traceId admission .landed .providerAndGitConfirmed attempted
    observed.at_
  have hdraft : (ledger.outcomeDraft traceId admission .landed .providerAndGitConfirmed attempted
      observed.at_).admissionId = admission.admissionId := rfl
  unfold recordLanded at h
  revert h hnew hdraft
  generalize ledger.outcomeDraft traceId admission .landed .providerAndGitConfirmed attempted
    observed.at_ = draft
  intro h hnew hdraft
  rw [← hdraft] at hid hnew
  rcases recordOutcome_cases (by exact hid) (by exact hnew) h with
    hrefused | ⟨outcome, hanswer, -, hadmission, hafter, -⟩
  · exact .inl hrefused
  · exact .inr ⟨outcome, hanswer, hadmission.trans hdraft, hafter⟩

/-- The rejection is recorded for the admission, or nothing is. -/
theorem recordRejected_cases {ledger after : Ledger} {traceId : String}
    {admission : MergeAdmissionRecord} {observed : Observed}
    {state : MergeLandingObservedPullRequestState}
    {answer : Except TrainError (Option MergeLandingOutcomeRecord)}
    (hid : pyStrip admission.admissionId = admission.admissionId)
    (h : ledger.recordRejected D ordinaryPlan traceId admission observed state =
      (answer, after)) :
    (∃ error, answer = .error error) ∧ after = ledger ∨
      ∃ outcome, answer = .ok (some outcome) ∧ outcome.status = .rejected ∧
        outcome.admissionId = admission.admissionId ∧
        after = { ledger with outcomes := outcome :: ledger.outcomes } ∧
        after.latestMergeLandingOutcomeRecord admission.admissionId = some outcome := by
  unfold recordRejected at h
  generalize hrecord : ledger.recordNoEffect D ordinaryPlan traceId admission observed state
    .rejected .reconciliationConfirmedNoEffect _ = recorded at h
  obtain ⟨stored, mid⟩ := recorded
  cases h
  rcases recordNoEffect_cases hid hrecord with ⟨⟨error, rfl⟩, rfl⟩ | ⟨outcome, rfl, hrest⟩
  · exact .inl ⟨⟨error, rfl⟩, rfl⟩
  · exact .inr ⟨outcome, rfl, hrest⟩

/-! ### What the reconciliations do with the admission listed first -/

/-- What a reconciliation of no effect leaves when `first` is the admission listed first: outcomes of
it are answered and written, and an outcome that is answered is its rejection. -/
structure NoEffectLeaves (first : Option MergeAdmissionRecord) (ledger after : Ledger)
    (answer : Except TrainError (Option MergeLandingOutcomeRecord)) : Prop where
  admissions : after.admissions = ledger.admissions
  written : ∀ outcome ∈ after.outcomes, outcome ∈ ledger.outcomes ∨
    ∃ admission ∈ first, outcome.admissionId = admission.admissionId
  answered : ∀ outcome, answer = .ok (some outcome) →
    ∃ admission ∈ first, outcome.status = .rejected ∧
      outcome.admissionId = admission.admissionId ∧
      after.latestMergeLandingOutcomeRecord admission.admissionId = some outcome

theorem NoEffectLeaves.of_unanswered {first : Option MergeAdmissionRecord} {ledger : Ledger}
    {answer : Except TrainError (Option MergeLandingOutcomeRecord)}
    (h : ∀ outcome, answer ≠ .ok (some outcome)) : NoEffectLeaves first ledger ledger answer where
  admissions := rfl
  written _ hmem := .inl hmem
  answered outcome hanswer := absurd hanswer (h outcome)

/-- The rejection ends the reconciliation, whether or not an interruption was recorded before. -/
theorem NoEffectLeaves.of_recordRejected {ledger mid after : Ledger} {traceId : String}
    {admission : MergeAdmissionRecord} {observed : Observed}
    {state : MergeLandingObservedPullRequestState}
    {answer : Except TrainError (Option MergeLandingOutcomeRecord)}
    (hid : pyStrip admission.admissionId = admission.admissionId)
    (hadmissions : mid.admissions = ledger.admissions)
    (houtcomes : ∀ outcome ∈ mid.outcomes, outcome ∈ ledger.outcomes ∨
      outcome.admissionId = admission.admissionId)
    (hrun : mid.recordRejected D ordinaryPlan traceId admission observed state =
      (answer, after)) : NoEffectLeaves (some admission) ledger after answer := by
  rcases recordRejected_cases hid hrun with
    ⟨⟨error, rfl⟩, rfl⟩ | ⟨outcome, rfl, hstatus, hadmission, rfl, hlatest⟩
  · exact ⟨hadmissions, fun other hmem => (houtcomes other hmem).imp_right
      fun heq => ⟨admission, rfl, heq⟩, fun _ hanswer => by cases hanswer⟩
  · refine ⟨hadmissions, fun other hmem => ?_, fun other hanswer => ?_⟩
    · rcases List.mem_cons.mp hmem with rfl | hmem
      · exact .inr ⟨admission, rfl, hadmission⟩
      · exact (houtcomes other hmem).imp_right fun heq => ⟨admission, rfl, heq⟩
    · obtain rfl := Option.some.inj (Except.ok.inj hanswer)
      exact ⟨admission, rfl, hstatus, hadmission, hlatest⟩

theorem reconcileNoEffect_cases {ledger after : Ledger} {traceId : String} {target : AdmissionTarget}
    {observed : Observed} {state : MergeLandingObservedPullRequestState}
    {answer : Except TrainError (Option MergeLandingOutcomeRecord)} (h : ledger.Stored D)
    (hrun : ledger.reconcileExistingNoEffect D ordinaryPlan traceId target observed state =
      (answer, after)) :
    NoEffectLeaves (ledger.admissionsOf target).head? ledger after answer := by
  unfold reconcileExistingNoEffect at hrun
  cases hhead : (ledger.admissionsOf target).head? with
  | none =>
      rw [hhead] at hrun
      cases hrun
      exact .of_unanswered fun _ hanswer => by cases hanswer
  | some admission =>
      have hid := h.pyStrip_admissionId
        (mem_listMergeAdmissionRecords.mp (List.mem_of_head? hhead)).1
      rw [hhead] at hrun
      dsimp only at hrun
      cases houtcome : ledger.latestMergeLandingOutcomeRecord admission.admissionId with
      | some stored =>
          rw [houtcome] at hrun
          cases hstatus : stored.status with
          | landed =>
              simp only [hstatus] at hrun
              cases hrun
              exact .of_unanswered fun _ hanswer => by cases hanswer
          | rejected =>
              simp only [hstatus] at hrun
              cases hrun
              refine ⟨rfl, fun _ hmem => .inl hmem, fun outcome hanswer => ?_⟩
              obtain rfl := Option.some.inj (Except.ok.inj hanswer)
              exact ⟨admission, rfl, hstatus, (latestOutcome_eq_some houtcome).2.1, houtcome⟩
          | reconcileRequired =>
              -- the rejection follows the outcome that was left open
              simp only [hstatus] at hrun
              exact .of_recordRejected hid rfl (fun _ hmem => .inl hmem) hrun
      | none =>
          -- without an outcome the interruption is recorded first, and may be refused
          rw [houtcome] at hrun
          dsimp only at hrun
          split at hrun
          next error mid hmid =>
            cases hrun
            rcases recordNoEffect_cases hid hmid with ⟨-, rfl⟩ | ⟨outcome, hanswer, -⟩
            · exact .of_unanswered fun _ hanswer => by cases hanswer
            · cases hanswer
          next interrupted mid hmid =>
            rcases recordNoEffect_cases hid hmid with
              ⟨⟨error, hanswer⟩, -⟩ | ⟨outcome, -, -, hadmission, rfl, -⟩
            · cases hanswer
            · refine .of_recordRejected hid ?_ (fun other hmem => ?_) hrun
              · rfl
              · rcases List.mem_cons.mp hmem with rfl | hmem
                · exact .inr hadmission
                · exact .inl hmem

/-- What a reconciliation of a landing leaves when `first` is the admission listed first: outcomes of
it are answered and written, and a landing contradicts a rejection of it alone. -/
structure LandedLeaves (first : Option MergeAdmissionRecord) (ledger after : Ledger)
    (answer : Except TrainError MergeLandingOutcomeRecord) : Prop where
  acts : ∀ outcome, answer = .ok outcome ∨ outcome ∈ after.outcomes ∧ outcome ∉ ledger.outcomes →
    ∃ admission ∈ first, outcome.admissionId = admission.admissionId
  contradicts : answer = .error contradictsRejection →
    ∃ admission ∈ first, ∃ outcome,
      ledger.latestMergeLandingOutcomeRecord admission.admissionId = some outcome ∧
        outcome.status = .rejected

theorem LandedLeaves.of_unwritten {first : Option MergeAdmissionRecord} {ledger : Ledger}
    {answer : Except TrainError MergeLandingOutcomeRecord}
    (hanswered : ∀ outcome, answer = .ok outcome →
      ∃ admission ∈ first, outcome.admissionId = admission.admissionId)
    (hcontradicts : answer = .error contradictsRejection →
      ∃ admission ∈ first, ∃ outcome,
        ledger.latestMergeLandingOutcomeRecord admission.admissionId = some outcome ∧
          outcome.status = .rejected) : LandedLeaves first ledger ledger answer where
  acts outcome hcases := by
    rcases hcases with hanswer | ⟨hmem, hnot⟩
    · exact hanswered outcome hanswer
    · exact absurd hmem hnot
  contradicts := hcontradicts

theorem LandedLeaves.of_recordLanded {ledger after : Ledger} {traceId : String}
    {admission : MergeAdmissionRecord} {observed : Observed} {sha treeSha : String}
    {attempted : Bool} {answer : Except TrainError MergeLandingOutcomeRecord}
    (hid : pyStrip admission.admissionId = admission.admissionId)
    (hrun : ledger.recordLanded D ordinaryPlan traceId admission observed sha treeSha true
      attempted = (answer, after)) : LandedLeaves (some admission) ledger after answer where
  acts outcome hcases := by
    rcases recordLanded_cases hid hrun with ⟨⟨error, rfl⟩, rfl⟩ | ⟨landing, rfl, hadmission, rfl⟩
    · rcases hcases with hanswer | ⟨hmem, hnot⟩
      · cases hanswer
      · exact absurd hmem hnot
    · rcases hcases with hanswer | ⟨hmem, hnot⟩
      · obtain rfl := Except.ok.inj hanswer
        exact ⟨admission, rfl, hadmission⟩
      · rcases List.mem_cons.mp hmem with rfl | hmem
        · exact ⟨admission, rfl, hadmission⟩
        · exact absurd hmem hnot
  contradicts := by
    rintro rfl
    exact absurd hrun recordOutcome_ne_contradictsRejection

theorem reconcileLanded_cases {ledger after : Ledger} {traceId : String} {target : AdmissionTarget}
    {observed : Observed} {sha treeSha : String} {attempted : Bool}
    {answer : Except TrainError MergeLandingOutcomeRecord} (h : ledger.Stored D)
    (hrun : ledger.reconcileExistingLanded D ordinaryPlan traceId target observed sha treeSha
      attempted = (answer, after)) :
    LandedLeaves (ledger.admissionsOf target).head? ledger after answer := by
  unfold reconcileExistingLanded at hrun
  cases hhead : (ledger.admissionsOf target).head? with
  | none =>
      rw [hhead] at hrun
      cases hrun
      exact .of_unwritten (fun _ hanswer => by cases hanswer)
        fun hanswer => by simp [contradictsRejection] at hanswer
  | some admission =>
      have hid := h.pyStrip_admissionId
        (mem_listMergeAdmissionRecords.mp (List.mem_of_head? hhead)).1
      rw [hhead] at hrun
      dsimp only at hrun
      cases houtcome : ledger.latestMergeLandingOutcomeRecord admission.admissionId with
      | none =>
          rw [houtcome] at hrun
          exact .of_recordLanded hid hrun
      | some stored =>
          rw [houtcome] at hrun
          cases hstatus : stored.status with
          | reconcileRequired =>
              simp only [hstatus] at hrun
              exact .of_recordLanded hid hrun
          | landed =>
              simp only [hstatus] at hrun
              cases hrun
              refine .of_unwritten (fun outcome hanswer => ?_) fun hanswer => by cases hanswer
              obtain rfl := Except.ok.inj hanswer
              exact ⟨admission, rfl, (latestOutcome_eq_some houtcome).2.1⟩
          | rejected =>
              simp only [hstatus] at hrun
              cases hrun
              exact .of_unwritten (fun _ hanswer => by cases hanswer)
                fun _ => ⟨admission, rfl, stored, houtcome, hstatus⟩

/-! ### Which attempt is settled -/

section Settling

variable (D ordinaryPlan)

/-- The outcomes that `reconcile_existing_no_effect` answers with or writes belong to the latest
attempt. -/
def NoEffectActs (ledger : Ledger) (target : AdmissionTarget) : Prop :=
  ∀ traceId observed state answer after,
    ledger.reconcileExistingNoEffect D ordinaryPlan traceId target observed state =
      (answer, after) →
    ∀ outcome, answer = .ok (some outcome) ∨ outcome ∈ after.outcomes ∧ outcome ∉ ledger.outcomes →
      ∃ latest ∈ ledger.latestAdmission target, outcome.admissionId = latest.admissionId

/-- The outcomes that `reconcile_existing_landed` answers with or writes belong to the latest
attempt. -/
def LandedActs (ledger : Ledger) (target : AdmissionTarget) : Prop :=
  ∀ traceId observed sha treeSha attempted answer after,
    ledger.reconcileExistingLanded D ordinaryPlan traceId target observed sha treeSha attempted =
      (answer, after) →
    ∀ outcome, answer = .ok outcome ∨ outcome ∈ after.outcomes ∧ outcome ∉ ledger.outcomes →
      ∃ latest ∈ ledger.latestAdmission target, outcome.admissionId = latest.admissionId

/-- When `reconcile_existing_no_effect` answers with an outcome, the next merge is not blocked. -/
def NoEffectSettles (ledger : Ledger) (target : AdmissionTarget) : Prop :=
  ∀ traceId observed state outcome after,
    ledger.reconcileExistingNoEffect D ordinaryPlan traceId target observed state =
      (.ok (some outcome), after) →
    after.requireReconciled target = .ok ()

/-- A landing is said to contradict a rejection only where the latest attempt was rejected. -/
def LandingAgrees (ledger : Ledger) (target : AdmissionTarget) : Prop :=
  ∀ traceId observed sha treeSha attempted after,
    ledger.reconcileExistingLanded D ordinaryPlan traceId target observed sha treeSha attempted =
      (.error contradictsRejection, after) →
    ∃ latest ∈ ledger.latestAdmission target,
      ∃ outcome ∈ ledger.latestMergeLandingOutcomeRecord latest.admissionId,
        outcome.status = .rejected

/-- Whatever became of the admissions. -/
def AnyOutcomes (admissions : List MergeAdmissionRecord) (P : Ledger → Prop) : Prop :=
  ∀ outcomes, Stored D { admissions, outcomes } → P { admissions, outcomes }

/-- The rejection by the provider that is the first outcome of an admission. -/
def providerRejection (admission : MergeAdmissionRecord) : MergeLandingOutcomeRecord :=
  MergeLandingOutcomeRecord.named D
    { admissionId := admission.admissionId
      admissionBindingSha256 := admission.admissionBindingSha256
      attemptId := admission.attemptId
      observationSequence := 1
      source := "service:merge-landing-outcome:trace"
      repository := admission.repository
      baseBranch := admission.baseBranch
      pullRequestNumber := admission.pullRequestNumber
      status := .rejected
      reason := .providerRejected
      providerEffectAttempted := true
      providerConclusiveRejection := true
      providerStatusCode := some 405
      observedAt := admission.createdAt }

/-- The landing that is the first outcome of an admission. -/
def confirmedLanding (admission : MergeAdmissionRecord) : MergeLandingOutcomeRecord :=
  MergeLandingOutcomeRecord.named D
    { admissionId := admission.admissionId
      admissionBindingSha256 := admission.admissionBindingSha256
      attemptId := admission.attemptId
      observationSequence := 1
      source := "service:merge-landing-outcome:trace"
      repository := admission.repository
      baseBranch := admission.baseBranch
      pullRequestNumber := admission.pullRequestNumber
      status := .landed
      reason := .providerAndGitConfirmed
      providerEffectAttempted := true
      observedPullRequestHeadSha := admission.pullRequestHeadSha
      observedPullRequestHeadTreeSha := admission.pullRequestHeadTreeSha
      observedBaseSha := admission.effectiveBaseSha
      observedBaseTreeSha := admission.effectiveBaseTreeSha
      mergeCommitSha := admission.pullRequestHeadSha
      mergeCommitTreeSha := admission.pullRequestHeadTreeSha
      baseContainsMergeCommit := some true
      exactLandingConfirmed := true
      observedAt := admission.createdAt }

end Settling

theorem requiredToken_source : requiredToken "service:merge-landing-outcome:trace" "source" =
    .ok "service:merge-landing-outcome:trace" := by decide +kernel

theorem Stored.of_outcome {admissions : List MergeAdmissionRecord}
    (h : Stored D { admissions }) {admission : MergeAdmissionRecord} (hmem : admission ∈ admissions)
    {outcome : MergeLandingOutcomeRecord} (hvalid : outcome.validate D = .ok outcome)
    (hfits : validateMergeLandingOutcomeForAdmission admission outcome = .ok ()) :
    Stored D { admissions, outcomes := [outcome] } where
  valid := h.valid
  unique := h.unique
  observed row hrow := by
    obtain rfl := List.mem_singleton.mp hrow
    exact ⟨hvalid, admission, hmem, hfits⟩

theorem Stored.of_providerRejection {admissions : List MergeAdmissionRecord}
    (h : Stored D { admissions }) {admission : MergeAdmissionRecord}
    (hmem : admission ∈ admissions) :
    Stored D { admissions, outcomes := [providerRejection D admission] } := by
  have hnormal := MergeAdmissionRecord.normal_of_validate (h.valid admission hmem)
  have hblank : MergeLandingOutcomeRecord.NormalSha "" := .inl rfl
  refine h.of_outcome hmem ?_ ?_
  · exact MergeLandingOutcomeRecord.validate_named hnormal rfl rfl (by simp) rfl rfl rfl
      requiredToken_source rfl rfl hblank hblank hblank hblank hblank hblank ⟨rfl, rfl, rfl⟩
      rfl
  · simp [validateMergeLandingOutcomeForAdmission, providerRejection,
      MergeLandingOutcomeRecord.named, raiseIf]
    rfl

theorem Stored.of_confirmedLanding {admissions : List MergeAdmissionRecord}
    (h : Stored D { admissions }) {admission : MergeAdmissionRecord}
    (hmem : admission ∈ admissions) :
    Stored D { admissions, outcomes := [confirmedLanding D admission] } := by
  have hnormal := MergeAdmissionRecord.normal_of_validate (h.valid admission hmem)
  refine h.of_outcome hmem ?_ ?_
  · refine MergeLandingOutcomeRecord.validate_named hnormal rfl rfl (by simp) rfl rfl rfl
      requiredToken_source rfl rfl (.inr hnormal.pullRequestHeadSha)
      (.inr hnormal.pullRequestHeadTreeSha) (.inr hnormal.effectiveBaseSha)
      (.inr hnormal.effectiveBaseTreeSha) (.inr hnormal.pullRequestHeadSha)
      (.inr hnormal.pullRequestHeadTreeSha) ⟨rfl, rfl, rfl⟩ ?_
    have hgit {sha : String} (hsha : isGitSha sha = true) : sha ≠ "" := isGitSha_ne_empty hsha
    simp [MergeLandingOutcomeRecord.checkStatus, MergeLandingOutcomeRecord.checkLanded,
      MergeLandingOutcomeRecord.gitEvidence, raiseIf, hgit hnormal.pullRequestHeadSha,
      hgit hnormal.pullRequestHeadTreeSha, hgit hnormal.effectiveBaseSha,
      hgit hnormal.effectiveBaseTreeSha]
    rfl
  · simp [validateMergeLandingOutcomeForAdmission, confirmedLanding,
      MergeLandingOutcomeRecord.named, raiseIf]
    rfl

/-- The only outcome of an admission is the latest one. -/
theorem latestOutcome_single (admissions : List MergeAdmissionRecord)
    (outcome : MergeLandingOutcomeRecord) :
    latestMergeLandingOutcomeRecord { admissions, outcomes := [outcome] } outcome.admissionId =
      some outcome := by
  have hnew : ∀ prior ∈ latestMergeLandingOutcomeRecord { admissions, outcomes := [] }
      outcome.admissionId, prior.observationSequence < outcome.observationSequence := by
    intro prior hprior
    simp [latestMergeLandingOutcomeRecord] at hprior
  exact latestOutcome_cons hnew

/-- What stands behind the refusal of the next merge: a latest attempt without an outcome. -/
theorem requireReconciled_of_unobserved {ledger : Ledger} {target : AdmissionTarget}
    {latest : MergeAdmissionRecord} (hlatest : ledger.latestAdmission target = some latest)
    (hnone : ledger.latestMergeLandingOutcomeRecord latest.admissionId = none) :
    ledger.requireReconciled target ≠ .ok () := by
  simp [requireReconciled, hlatest, hnone]

section Iff

variable {admissions : List MergeAdmissionRecord} {target : AdmissionTarget}

theorem NoEffectActs.of_newestIsLatest (hnewest : NewestIsLatest { admissions } target) :
    AnyOutcomes D admissions (NoEffectActs D ordinaryPlan · target) := by
  intro outcomes hstored traceId observed state answer after hrun outcome hcases
  have hhead := (head_eq_latest_iff hstored target).mpr hnewest
  obtain ⟨-, hwritten, hanswered⟩ := reconcileNoEffect_cases hstored hrun
  rw [← hhead]
  rcases hcases with hanswer | ⟨hmem, hnot⟩
  · obtain ⟨admission, hadmission, -, hid, -⟩ := hanswered outcome hanswer
    exact ⟨admission, hadmission, hid⟩
  · exact (hwritten outcome hmem).resolve_left hnot

theorem LandedActs.of_newestIsLatest (hnewest : NewestIsLatest { admissions } target) :
    AnyOutcomes D admissions (LandedActs D ordinaryPlan · target) := by
  intro outcomes hstored traceId observed sha treeSha attempted answer after hrun outcome hcases
  have hhead := (head_eq_latest_iff hstored target).mpr hnewest
  rw [← hhead]
  exact (reconcileLanded_cases hstored hrun).acts outcome hcases

theorem NoEffectSettles.of_newestIsLatest (hnewest : NewestIsLatest { admissions } target) :
    AnyOutcomes D admissions (NoEffectSettles D ordinaryPlan · target) := by
  intro outcomes hstored traceId observed state outcome after hrun
  have hhead := (head_eq_latest_iff hstored target).mpr hnewest
  obtain ⟨hsame, -, hanswered⟩ := reconcileNoEffect_cases hstored hrun
  obtain ⟨admission, hadmission, hstatus, -, hlatest⟩ := hanswered outcome rfl
  have hblocking : after.latestAdmission target = some admission := by
    rw [Option.mem_def] at hadmission
    rw [latestAdmission, admissionsOf, listMergeAdmissionRecords, hsame, ← hadmission]
    exact hhead.symm
  simp [requireReconciled, hblocking, hlatest, hstatus]

theorem LandingAgrees.of_newestIsLatest (hnewest : NewestIsLatest { admissions } target) :
    AnyOutcomes D admissions (LandingAgrees D ordinaryPlan · target) := by
  intro outcomes hstored traceId observed sha treeSha attempted after hrun
  have hhead := (head_eq_latest_iff hstored target).mpr hnewest
  rw [← hhead]
  exact (reconcileLanded_cases hstored hrun).contradicts rfl

/-- When the clocks disagree with the attempts, the admission listed first is not the latest
attempt. -/
theorem exists_newer_of_not_newestIsLatest (h : Stored D { admissions })
    (hnot : ¬ NewestIsLatest { admissions } target) :
    ∃ first latest, first ∈ admissions ∧ latest.admissionId ≠ first.admissionId ∧
      ∀ outcomes, (admissionsOf { admissions, outcomes } target).head? = some first ∧
        latestAdmission { admissions, outcomes } target = some latest := by
  have hne := fun heq => hnot ((head_eq_latest_iff h target).mp heq)
  cases hlist : admissionsOf { admissions } target with
  | nil => exact absurd (by simp [latestAdmission, hlist]) hne
  | cons first rest =>
      cases hlatest : latestAdmission { admissions } target with
      | none => simp [latestAdmission, hlist] at hlatest
      | some latest =>
          have hstored {row : MergeAdmissionRecord}
              (hrow : row ∈ admissionsOf { admissions } target) : row ∈ admissions :=
            (mem_listMergeAdmissionRecords.mp hrow).1
          have hfirst := hstored (hlist ▸ List.mem_cons_self)
          refine ⟨first, latest, hfirst, fun hid => hne ?_, fun outcomes => ⟨?_, hlatest⟩⟩
          · rw [hlist, hlatest, List.head?_cons,
              h.eq_of_admissionId (hstored (List.argmax_mem hlatest)) hfirst hid]
          · show (admissionsOf { admissions } target).head? = some first
            rw [hlist, List.head?_cons]

/-- An attempt other than the one observed has no outcome. -/
theorem latestOutcome_other {outcome : MergeLandingOutcomeRecord} {latest : MergeAdmissionRecord}
    (hne : latest.admissionId ≠ outcome.admissionId) :
    latestMergeLandingOutcomeRecord { admissions, outcomes := [outcome] } latest.admissionId =
      none :=
  latestOutcome_eq_none.mpr fun row hrow hid => by
    obtain rfl := List.mem_singleton.mp hrow
    exact hne hid.symm

/-- A rejection of the admission listed first is what the reconciliation of no effect answers with. -/
theorem reconcileNoEffect_providerRejection {first : MergeAdmissionRecord}
    (hhead : (admissionsOf { admissions, outcomes := [providerRejection D first] } target).head? =
      some first) (traceId : String) (observed : Observed)
    (state : MergeLandingObservedPullRequestState) :
    reconcileExistingNoEffect D ordinaryPlan { admissions, outcomes := [providerRejection D first] }
      traceId target observed state =
        (.ok (some (providerRejection D first)),
          { admissions, outcomes := [providerRejection D first] }) := by
  have hlatest := latestOutcome_single admissions (providerRejection D first)
  have hid : (providerRejection D first).admissionId = first.admissionId := rfl
  have hstatus : (providerRejection D first).status = .rejected := rfl
  rw [hid] at hlatest
  simp only [reconcileExistingNoEffect, hhead, hlatest, hstatus]

/-- And it is what a landing contradicts. -/
theorem reconcileLanded_providerRejection {first : MergeAdmissionRecord}
    (hhead : (admissionsOf { admissions, outcomes := [providerRejection D first] } target).head? =
      some first) (traceId : String) (observed : Observed) (sha treeSha : String)
    (attempted : Bool) :
    reconcileExistingLanded D ordinaryPlan { admissions, outcomes := [providerRejection D first] }
      traceId target observed sha treeSha attempted =
        (.error contradictsRejection,
          { admissions, outcomes := [providerRejection D first] }) := by
  have hlatest := latestOutcome_single admissions (providerRejection D first)
  have hid : (providerRejection D first).admissionId = first.admissionId := rfl
  have hstatus : (providerRejection D first).status = .rejected := rfl
  rw [hid] at hlatest
  simp only [reconcileExistingLanded, hhead, hlatest, hstatus]

/-- A landing of the admission listed first is what the reconciliation of a landing answers with. -/
theorem reconcileLanded_confirmedLanding {first : MergeAdmissionRecord}
    (hhead : (admissionsOf { admissions, outcomes := [confirmedLanding D first] } target).head? =
      some first) (traceId : String) (observed : Observed) (sha treeSha : String)
    (attempted : Bool) :
    reconcileExistingLanded D ordinaryPlan { admissions, outcomes := [confirmedLanding D first] }
      traceId target observed sha treeSha attempted =
        (.ok (confirmedLanding D first), { admissions, outcomes := [confirmedLanding D first] }) := by
  have hlatest := latestOutcome_single admissions (confirmedLanding D first)
  have hid : (confirmedLanding D first).admissionId = first.admissionId := rfl
  have hstatus : (confirmedLanding D first).status = .landed := rfl
  rw [hid] at hlatest
  simp only [reconcileExistingLanded, hhead, hlatest, hstatus]

end Iff

/-- A digest, or a Git SHA, of one character. -/
def repeated (length : Nat) (c : Char) : String := String.ofList (List.replicate length c)

/-- Digests by which two attempts have two names. -/
def attemptDigests : LedgerDigests where
  attempt := ⟨fun _ => repeated 64 '0', fun _ => by decide⟩
  admission := ⟨fun record => repeated 64 (if record.attemptSequence = 1 then '1' else '2'),
    fun record => by split <;> decide⟩
  outcome := ⟨fun _ => repeated 64 '3', fun _ => by decide⟩

/-- An attempt at one pull request, made at a time of its own. -/
def attempt (attemptSequence createdAt : Nat) : MergeAdmissionRecord :=
  let binding := repeated 64 (if attemptSequence = 1 then '1' else '2')
  { admissionId := digestName "merge-admission-" binding
    admissionBindingSha256 := binding
    attemptId := digestName "merge-effect-attempt-" (repeated 64 '0')
    attemptSequence, source := "service:merge-admission", repository := "owner/name"
    baseBranch := "main", pullRequestNumber := 7, queuePosition := 1, batchId := "batch"
    candidateRecordId := "candidate", landingPlanRecordId := "plan-record", landingPlanId := "plan"
    mergeMethod := .merge, effectiveBaseSha := repeated 40 'b'
    effectiveBaseTreeSha := repeated 40 'b', pullRequestHeadSha := repeated 40 'a'
    pullRequestHeadTreeSha := repeated 40 'a', candidateSha := repeated 40 'c'
    candidateTreeSha := repeated 40 'c', expectedEffectSha := repeated 40 'c'
    candidateSha256 := repeated 64 'c', structuralProvenanceSha256 := repeated 64 'd'
    landingPlanSha256 := repeated 64 'e'
    readiness :=
      { state := .ready
        target :=
          { repository := "owner/name", pullRequestNumber := 7, baseBranch := "main"
            baseSha := repeated 40 'b', pullRequestHeadSha := repeated 40 'a'
            pullRequestTreeSha := repeated 40 'a', expectedEffectSha := repeated 40 'c'
            queuePosition := 1 }
        candidateSha := repeated 40 'c'
        fence :=
          { controllerKey := "key", observedLeaseOwner := "worker", leaseExpiresAt := some 90 }
        mergeTrainPolicy :=
          { expectedSha256 := repeated 64 'f', currentSha256 := repeated 64 'f' } }
    structuralResult :=
      { status := .exact, reasonCodes := [], effectiveBaseSha := repeated 40 'b'
        effectiveBaseTreeSha := repeated 40 'b', candidateSha256 := repeated 64 'c'
        landingPlanSha256 := repeated 64 'e', provenanceSha256 := repeated 64 'd' }
    admissionAlgorithmVersion := "1", controllerKey := "key", leaseOwner := "worker"
    leaseAcquiredAt := some 1, leaseExpiresAt := some 90, createdAt }

theorem isSha256_repeated {c : Char} (hc : isHexDigit c = true) :
    isSha256 (repeated 64 c) = true := by
  simp [isSha256, repeated, hc]

theorem isGitSha_repeated {c : Char} (hc : isHexDigit c = true) :
    isGitSha (repeated 40 c) = true := by
  simp [isGitSha, repeated, hc]

/-- An attempt is made under its names. -/
theorem checkNames_attempt {attemptSequence : Nat} (hsequence : attemptSequence ≠ 0)
    (createdAt : Nat) :
    (attempt attemptSequence createdAt).checkNames attemptDigests =
      .ok (attempt attemptSequence createdAt) := by
  have hbinding : isSha256 (repeated 64 (if attemptSequence = 1 then '1' else '2')) = true :=
    isSha256_repeated (by split <;> decide)
  have hsha : normalizeGitSha (repeated 40 'c') "expected_effect_sha" = .ok (repeated 40 'c') :=
    normalizeGitSha_of_isGitSha (isGitSha_repeated (by decide)) _
  have hbuild : buildMergeEffectAttemptId attemptDigests "key" "worker" (some 1) "plan" 7 1
      attemptSequence (repeated 40 'c') =
        .ok (digestName "merge-effect-attempt-" (repeated 64 '0')) := by
    have hnumbers : ¬ (7 < 1 ∨ 1 < 1 ∨ attemptSequence < 1) := by omega
    refine guard_eq_ok.mpr ⟨raiseIf_eq_ok.mpr hnumbers, ?_⟩
    refine bind_eq_ok.mpr ⟨_, requiredToken_of_plain "key" (by decide) (by decide) _, ?_⟩
    refine bind_eq_ok.mpr ⟨_, requiredToken_of_plain "worker" (by decide) (by decide) _, ?_⟩
    refine bind_eq_ok.mpr ⟨_, requiredToken_of_plain "plan" (by decide) (by decide) _, ?_⟩
    exact bind_eq_ok.mpr ⟨_, hsha, rfl⟩
  refine bind_eq_ok.mpr ⟨_, hbuild, ?_⟩
  refine guard_eq_ok.mpr ⟨raiseIf_eq_ok.mpr (not_not.mpr rfl), ?_⟩
  have hid : ¬ (pyStrip (attempt attemptSequence createdAt).admissionId ≠ "" ∧
      pyStrip (attempt attemptSequence createdAt).admissionId ≠
        (attempt attemptSequence createdAt).admissionId) :=
    fun h => h.2 (pyStrip_digestName (by decide) hbinding)
  dsimp only
  split
  · exact bind_eq_ok.mpr ⟨_, normalizeSha256_of_isSha256 hbinding _,
      guard_eq_ok.mpr ⟨raiseIf_eq_ok.mpr (not_not.mpr rfl),
        guard_eq_ok.mpr ⟨raiseIf_eq_ok.mpr hid, rfl⟩⟩⟩
  · exact guard_eq_ok.mpr ⟨raiseIf_eq_ok.mpr hid, rfl⟩

/-- An attempt is its own validation. -/
theorem validate_attempt {attemptSequence : Nat} (hsequence : attemptSequence ≠ 0)
    (createdAt : Nat) : (attempt attemptSequence createdAt).validate attemptDigests =
      .ok (attempt attemptSequence createdAt) := by
  have hsha {c : Char} (hc : isHexDigit c = true) (fieldName : String) :
      normalizeGitSha (repeated 40 c) fieldName = .ok (repeated 40 c) :=
    normalizeGitSha_of_isGitSha (isGitSha_repeated hc) fieldName
  have hdigest {c : Char} (hc : isHexDigit c = true) (fieldName : String) :
      normalizeSha256 (repeated 64 c) fieldName = .ok (repeated 64 c) :=
    normalizeSha256_of_isSha256 (isSha256_repeated hc) fieldName
  have hhex : isHexDigit (if attemptSequence = 1 then '1' else '2') = true := by
    split <;> decide
  have hattempt : requiredToken (attempt attemptSequence createdAt).attemptId "attempt_id" =
      .ok (attempt attemptSequence createdAt).attemptId :=
    requiredToken_digestName (by decide) (by decide) (isSha256_repeated (by decide)) _
  have howner : normalizeOwnerName "owner/name" "repository must be non-empty"
      "repository must use owner/name" = .ok "owner/name" := by decide +kernel
  -- The fields, in the order in which they are read.
  refine guard_eq_ok.mpr ⟨raiseIf_eq_ok.mpr hsequence, ?_⟩
  refine guard_eq_ok.mpr ⟨raiseIf_eq_ok.mpr (show ¬ 7 = 0 by decide), ?_⟩
  refine guard_eq_ok.mpr ⟨raiseIf_eq_ok.mpr (show ¬ 1 = 0 by decide), ?_⟩
  refine bind_eq_ok.mpr ⟨_, howner, ?_⟩
  refine bind_eq_ok.mpr ⟨_, hattempt, ?_⟩
  refine bind_eq_ok.mpr ⟨_, requiredToken_of_plain "service:merge-admission" (by decide) (by decide) _,
    ?_⟩
  refine bind_eq_ok.mpr ⟨_, requiredToken_of_plain "main" (by decide) (by decide) _, ?_⟩
  refine bind_eq_ok.mpr ⟨_, requiredToken_of_plain "batch" (by decide) (by decide) _, ?_⟩
  refine bind_eq_ok.mpr ⟨_, requiredToken_of_plain "candidate" (by decide) (by decide) _, ?_⟩
  refine bind_eq_ok.mpr ⟨_, requiredToken_of_plain "plan-record" (by decide) (by decide) _, ?_⟩
  refine bind_eq_ok.mpr ⟨_, requiredToken_of_plain "plan" (by decide) (by decide) _, ?_⟩
  refine bind_eq_ok.mpr ⟨_, requiredToken_of_plain "1" (by decide) (by decide) _, ?_⟩
  refine bind_eq_ok.mpr ⟨_, requiredToken_of_plain "key" (by decide) (by decide) _, ?_⟩
  refine bind_eq_ok.mpr ⟨_, requiredToken_of_plain "worker" (by decide) (by decide) _, ?_⟩
  refine bind_eq_ok.mpr ⟨_, hsha (by decide) _, ?_⟩
  refine bind_eq_ok.mpr ⟨_, hsha (by decide) _, ?_⟩
  refine bind_eq_ok.mpr ⟨_, hsha (by decide) _, ?_⟩
  refine bind_eq_ok.mpr ⟨_, hsha (by decide) _, ?_⟩
  refine bind_eq_ok.mpr ⟨_, hsha (by decide) _, ?_⟩
  refine bind_eq_ok.mpr ⟨_, hsha (by decide) _, ?_⟩
  refine bind_eq_ok.mpr ⟨_, hsha (by decide) _, ?_⟩
  refine bind_eq_ok.mpr ⟨_, hdigest (by decide) _, ?_⟩
  refine bind_eq_ok.mpr ⟨_, hdigest (by decide) _, ?_⟩
  refine bind_eq_ok.mpr ⟨_, hdigest (by decide) _, ?_⟩
  refine guard_eq_ok.mpr ⟨raiseIf_eq_ok.mpr (show ¬ some 1 = none by decide), ?_⟩
  refine guard_eq_ok.mpr ⟨raiseIf_eq_ok.mpr (show ¬ some 90 = none by decide), ?_⟩
  refine guard_eq_ok.mpr ⟨?_, ?_⟩
  · simp [MergeAdmissionRecord.checkEvidence, attempt, raiseIf]
    rfl
  · exact checkNames_attempt hsequence createdAt

/-- The rejected first attempt, and a second one without an outcome, made at the given times. -/
def twoAttempts (first second : Nat) : Ledger :=
  { admissions := [attempt 2 second, attempt 1 first]
    outcomes := [providerRejection attemptDigests (attempt 1 first)] }

/-- The pull request of the two attempts. -/
def twoAttemptsTarget : AdmissionTarget :=
  { repository := "owner/name", baseBranch := "main", pullRequestNumber := 7
    landingPlanId := "plan" }

theorem stored_twoAttempts (first second : Nat) :
    Stored attemptDigests { admissions := [attempt 2 second, attempt 1 first] } where
  valid row hrow := by
    simp only [List.mem_cons, List.not_mem_nil, or_false] at hrow
    obtain rfl | rfl := hrow
    · exact validate_attempt (by decide) second
    · exact validate_attempt (by decide) first
  unique := by
    show [(attempt 2 0).admissionId, (attempt 1 0).admissionId].Nodup
    decide +kernel
  observed _ hrow := absurd hrow List.not_mem_nil

theorem newestIsLatest_twoAttempts :
    NewestIsLatest { admissions := [attempt 2 20, attempt 1 10] } twoAttemptsTarget ∧
      ¬ NewestIsLatest { admissions := [attempt 2 10, attempt 1 20] } twoAttemptsTarget := by
  have hlist : admissionsOf { admissions := [attempt 2 20, attempt 1 10] } twoAttemptsTarget =
      [attempt 2 20, attempt 1 10] := by decide +kernel
  have hcrossed : admissionsOf { admissions := [attempt 2 10, attempt 1 20] } twoAttemptsTarget =
      [attempt 1 20, attempt 2 10] := by decide +kernel
  unfold NewestIsLatest
  rw [hlist, hcrossed]
  constructor <;> decide +kernel

end Ledger

end Launchplane.MergeTrain
