import Launchplane.OdooOperation.Record

/-!
# Launchplane.OdooOperation.Steps

**What the store and the worker write.** Each builds the next record of an
operation from one that was read, and writes it without validating it again.

For each of these records there is one lemma that says when it can be read back.
-/

namespace Launchplane.OdooOperation

/-- A reading of the clock. -/
structure Timestamp where
  text : String
  trimmed : pyStrip text = text
  notEmpty : text ≠ ""

theorem Timestamp.pyStrip_ne (at_ : Timestamp) : pyStrip at_.text ≠ "" := by
  rw [at_.trimmed]
  exact at_.notEmpty

/-- `PRODUCTION_WRITE_KEY`. -/
def productionWriteKey : String := "production_write_started"

/-- `odoo_release_wrote_production`. -/
def odooReleaseWroteProduction (record : OperationRecord) : Bool :=
  record.checkpoints.any (·.evidence.get productionWriteKey = some "true")

namespace OperationRecord

/-- The record without its lease. -/
def released (record : OperationRecord) : OperationRecord :=
  { record with leaseOwner := "", leaseExpiresAt := "", heartbeatAt := "" }

/-- What a claim writes. -/
def claimed (record : OperationRecord) (cutoverReconciliation chargeAttempt : Bool)
    (leaseOwner leaseExpiresAt claimedAt : String) : OperationRecord :=
  let claimedRecord : OperationRecord := { record with
    status := .running
    phase := .running
    checkpoints := if record.checkpoints = [] then [] else
      record.checkpoints ++ [{ phase := .running, recordedAt := pyStrip claimedAt }]
    startedAt := if record.startedAt = "" then claimedAt else record.startedAt
    updatedAt := claimedAt
    leaseOwner := pyStrip leaseOwner
    leaseExpiresAt := pyStrip leaseExpiresAt
    heartbeatAt := pyStrip claimedAt
    attempt := record.attempt + chargeAttempt.toNat }
  if cutoverReconciliation then
    { claimedRecord with phase := record.phase, checkpoints := record.checkpoints }
  else claimedRecord

/-- `_release_operation_lease_is_current`. -/
def leaseIsCurrent (record : OperationRecord) (leaseOwner : String) (at_ : Timestamp) : Bool :=
  record.status = .running ∧ record.leaseOwner = pyStrip leaseOwner ∧ record.leaseExpiresAt ≠ "" ∧
    at_.text < record.leaseExpiresAt

/-- What a heartbeat writes. -/
def renewed (record : OperationRecord) (heartbeatAt leaseExpiresAt : Timestamp) : OperationRecord :=
  { record with
    heartbeatAt := heartbeatAt.text
    leaseExpiresAt := leaseExpiresAt.text
    updatedAt := heartbeatAt.text }

/-- What a checkpoint writes. -/
def checkpointed (record : OperationRecord) (phase : OperationPhase) (checkpointedAt : Timestamp)
    (evidence : Dict String String) : OperationRecord :=
  { record with
    phase
    checkpoints := record.checkpoints ++ [{ phase, recordedAt := checkpointedAt.text, evidence }]
    updatedAt := checkpointedAt.text }

/-- Whether an expired operation surely had no effect. -/
def safeToRetry (kind : OperationKind) (record : OperationRecord) : Bool :=
  record.phase ∈ kind.safeRetryPhases ∧
    record.checkpoints.all (·.phase ∈ kind.safeRetryPhases) ∧ !odooReleaseWroteProduction record

/-- What the recovery of an expired lease writes. -/
def recovered (kind : OperationKind) (record : OperationRecord) (now : Timestamp)
    (maxAttempts : Nat) : OperationRecord :=
  if record.safeToRetry kind && decide (record.attempt < maxAttempts) then
    { record.released with
      status := .pending
      phase := .created
      checkpoints := record.checkpoints.filter (·.phase = .created)
      startedAt := ""
      updatedAt := now.text }
  else if record.safeToRetry kind then
    { record.released with
      status := .fail
      phase := .failed
      updatedAt := now.text
      finishedAt := now.text
      errorCode := "operation_attempts_exhausted"
      errorMessage := kind.label ++ " exhausted automatic attempts before any provider " ++
        "effect (phase '" ++ record.phase.text ++ "')." }
  else
    { record.released with
      status := .reconciliationRequired
      updatedAt := now.text
      result := none
      errorCode := "operation_reconciliation_required"
      errorMessage := kind.label ++ " lease expired in phase '" ++ record.phase.text ++
        "'; it may have changed prod. Check the latest prod deployment before " ++
        "releasing the lane." }

end OperationRecord

/-! ### The endings of a run -/

/-- `DurableOperationAuthorizationDeniedError`. -/
structure AuthorizationDenial where
  code : String
  message : String
  deriving Repr, DecidableEq

/-- How `run` ends: with a result, or with one of the exceptions that the endings tell apart. -/
inductive RunOutcome
  | result (result : OperationResult)
  | denied (denial : AuthorizationDenial)
  | businessHoursHeld (message : String)
  | cutoverEntryRefused (message : String)
  | laneMovementRefused (code message : String)
  | error (message : String)
  deriving Repr, DecidableEq

/-- A run of a claimed operation, as it ended. -/
structure ReleaseRun where
  outcome : RunOutcome
  /-- What the authorization guard refused while the run went on. -/
  denial : Option AuthorizationDenial := none
  /-- The answer of `retain_denied_hold`. -/
  retainsDeniedHold : Bool := false
  reconciling : Bool := false
  attemptCharged : Bool := true
  /-- The attempt of the operation as it was claimed. -/
  claimedAttempt : Nat := 0
  leaseOwner : String
  finishedAt : Timestamp

/-- The records that a run may end with. -/
inductive Ending
  | terminal (result : OperationResult)
  | failed (message code : String)
  | deniedHold (code : String)
  | reconciliationHeld (message : String)
  | retriedHeld (message : String)
  | sourceOrderRetry
  | uncertain (message : String)
  deriving Repr, DecidableEq

namespace ReleaseRun

variable (run : ReleaseRun)

/-- The ending of a denial. -/
def endDenied (denial : AuthorizationDenial) : Ending :=
  if run.reconciling || run.retainsDeniedHold then .deniedHold denial.code
  else .failed denial.message denial.code

/-- The ending of any other exception, of which `observed` was read. -/
def endError (sourceOrderUnavailable : Bool) (message : String) (observed : OperationRecord) :
    Ending :=
  match run.denial with
  | some denial =>
      if run.reconciling || run.retainsDeniedHold then .deniedHold denial.code
      else endUndenied
  | none => endUndenied
where
  /-- The exception is not about a denial that has to be held. -/
  endUndenied : Ending :=
    if !run.reconciling && sourceOrderUnavailable && !odooReleaseWroteProduction observed then
      .sourceOrderRetry
    else if run.reconciling || odooReleaseWroteProduction observed then .uncertain message
    else .failed message ""

/-- Which ending `_run_release_operation` takes. -/
def ending (observed : OperationRecord) : Ending :=
  match run.outcome with
  | .result result =>
      match run.denial with
      | some denial => run.endDenied denial
      | none => .terminal result
  | .denied denial => run.endDenied denial
  | .businessHoursHeld message =>
      if run.reconciling then .reconciliationHeld message else .retriedHeld message
  | .cutoverEntryRefused message => .failed message "odoo_cutover_entry_refused"
  | .laneMovementRefused code message =>
      run.endError (code = "source_order_unavailable") message observed
  | .error message => run.endError false message observed

end ReleaseRun

/-- The error code of a result that is not `pass`. -/
def terminalErrorCode (kind : OperationKind) (result : OperationResult) : String :=
  match kind, result.runStatus with
  | .promotion, .fail => "promotion_fail"
  | .promotion, .blocked => "promotion_blocked"
  | .rollback, _ => "rollback_fail"
  | .promotion, .pass => ""

/-- `_release_terminal`, as the operations of a kind call it. -/
def releaseTerminal (kind : OperationKind) (current : OperationRecord) (result : OperationResult)
    (leaseOwner : String) (finishedAt : Timestamp) : OperationRecord :=
  let passed : Bool := result.runStatus = .pass
  { current with
    status := if passed then .pass else .fail
    phase := if passed then .completed else .failed
    updatedAt := finishedAt.text
    finishedAt := finishedAt.text
    leaseOwner
    result := some result
    errorCode := if passed then "" else terminalErrorCode kind result
    errorMessage := if passed then "" else
      if result.errorMessage = "" then kind.label ++ " failed." else result.errorMessage }

/-- `_retry_source_order_read`. -/
def retrySourceOrderRead (operation : OperationRecord) (now : Timestamp) : OperationRecord :=
  { operation.released with
    status := .pending
    phase := if operation.checkpoints = [] then .created else operation.phase
    updatedAt := now.text
    finishedAt := ""
    errorCode := "lane_movement.source_order_unavailable"
    errorMessage := "Source history could not be read; retry before any provider write."
    result := none }

/-- The record that an ending writes over the one that was read for it. -/
def Ending.record (kind : OperationKind) (run : ReleaseRun) (current : OperationRecord) :
    Ending → OperationRecord
  | terminal result => releaseTerminal kind current result run.leaseOwner run.finishedAt
  | failed message code => { current with
      status := .fail
      phase := .failed
      updatedAt := run.finishedAt.text
      finishedAt := run.finishedAt.text
      leaseOwner := run.leaseOwner
      errorCode := code
      errorMessage := if message = "" then kind.label ++ " failed." else message }
  | deniedHold code => { current.released with
      status := .reconciliationRequired
      updatedAt := run.finishedAt.text
      finishedAt := ""
      result := none
      attempt := run.claimedAttempt - run.attemptCharged.toNat
      errorCode := code
      errorMessage :=
        "Unfinished cutover recovery was denied; retain the lane hold without effects." }
  | reconciliationHeld message => { current.released with
      status := .reconciliationRequired
      finishedAt := ""
      errorCode := "business_hours_held"
      errorMessage := message
      attempt := run.claimedAttempt - run.attemptCharged.toNat }
  | retriedHeld message => { retrySourceOrderRead current run.finishedAt with
      errorCode := "business_hours_held"
      errorMessage := message
      attempt := run.claimedAttempt - run.attemptCharged.toNat }
  | sourceOrderRetry => retrySourceOrderRead current run.finishedAt
  | uncertain message => { current.released with
      status := .reconciliationRequired
      updatedAt := run.finishedAt.text
      finishedAt := ""
      result := none
      errorCode := "operation_reconciliation_required"
      errorMessage := kind.label ++
        " may have changed production; reconcile the provider outcome. " ++ message }

/-! ### When what is written can be read -/

/-- A message that is there, but of blanks only. -/
def Blank (message : String) : Prop := message ≠ "" ∧ pyStrip message = ""

instance (message : String) : Decidable (Blank message) := inferInstanceAs (Decidable (_ ∧ _))

/-- When the record of an ending can be read back. -/
def Ending.Sound (current : OperationRecord) : Ending → Prop
  | terminal result => result.runStatus = .pass ∨ ¬Blank result.errorMessage
  | failed message _ => ¬Blank message
  | deniedHold code => pyStrip code ≠ ""
  | reconciliationHeld message => pyStrip message ≠ "" ∧ current.result = none
  | retriedHeld _ | sourceOrderRetry => current.cancellation = none
  | uncertain _ => True

instance (current : OperationRecord) : (ending : Ending) → Decidable (ending.Sound current)
  | .terminal result => inferInstanceAs (Decidable (result.runStatus = .pass ∨ _))
  | .failed message _ => inferInstanceAs (Decidable (¬Blank message))
  | .deniedHold code => inferInstanceAs (Decidable (pyStrip code ≠ ""))
  | .reconciliationHeld message => inferInstanceAs (Decidable (pyStrip message ≠ "" ∧ _))
  | .retriedHeld _ | .sourceOrderRetry =>
      inferInstanceAs (Decidable (current.cancellation = none))
  | .uncertain _ => inferInstanceAs (Decidable True)

theorem pyStrip_append_ne {text rest : String} {c : Char} (hmem : c ∈ text.toList)
    (hc : isPySpace c = false) : pyStrip (text ++ rest) ≠ "" :=
  pyStrip_ne_empty (by rw [String.toList_append]; exact List.mem_append_left _ hmem) hc

theorem label_append_ne (kind : OperationKind) (rest : String) :
    pyStrip (kind.label ++ rest) ≠ "" := by
  have hmem : 'O' ∈ kind.label.toList := by cases kind <;> decide
  exact pyStrip_append_ne hmem (by decide)

section

variable {kind : OperationKind} {record : OperationRecord}

theorem holdsLease_released (record : OperationRecord) : record.released.holdsLease = false := by
  simp only [OperationRecord.holdsLease, OperationRecord.released]
  decide

/-- A record that was read and is written with the parts it had is still in order. -/
theorem PartsOk.keep {written : OperationRecord} (h : PartsOk kind record)
    (hidentity : written.identity = record.identity) (hphase : written.phase ∈ kind.phaseSequence)
    (hcheckpoints : ∀ checkpoint ∈ written.checkpoints, checkpoint ∈ record.checkpoints ∨
      checkpoint.phase ∈ kind.phaseSequence ∧ pyStrip checkpoint.recordedAt = checkpoint.recordedAt ∧
        checkpoint.recordedAt ≠ "")
    (hcancellation : written.cancellation = record.cancellation)
    (hupdated : pyStrip written.updatedAt ≠ "") : PartsOk kind written where
  identity := hidentity ▸ h.identity
  phase := hphase
  checkpoints := by
    intro checkpoint hmem
    rcases hcheckpoints checkpoint hmem with hold | ⟨hin, htrim, hne⟩
    · exact h.checkpoints checkpoint hold
    · unfold OperationCheckpoint.validate
      rw [if_neg (not_not.mpr hin), htrim, if_neg hne]
  cancellation := by
    rw [hcancellation]
    exact h.cancellation
  updatedAt := hupdated

theorem mem_phaseSequence (kind : OperationKind) :
    OperationPhase.created ∈ kind.phaseSequence ∧ OperationPhase.running ∈ kind.phaseSequence ∧
      OperationPhase.completed ∈ kind.phaseSequence ∧ OperationPhase.failed ∈ kind.phaseSequence := by
  cases kind <;> decide

/-- What is claimed can be read when it was not cancelled. -/
theorem readable_claimed (hparts : PartsOk kind record) (hstate : StateOk record)
    (cutoverReconciliation chargeAttempt : Bool) (leaseOwner leaseExpiresAt : String)
    {claimedAt : String} (hat : pyStrip claimedAt ≠ "") :
    Readable kind (record.claimed cutoverReconciliation chargeAttempt leaseOwner leaseExpiresAt
      claimedAt) ↔ record.cancellation = none := by
  cases cutoverReconciliation with
  | false =>
      have hwritten : PartsOk kind
          (record.claimed false chargeAttempt leaseOwner leaseExpiresAt claimedAt) := by
        refine hparts.keep rfl (mem_phaseSequence kind).2.1 ?_ rfl hat
        intro checkpoint hmem
        change checkpoint ∈ (if record.checkpoints = [] then [] else _) at hmem
        split_ifs at hmem with hnone
        · cases hmem
        · rcases List.mem_append.mp hmem with hold | hnew
          · exact .inl hold
          · cases List.mem_singleton.mp hnew
            exact .inr ⟨(mem_phaseSequence kind).2.1, pyStrip_pyStrip _, hat⟩
      rw [readable_iff hwritten]
      refine and_iff_right fun _ checkpoint hlast => ?_
      change checkpoint ∈ (if record.checkpoints = [] then [] else _).getLast? at hlast
      split_ifs at hlast with hnone
      · cases hlast
      · rw [List.getLast?_concat] at hlast
        cases hlast
        rfl
  | true =>
      have hwritten : PartsOk kind
          (record.claimed true chargeAttempt leaseOwner leaseExpiresAt claimedAt) :=
        hparts.keep rfl hparts.phase (fun _ hmem => .inl hmem) rfl hat
      rw [readable_iff hwritten]
      exact and_iff_right hstate.1

theorem of_failed {p : Prop} (h : OperationPhase.failed.ended = false) : p := absurd h (by decide)

theorem of_completed {p : Prop} (h : OperationPhase.completed.ended = false) : p :=
  absurd h (by decide)

/-- A running record is not cancelled. -/
theorem StateOk.running (h : StateOk record) (hrunning : record.status = .running) :
    record.cancellation = none := by
  have hstatus := h.2
  rwa [hrunning] at hstatus

/-- A running record goes together when it is not cancelled and its phase is that of its latest
checkpoint. -/
theorem stateOk_running (hrunning : record.status = .running) (hcancellation : record.cancellation = none)
    (hphase : record.phase.ended = false →
      ∀ checkpoint ∈ record.checkpoints.getLast?, checkpoint.phase = record.phase) :
    StateOk record := by
  refine ⟨hphase, ?_⟩
  rw [hrunning]
  exact hcancellation

theorem running_of_leaseIsCurrent {leaseOwner : String} {now : Timestamp}
    (h : record.leaseIsCurrent leaseOwner now = true) : record.status = .running := by
  simp only [OperationRecord.leaseIsCurrent, decide_eq_true_eq] at h
  exact h.1

/-- What a heartbeat writes can be read. -/
theorem readable_renewed (hparts : PartsOk kind record) (hstate : StateOk record)
    (hrunning : record.status = .running) (heartbeatAt leaseExpiresAt : Timestamp) :
    Readable kind (record.renewed heartbeatAt leaseExpiresAt) := by
  have hwritten : PartsOk kind (record.renewed heartbeatAt leaseExpiresAt) :=
    hparts.keep rfl hparts.phase (fun _ hmem => .inl hmem) rfl heartbeatAt.pyStrip_ne
  exact (readable_iff hwritten).mpr (stateOk_running hrunning (hstate.running hrunning) hstate.1)

/-- What a checkpoint writes can be read. -/
theorem readable_checkpointed (hparts : PartsOk kind record) (hstate : StateOk record)
    (hrunning : record.status = .running) {phase : OperationPhase}
    (hphase : phase ∈ kind.phaseSequence) (checkpointedAt : Timestamp)
    (evidence : Dict String String) :
    Readable kind (record.checkpointed phase checkpointedAt evidence) := by
  have hwritten : PartsOk kind (record.checkpointed phase checkpointedAt evidence) := by
    refine hparts.keep rfl hphase (fun checkpoint hmem => ?_) rfl checkpointedAt.pyStrip_ne
    rcases List.mem_append.mp hmem with hold | hnew
    · exact .inl hold
    · cases List.mem_singleton.mp hnew
      exact .inr ⟨hphase, checkpointedAt.trimmed, checkpointedAt.notEmpty⟩
  refine (readable_iff hwritten).mpr (stateOk_running hrunning (hstate.running hrunning) ?_)
  intro _ checkpoint hlast
  rw [OperationRecord.checkpointed, List.getLast?_concat] at hlast
  cases hlast
  rfl

/-- What the recovery of a lease writes can be read, unless it holds a record that still has a time
of its end. -/
theorem readable_recovered (hparts : PartsOk kind record) (hstate : StateOk record)
    (hrunning : record.status = .running) (now : Timestamp) (maxAttempts : Nat) :
    Readable kind (record.recovered kind now maxAttempts) ↔
      (record.safeToRetry kind = false → pyStrip record.finishedAt = "") := by
  unfold OperationRecord.recovered
  cases hsafe : record.safeToRetry kind with
  | false =>
      simp only [Bool.false_and, Bool.false_eq_true, if_false, forall_const]
      refine (readable_iff ?_).trans ?_
      · exact hparts.keep rfl hparts.phase (fun _ hmem => .inl hmem) rfl now.pyStrip_ne
      have hcode : pyStrip "operation_reconciliation_required" ≠ "" := by decide
      have hmessage : pyStrip (kind.label ++ " lease expired in phase '" ++ record.phase.text ++
          "'; it may have changed prod. Check the latest prod deployment before " ++
          "releasing the lane.") ≠ "" := by
        simp only [String.append_assoc]
        exact label_append_ne kind _
      exact ⟨fun h => h.2.1, fun h => ⟨hstate.1, h, holdsLease_released record, rfl, hcode, hmessage⟩⟩
  | true =>
      simp only [Bool.true_and, if_true, decide_eq_true_eq, reduceCtorEq, false_imp_iff, iff_true]
      split_ifs with hbudget
      · have hkeep : ∀ checkpoint ∈ record.checkpoints.filter (·.phase = .created),
            checkpoint ∈ record.checkpoints := fun checkpoint hmem => (List.mem_filter.mp hmem).1
        refine (readable_iff ?_).mpr ⟨?_, ?_⟩
        · exact hparts.keep rfl (mem_phaseSequence kind).1
            (fun checkpoint hmem => .inl (hkeep checkpoint hmem)) rfl now.pyStrip_ne
        · intro _ checkpoint hlast
          simpa using (List.mem_filter.mp (List.mem_of_getLast? hlast)).2
        · exact hstate.running hrunning
      · have hmessage : pyStrip (kind.label ++ " exhausted automatic attempts before any provider " ++
            "effect (phase '" ++ record.phase.text ++ "').") ≠ "" := by
          simp only [String.append_assoc]
          exact label_append_ne kind _
        refine (readable_iff ?_).mpr ⟨of_failed, now.pyStrip_ne, hmessage⟩
        exact hparts.keep rfl (mem_phaseSequence kind).2.2.2 (fun _ hmem => .inl hmem) rfl
          now.pyStrip_ne

end

/-! ### The records of the endings -/

section

variable {kind : OperationKind} {current : OperationRecord}

/-- The message that stands for one that is missing is never blank. -/
theorem pyStrip_message (kind : OperationKind) (message : String) :
    pyStrip (if message = "" then kind.label ++ " failed." else message) ≠ "" ↔ ¬Blank message := by
  unfold Blank
  split_ifs with hempty
  · exact iff_of_true (label_append_ne kind _) fun h => h.1 hempty
  · rw [not_and]
    exact ⟨fun h _ => h, fun h => h hempty⟩

theorem readable_releaseTerminal (hparts : PartsOk kind current) (result : OperationResult)
    (leaseOwner : String) (finishedAt : Timestamp) :
    Readable kind (releaseTerminal kind current result leaseOwner finishedAt) ↔
      result.runStatus = .pass ∨ ¬Blank result.errorMessage := by
  have hphase : (if (decide (result.runStatus = .pass)) = true then OperationPhase.completed
      else .failed) ∈ kind.phaseSequence := by
    split_ifs
    · exact (mem_phaseSequence kind).2.2.1
    · exact (mem_phaseSequence kind).2.2.2
  refine (readable_iff ?_).trans ?_
  · exact hparts.keep rfl hphase (fun _ hmem => .inl hmem) rfl finishedAt.pyStrip_ne
  unfold releaseTerminal
  by_cases hpass : result.runStatus = .pass
  · simp only [hpass, decide_true, if_true, true_or, iff_true]
    exact ⟨of_completed, finishedAt.pyStrip_ne, rfl, rfl⟩
  · simp only [hpass, decide_false, Bool.false_eq_true, if_false, false_or]
    rw [← pyStrip_message kind]
    exact ⟨fun h => h.2.2, fun h => ⟨of_failed, finishedAt.pyStrip_ne, h⟩⟩

theorem readable_retrySourceOrderRead (hparts : PartsOk kind current) (hstate : StateOk current)
    (now : Timestamp) (attempt : Nat) (errorCode errorMessage : String) :
    Readable kind { retrySourceOrderRead current now with attempt, errorCode, errorMessage } ↔
      current.cancellation = none := by
  have hphase : (if current.checkpoints = [] then OperationPhase.created else current.phase) ∈
      kind.phaseSequence := by
    split_ifs
    · exact (mem_phaseSequence kind).1
    · exact hparts.phase
  refine (readable_iff ?_).trans (and_iff_right ?_)
  · exact hparts.keep rfl hphase (fun _ hmem => .inl hmem) rfl now.pyStrip_ne
  intro hended checkpoint hlast
  have hsome : current.checkpoints ≠ [] := by
    intro hnone
    change checkpoint ∈ current.checkpoints.getLast? at hlast
    rw [hnone] at hlast
    cases hlast
  change (if current.checkpoints = [] then OperationPhase.created else current.phase).ended = false
    at hended
  change checkpoint.phase = if current.checkpoints = [] then OperationPhase.created else current.phase
  rw [if_neg hsome] at hended ⊢
  exact hstate.1 hended checkpoint hlast

/-- **The record of an ending can be read back when the ending is sound.** -/
theorem readable_ending (hparts : PartsOk kind current) (hstate : StateOk current) (run : ReleaseRun)
    (ending : Ending) : Readable kind (ending.record kind run current) ↔ ending.Sound current := by
  have hfinished := run.finishedAt.pyStrip_ne
  cases ending with
  | terminal result => exact readable_releaseTerminal hparts result _ _
  | failed message code =>
      refine (readable_iff ?_).trans (?_ : _ ↔ ¬Blank message)
      · exact hparts.keep rfl (mem_phaseSequence kind).2.2.2 (fun _ hmem => .inl hmem) rfl hfinished
      rw [← pyStrip_message kind]
      exact ⟨fun h => h.2.2, fun h => ⟨of_failed, hfinished, h⟩⟩
  | deniedHold code =>
      refine (readable_iff ?_).trans ?_
      · exact hparts.keep rfl hparts.phase (fun _ hmem => .inl hmem) rfl hfinished
      have hmessage : pyStrip
          "Unfinished cutover recovery was denied; retain the lane hold without effects." ≠ "" :=
        pyStrip_ne_empty (by decide : 'U' ∈ _) (by decide)
      exact ⟨fun h => h.2.2.2.2.1, fun h => ⟨hstate.1, rfl, holdsLease_released current, rfl, h, hmessage⟩⟩
  | reconciliationHeld message =>
      refine (readable_iff ?_).trans ?_
      · exact hparts.keep rfl hparts.phase (fun _ hmem => .inl hmem) rfl hparts.updatedAt
      have hcode : pyStrip "business_hours_held" ≠ "" := by decide
      exact ⟨fun h => ⟨h.2.2.2.2.2, h.2.2.2.1⟩,
        fun h => ⟨hstate.1, rfl, holdsLease_released current, h.2, hcode, h.1⟩⟩
  | retriedHeld message => exact readable_retrySourceOrderRead hparts hstate _ _ _ _
  | sourceOrderRetry => exact readable_retrySourceOrderRead hparts hstate _ current.attempt _ _
  | uncertain message =>
      have hcode : pyStrip "operation_reconciliation_required" ≠ "" := by decide
      have hmessage : pyStrip (kind.label ++
          " may have changed production; reconcile the provider outcome. " ++ message) ≠ "" := by
        rw [String.append_assoc]
        exact label_append_ne kind _
      refine iff_of_true ((readable_iff ?_).mpr
        ⟨hstate.1, rfl, holdsLease_released current, rfl, hcode, hmessage⟩) trivial
      exact hparts.keep rfl hparts.phase (fun _ hmem => .inl hmem) rfl hfinished

end

end Launchplane.OdooOperation
