import Launchplane.OdooOperation.Completion

/-!
# Launchplane.OdooOperation.Runs

**Stored operations stay readable**, as long as no step writes what cannot be
read: over every order of claims, heartbeats, checkpoints, recoveries and endings
of any number of workers.

A worker builds the record of an ending from what it read earlier, so a world
remembers all that was read.
-/

namespace Launchplane.OdooOperation

/-! ### The store -/

/-- What a claim decides besides the status of a row: the rows that others have locked, and whether
and how a record is admitted. -/
structure ClaimAdmission where
  locked : OperationRecord → Bool
  admits : OperationRecord → Bool
  chargesAttempt : OperationRecord → Bool

/-- A claim of the next operation. -/
structure ClaimRequest where
  cutoverReconciliation : Bool := false
  admission : ClaimAdmission
  leaseOwner : String
  leaseExpiresAt : String
  claimedAt : String

namespace ClaimRequest

/-- The status of the rows that a claim looks at. -/
def status (claim : ClaimRequest) : OperationStatus :=
  if claim.cutoverReconciliation then .reconciliationRequired else .pending

/-- The record that a claim writes over the one it claims. -/
def write (claim : ClaimRequest) (record : OperationRecord) : OperationRecord :=
  record.claimed claim.cutoverReconciliation (claim.admission.chargesAttempt record)
    claim.leaseOwner claim.leaseExpiresAt claim.claimedAt

/-- Whether a claim reads a row. -/
def visits (claim : ClaimRequest) (row : OperationRecord) : Bool :=
  row.status = claim.status && !claim.admission.locked row

/-- The rows, in the order of their creation, of which the first that is admitted is claimed. -/
def claimRows (kind : OperationKind) (claim : ClaimRequest) :
    List OperationRecord → Except String (List OperationRecord)
  | [] => .ok []
  | row :: rows =>
      if claim.visits row then
        row.validate kind >>= fun record =>
          if claim.admission.admits record then .ok (claim.write record :: rows)
          else (row :: ·) <$> claimRows kind claim rows
      else (row :: ·) <$> claimRows kind claim rows

/-- Whether a claim has the evidence of its lease. -/
def HasLeaseEvidence (claim : ClaimRequest) : Prop :=
  pyStrip claim.leaseOwner ≠ "" ∧ pyStrip claim.leaseExpiresAt ≠ "" ∧ pyStrip claim.claimedAt ≠ ""

instance (claim : ClaimRequest) : Decidable claim.HasLeaseEvidence :=
  inferInstanceAs (Decidable (_ ∧ _ ∧ _))

/-- `_claim_next_release_operation`. -/
def claimNext (kind : OperationKind) (claim : ClaimRequest) (rows : List OperationRecord) :
    Except String (List OperationRecord) := do
  raiseIf (¬claim.HasLeaseEvidence) "Odoo release operation claim requires lease evidence."
  claim.claimRows kind rows

end ClaimRequest

/-- A recovery of expired leases. -/
structure RecoverRequest where
  now : Timestamp
  maxAttempts : Nat
  locked : OperationRecord → Bool
  /-- How the database compares texts. -/
  precedes : String → String → Bool

namespace RecoverRequest

/-- Whether a recovery reads a row. -/
def visits (recover : RecoverRequest) (row : OperationRecord) : Bool :=
  row.status = .running &&
    (row.leaseExpiresAt = "" || recover.precedes row.leaseExpiresAt recover.now.text) &&
    !recover.locked row

/-- A row after a recovery. -/
def recoverRow (kind : OperationKind) (recover : RecoverRequest) (row : OperationRecord) :
    Except String OperationRecord :=
  if recover.visits row then
    (·.recovered kind recover.now recover.maxAttempts) <$> row.validate kind
  else .ok row

/-- `_recover_expired_release_operations`. -/
def recoverRows (kind : OperationKind) (recover : RecoverRequest) (rows : List OperationRecord) :
    Except String (List OperationRecord) := rows.mapM (recover.recoverRow kind)

end RecoverRequest

/-- The row of an operation, rewritten by what `write` makes of the record in it. -/
def updateRow (kind : OperationKind) (operationId : String)
    (write : OperationRecord → Except String (Option OperationRecord)) :
    List OperationRecord → Except String (List OperationRecord)
  | [] => .error operationId
  | row :: rows =>
      if row.identity.operationId = operationId then
        row.validate kind >>= fun record =>
          (fun written => written.getD row :: rows) <$> write record
      else (row :: ·) <$> updateRow kind operationId write rows

/-- `_heartbeat_release_operation`, of the record that was read. -/
def heartbeat (leaseOwner : String) (heartbeatAt leaseExpiresAt : Timestamp)
    (record : OperationRecord) : Except String (Option OperationRecord) :=
  .ok (if record.leaseIsCurrent leaseOwner heartbeatAt then
    some (record.renewed heartbeatAt leaseExpiresAt) else none)

/-- `_checkpoint_release_operation`, of the record that was read. -/
def checkpoint (kind : OperationKind) (leaseOwner : String) (phase : OperationPhase)
    (checkpointedAt : Timestamp) (evidence : Dict String String) (record : OperationRecord) :
    Except String (Option OperationRecord) :=
  if !record.leaseIsCurrent leaseOwner checkpointedAt then .ok none
  else if evidence.get productionWriteKey = some "true" ∧ odooReleaseWroteProduction record then
    .ok none
  else if phase ∉ kind.phaseSequence then .error "tuple.index(x): x not in tuple"
  else if kind.phaseSequence.idxOf phase < kind.phaseSequence.idxOf record.phase then .ok none
  else .ok (some (record.checkpointed phase checkpointedAt evidence))

/-- `_complete_release_operation`, of the record that was read. -/
def complete (terminal : OperationRecord) (leaseOwner : String) (now : Timestamp)
    (record : OperationRecord) : Except String (Option OperationRecord) :=
  .ok (if record.leaseIsCurrent leaseOwner now then some terminal else none)

/-- Whether a worker still has the lease of an operation. -/
def leased (kind : OperationKind) (operationId leaseOwner : String) (now : Timestamp)
    (rows : List OperationRecord) : Bool :=
  (rows.find? (·.identity.operationId = operationId)).any fun row =>
    (row.validate kind).toOption.any (·.leaseIsCurrent leaseOwner now)

/-- A listing of the operations that `selects` picks. -/
def listRows (kind : OperationKind) (selects : OperationRecord → Bool)
    (rows : List OperationRecord) : Except String (List OperationRecord) :=
  (rows.filter selects).mapM (·.validate kind)

/-! ### Worlds -/

/-- The stored operations of one kind, every record that a worker has read, and the rollbacks that
were queued with failed promotions. -/
structure World where
  rows : List OperationRecord
  observed : List OperationRecord := []
  queued : List OperationRecord := []

/-- What happens to the stored operations. -/
inductive Request
  | claim (call : ClaimRequest)
  | heartbeat (operationId leaseOwner : String) (heartbeatAt leaseExpiresAt : Timestamp)
  | checkpoint (operationId leaseOwner : String) (phase : OperationPhase)
      (checkpointedAt : Timestamp) (evidence : Dict String String)
  | recover (call : RecoverRequest)
  /-- A worker reads the record of its operation. -/
  | observe (operationId : String)
  /-- A run completes its ending at `now`, when this is stored of its release. It chose the ending by
  `observed` and built it from `current`, two records that were read before. -/
  | finish (run : ReleaseRun) (release : ReleaseEvidence) (observed current : OperationRecord)
      (now : Timestamp)

namespace Request

/-- What a request does, or why it fails. -/
def perform (kind : OperationKind) (world : World) : Request → Except String World
  | claim call => ({ world with rows := · }) <$> call.claimNext kind world.rows
  | heartbeat operationId leaseOwner heartbeatAt leaseExpiresAt =>
      ({ world with rows := · }) <$> updateRow kind operationId
        (OdooOperation.heartbeat leaseOwner heartbeatAt leaseExpiresAt) world.rows
  | checkpoint operationId leaseOwner phase checkpointedAt evidence =>
      ({ world with rows := · }) <$> updateRow kind operationId
        (OdooOperation.checkpoint kind leaseOwner phase checkpointedAt evidence) world.rows
  | recover call => ({ world with rows := · }) <$> call.recoverRows kind world.rows
  | observe operationId =>
      match world.rows.find? (·.identity.operationId = operationId) with
      | none => .error operationId
      | some row => (fun record => { world with observed := record :: world.observed }) <$>
          row.validate kind
  | finish run release observed current now => do
      raiseIf (observed ∉ world.observed ∨ current ∉ world.observed) "no such record was read"
      let completed ← completion kind release ((run.ending observed).record kind run current)
      let operationId := current.identity.operationId
      -- the rollback is added in the transaction that writes the record
      let rollbacks :=
        if leased kind operationId run.leaseOwner now world.rows then completed.2.toList else []
      ({ world with rows := ·, queued := world.queued ++ rollbacks }) <$> updateRow kind operationId
        (complete completed.1 run.leaseOwner now) world.rows

/-- The world after a request: a request that fails changes nothing. -/
def next (kind : OperationKind) (world : World) (request : Request) : World :=
  (request.perform kind world).toOption.getD world

end Request

/-! ### What a request must not write -/

/-- The record that a claim will claim. -/
def ClaimRequest.target (kind : OperationKind) (claim : ClaimRequest) (rows : List OperationRecord) :
    Option OperationRecord :=
  rows.findSome? fun row =>
    if claim.visits row then
      match row.validate kind with
      | .ok record => if claim.admission.admits record then some record else none
      | .error _ => none
    else none

/-- When a request writes only what can be read: a claim of a held operation finds no cancellation
in it, a lease that expired over a possible effect no time of an end, and a run that ends with its
lease has a sound ending or one that is held instead. -/
def Request.Sound (kind : OperationKind) (world : World) : Request → Prop
  | claim call => call.HasLeaseEvidence →
      ∀ record ∈ call.target kind world.rows, record.cancellation = none
  | heartbeat .. | checkpoint .. | observe _ => True
  | recover call => ∀ row ∈ world.rows, call.visits row → ∀ record,
      row.validate kind = .ok record → record.safeToRetry kind = false →
        pyStrip record.finishedAt = ""
  | finish run release observed current now =>
      observed ∈ world.observed → current ∈ world.observed →
        ∀ row ∈ world.rows.find? (·.identity.operationId = current.identity.operationId),
          ∀ record, row.validate kind = .ok record → record.leaseIsCurrent run.leaseOwner now →
            (run.ending observed).Sound current ∨ (run.ending observed).Held kind release current

/-- All stored operations can be read, the queued rollbacks too. -/
structure World.Legible (kind : OperationKind) (world : World) : Prop where
  rows : ∀ row ∈ world.rows, Readable kind row
  queued : ∀ row ∈ world.queued, Readable .rollback row

/-- What a worker has read is in order. -/
def World.Remembers (kind : OperationKind) (world : World) : Prop :=
  ∀ record ∈ world.observed, PartsOk kind record ∧ StateOk record

/-! ### One request -/

section

variable {kind : OperationKind} {rows : List OperationRecord}

theorem target_cons_of_not_visits {claim : ClaimRequest} {row : OperationRecord}
    (h : claim.visits row = false) :
    claim.target kind (row :: rows) = claim.target kind rows := by
  simp [ClaimRequest.target, h]

theorem target_cons_of_visits {claim : ClaimRequest} {row read : OperationRecord}
    (h : claim.visits row = true) (hread : row.validate kind = .ok read) :
    claim.target kind (row :: rows) =
      if claim.admission.admits read then some read else claim.target kind rows := by
  simp only [ClaimRequest.target, List.findSome?_cons, h, if_true, hread]
  split_ifs <;> rfl

/-- A claim writes over the row of its target, and fails on no row that can be read. -/
theorem claimRows_spec (claim : ClaimRequest) (h : ∀ row ∈ rows, Readable kind row) :
    (claim.target kind rows = none ∧ claim.claimRows kind rows = .ok rows) ∨
    ∃ before row record after, claim.target kind rows = some record ∧ rows = before ++ row :: after ∧
      claim.visits row = true ∧ row.validate kind = .ok record ∧
      claim.claimRows kind rows = .ok (before ++ claim.write record :: after) := by
  induction rows with
  | nil => exact .inl ⟨rfl, rfl⟩
  | cons row rows ih =>
      obtain ⟨read, hread⟩ := h row List.mem_cons_self
      have hrest := ih fun row hmem => h row (List.mem_cons_of_mem _ hmem)
      -- The row is passed over, and the claim goes on with the rest.
      have hpassed (htarget : claim.target kind (row :: rows) = claim.target kind rows)
          (hrows : claim.claimRows kind (row :: rows) = (row :: ·) <$> claim.claimRows kind rows) :
          (claim.target kind (row :: rows) = none ∧
            claim.claimRows kind (row :: rows) = .ok (row :: rows)) ∨
          ∃ before found record after, claim.target kind (row :: rows) = some record ∧
            row :: rows = before ++ found :: after ∧ claim.visits found = true ∧
            found.validate kind = .ok record ∧
            claim.claimRows kind (row :: rows) = .ok (before ++ claim.write record :: after) := by
        rw [htarget, hrows]
        rcases hrest with ⟨hnone, hsame⟩ | ⟨before, found, record, after, hsome, hsplit, hvisits, hvalid, hwritten⟩
        · exact .inl ⟨hnone, by rw [hsame]; rfl⟩
        · refine .inr ⟨row :: before, found, record, after, hsome, ?_, hvisits, hvalid, ?_⟩
          · rw [hsplit]
            rfl
          · rw [hwritten]
            rfl
      by_cases hvisits : claim.visits row = true
      · have htarget : claim.target kind (row :: rows) =
            if claim.admission.admits read then some read else claim.target kind rows :=
          target_cons_of_visits hvisits hread
        by_cases hadmits : claim.admission.admits read = true
        · refine .inr ⟨[], row, read, rows, ?_, rfl, hvisits, hread, ?_⟩
          · rw [htarget, if_pos hadmits]
          · simp [ClaimRequest.claimRows, hvisits, hread, hadmits, bind, Except.bind]
        · refine hpassed ?_ ?_
          · rw [htarget, if_neg hadmits]
          · simp [ClaimRequest.claimRows, hvisits, hread, hadmits, bind, Except.bind]
      · refine hpassed (target_cons_of_not_visits (by simpa using hvisits)) ?_
        simp [ClaimRequest.claimRows, hvisits]

/-- What a claim leaves can be read when it claimed no cancelled record. -/
theorem readable_claimNext {claim : ClaimRequest} (h : ∀ row ∈ rows, Readable kind row) :
    (∀ row ∈ (claim.claimNext kind rows).toOption.getD rows, Readable kind row) ↔
      (claim.HasLeaseEvidence → ∀ record ∈ claim.target kind rows, record.cancellation = none) := by
  by_cases hevidence : claim.HasLeaseEvidence
  · have hguard : raiseIf (¬claim.HasLeaseEvidence)
        "Odoo release operation claim requires lease evidence." = .ok () :=
      raiseIf_eq_ok.mpr (not_not.mpr hevidence)
    have hclaim : claim.claimNext kind rows = claim.claimRows kind rows := by
      simp only [ClaimRequest.claimNext, hguard, bind, Except.bind]
    rw [hclaim, forall_prop_of_true hevidence]
    rcases claimRows_spec claim h with
      ⟨hnone, hsame⟩ | ⟨before, row, record, after, hsome, rfl, -, hvalid, hwritten⟩
    · rw [hsame, hnone]
      exact iff_of_true h (by simp)
    · obtain ⟨hparts, hstate⟩ := ok_of_validate hvalid
      rw [hwritten, hsome]
      change (∀ row ∈ before ++ claim.write record :: after, Readable kind row) ↔ _
      have hwrite : Readable kind (claim.write record) ↔ record.cancellation = none :=
        readable_claimed hparts hstate _ _ _ _ hevidence.2.2
      constructor
      · intro hall found hfound
        cases hfound
        exact hwrite.mp (hall _ (by simp))
      · intro hcancellation found hmem
        rcases List.mem_append.mp hmem with hbefore | hrest
        · exact h found (List.mem_append_left _ hbefore)
        rcases List.mem_cons.mp hrest with rfl | hafter
        · exact hwrite.mpr (hcancellation record rfl)
        · exact h found (List.mem_append_right _ (List.mem_cons_of_mem _ hafter))
  · have hguard : claim.claimNext kind rows =
        .error "Odoo release operation claim requires lease evidence." := by
      simp [ClaimRequest.claimNext, raiseIf, hevidence, bind, Except.bind]
    rw [hguard]
    exact iff_of_true h fun hyes => absurd hyes hevidence

/-- What an update of one row leaves can be read when what it writes can. -/
theorem readable_updateRow {operationId : String}
    {write : OperationRecord → Except String (Option OperationRecord)}
    (h : ∀ row ∈ rows, Readable kind row) :
    (∀ row ∈ (updateRow kind operationId write rows).toOption.getD rows, Readable kind row) ↔
      ∀ row ∈ rows.find? (·.identity.operationId = operationId), ∀ record,
        row.validate kind = .ok record → ∀ written, write record = .ok (some written) →
          Readable kind written := by
  induction rows with
  | nil => simp [updateRow, Except.toOption]
  | cons row rows ih =>
      have hrest := ih fun row hmem => h row (List.mem_cons_of_mem _ hmem)
      by_cases hid : row.identity.operationId = operationId
      · obtain ⟨read, hread⟩ := h row List.mem_cons_self
        have hupdate : updateRow kind operationId write (row :: rows) =
            (fun written => written.getD row :: rows) <$> write read := by
          simp only [updateRow, hid, if_true, hread, bind, Except.bind]
        rw [hupdate, List.find?_cons_of_pos (by simpa using hid)]
        simp only [Option.mem_def, Option.some.injEq, forall_eq', hread, Except.ok.injEq]
        cases hwrite : write read with
        | error message => exact iff_of_true h (by simp)
        | ok written =>
            cases written with
            | none => exact iff_of_true h (by simp)
            | some written =>
                change (∀ row ∈ written :: rows, Readable kind row) ↔ _
                simp only [Except.ok.injEq, Option.some.injEq, forall_eq', List.forall_mem_cons]
                exact and_iff_left fun row hmem => h row (List.mem_cons_of_mem _ hmem)
      · have hupdate : (updateRow kind operationId write (row :: rows)).toOption.getD (row :: rows) =
            row :: (updateRow kind operationId write rows).toOption.getD rows := by
          simp only [updateRow, hid, if_false]
          cases updateRow kind operationId write rows <;> rfl
        rw [hupdate, List.find?_cons_of_neg (by simpa using hid), List.forall_mem_cons, hrest]
        exact and_iff_right (h row List.mem_cons_self)

/-- A recovery fails on no row that can be read, and what it leaves can be read when it holds no
record with a time of its end. -/
theorem recoverRows_spec (recover : RecoverRequest) (h : ∀ row ∈ rows, Readable kind row) :
    ∃ rows', recover.recoverRows kind rows = .ok rows' ∧
      ((∀ row ∈ rows', Readable kind row) ↔ ∀ row ∈ rows, recover.visits row → ∀ record,
        row.validate kind = .ok record → record.safeToRetry kind = false →
          pyStrip record.finishedAt = "") := by
  induction rows with
  | nil => exact ⟨[], rfl, by simp⟩
  | cons row rows ih =>
      obtain ⟨rows', hrows, hiff⟩ := ih fun row hmem => h row (List.mem_cons_of_mem _ hmem)
      obtain ⟨read, hread⟩ := h row List.mem_cons_self
      have hrow : ∃ row', recover.recoverRow kind row = .ok row' ∧
          (Readable kind row' ↔ (recover.visits row → ∀ record, row.validate kind = .ok record →
            record.safeToRetry kind = false → pyStrip record.finishedAt = "")) := by
        unfold RecoverRequest.recoverRow
        by_cases hvisits : recover.visits row = true
        · obtain ⟨hparts, hstate⟩ := ok_of_validate hread
          have hrunning : read.status = .running := by
            have hstatus : row.status = .running := by
              simp only [RecoverRequest.visits, Bool.and_eq_true, decide_eq_true_eq] at hvisits
              exact hvisits.1.1
            rw [status_of_validate hread, hstatus]
          refine ⟨read.recovered kind recover.now recover.maxAttempts, ?_, ?_⟩
          · rw [if_pos hvisits, hread]
            rfl
          · rw [readable_recovered hparts hstate hrunning]
            simp [hvisits, hread]
        · exact ⟨row, if_neg hvisits, iff_of_true ⟨read, hread⟩ fun hyes => absurd hyes hvisits⟩
      obtain ⟨row', hwritten, hreadable⟩ := hrow
      refine ⟨row' :: rows', ?_, ?_⟩
      · simp only [RecoverRequest.recoverRows] at hrows ⊢
        rw [List.mapM_cons, hwritten, hrows]
        rfl
      · rw [List.forall_mem_cons, List.forall_mem_cons, hreadable, hiff]

variable {world : World} {request : Request}

theorem rows_rewritten (world : World) (queued : List OperationRecord)
    (result : Except String (List OperationRecord)) :
    (((fun rows => { world with rows, queued }) <$> result).toOption.getD world).rows =
      result.toOption.getD world.rows := by
  cases result <;> rfl

theorem observed_rewritten (world : World) (queued : List OperationRecord)
    (result : Except String (List OperationRecord)) :
    (((fun rows => { world with rows, queued }) <$> result).toOption.getD world).observed =
      world.observed := by
  cases result <;> rfl

theorem queued_rewritten (world : World) (queued : List OperationRecord)
    (result : Except String (List OperationRecord)) :
    (((fun rows => { world with rows, queued }) <$> result).toOption.getD world).queued =
        world.queued ∨
      (((fun rows => { world with rows, queued }) <$> result).toOption.getD world).queued =
        queued := by
  cases result with
  | error message => exact .inl rfl
  | ok rows => exact .inr rfl

/-- What a run's end does when it has read what it is built from. -/
theorem perform_finish {run : ReleaseRun} (release : ReleaseEvidence)
    {observed current : OperationRecord} {now : Timestamp} (hobserved : world.Remembers kind)
    (hread : observed ∈ world.observed ∧ current ∈ world.observed) :
    ∃ terminal queued, (∀ row ∈ queued, row ∈ world.queued ∨ Readable .rollback row) ∧
      (Readable kind terminal ↔
        (run.ending observed).Sound current ∨ (run.ending observed).Held kind release current) ∧
      (Request.finish run release observed current now).perform kind world =
        ({ world with rows := ·, queued }) <$> updateRow kind current.identity.operationId
          (complete terminal run.leaseOwner now) world.rows := by
  obtain ⟨hparts, hstate⟩ := hobserved current hread.2
  obtain ⟨terminal, recovery, hcompletion, hrollback, hreadable⟩ :=
    completion_spec hparts hstate release run (run.ending observed)
  have hknown : ¬(observed ∉ world.observed ∨ current ∉ world.observed) := by
    simp [hread.1, hread.2]
  refine ⟨terminal, world.queued ++
    if leased kind current.identity.operationId run.leaseOwner now world.rows then recovery.toList
    else [], fun row hmem => ?_, hreadable, ?_⟩
  · rcases List.mem_append.mp hmem with hold | hnew
    · exact .inl hold
    · split_ifs at hnew
      · exact .inr (hrollback row (Option.mem_toList.mp hnew))
      · cases hnew
  · simp only [Request.perform, raiseIf, hknown, if_false, bind, Except.bind, hcompletion]

/-- A worker remembers only records that are in order. -/
theorem remembers_next (hrows : world.Legible kind) (h : world.Remembers kind) :
    (request.next kind world).Remembers kind := by
  unfold World.Remembers Request.next
  cases request with
  | claim call =>
      rw [Request.perform, observed_rewritten]
      exact h
  | heartbeat operationId leaseOwner heartbeatAt leaseExpiresAt =>
      rw [Request.perform, observed_rewritten]
      exact h
  | checkpoint operationId leaseOwner phase checkpointedAt evidence =>
      rw [Request.perform, observed_rewritten]
      exact h
  | recover call =>
      rw [Request.perform, observed_rewritten]
      exact h
  | observe operationId =>
      cases hfound : world.rows.find? (·.identity.operationId = operationId) with
      | none =>
          simp only [Request.perform, hfound]
          exact h
      | some row =>
          obtain ⟨read, hread⟩ := hrows.rows row (List.mem_of_find?_eq_some hfound)
          simp only [Request.perform, hfound, hread]
          intro record hmem
          rcases List.mem_cons.mp hmem with rfl | hold
          · exact ok_of_validate hread
          · exact h record hold
  | finish run release observed current now =>
      by_cases hunread : observed ∉ world.observed ∨ current ∉ world.observed
      · simp only [Request.perform, raiseIf, hunread, if_true, bind, Except.bind]
        exact h
      · rw [not_or, not_not, not_not] at hunread
        obtain ⟨terminal, queued, -, -, hperform⟩ := perform_finish release h hunread
        rw [hperform, observed_rewritten]
        exact h

/-- The queued rollbacks stay readable. -/
theorem readable_queued_next (hrows : world.Legible kind) (hobserved : world.Remembers kind) :
    ∀ row ∈ (request.next kind world).queued, Readable .rollback row := by
  have hsame (result : Except String (List OperationRecord)) :
      ∀ row ∈ (((fun rows => { world with rows }) <$> result).toOption.getD world).queued,
        Readable .rollback row := by
    rcases queued_rewritten world world.queued result with heq | heq
    · rw [heq]
      exact hrows.queued
    · rw [heq]
      exact hrows.queued
  unfold Request.next
  cases request with
  | claim call => exact hsame _
  | heartbeat operationId leaseOwner heartbeatAt leaseExpiresAt => exact hsame _
  | checkpoint operationId leaseOwner phase checkpointedAt evidence => exact hsame _
  | recover call => exact hsame _
  | observe operationId =>
      cases hfound : world.rows.find? (·.identity.operationId = operationId) with
      | none =>
          simp only [Request.perform, hfound]
          exact hrows.queued
      | some row =>
          obtain ⟨read, hread⟩ := hrows.rows row (List.mem_of_find?_eq_some hfound)
          simp only [Request.perform, hfound, hread]
          exact hrows.queued
  | finish run release observed current now =>
      by_cases hunread : observed ∉ world.observed ∨ current ∉ world.observed
      · simp only [Request.perform, raiseIf, hunread, if_true, bind, Except.bind]
        exact hrows.queued
      · rw [not_or, not_not, not_not] at hunread
        obtain ⟨terminal, queued, hqueued, -, hperform⟩ := perform_finish release hobserved hunread
        rw [hperform]
        intro row hmem
        rcases queued_rewritten world queued (updateRow kind current.identity.operationId
          (complete terminal run.leaseOwner now) world.rows) with heq | heq
        · exact hrows.queued row (heq ▸ hmem)
        · rw [heq] at hmem
          exact (hqueued row hmem).elim (hrows.queued row) id

/-- The rows stay readable exactly when the request is sound. -/
theorem readable_rows_next (hrows : world.Legible kind) (hobserved : world.Remembers kind) :
    (∀ row ∈ (request.next kind world).rows, Readable kind row) ↔ request.Sound kind world := by
  unfold Request.next
  cases request with
  | claim call =>
      rw [Request.perform, rows_rewritten]
      exact readable_claimNext hrows.rows
  | heartbeat operationId leaseOwner heartbeatAt leaseExpiresAt =>
      rw [Request.perform, rows_rewritten, readable_updateRow hrows.rows]
      refine iff_of_true (fun row _ record hread written hwritten => ?_) trivial
      obtain ⟨hparts, hstate⟩ := ok_of_validate hread
      simp only [heartbeat, Except.ok.injEq, Option.ite_none_right_eq_some, Option.some.injEq]
        at hwritten
      obtain ⟨hcurrent, rfl⟩ := hwritten
      exact readable_renewed hparts hstate (running_of_leaseIsCurrent hcurrent) _ _
  | checkpoint operationId leaseOwner phase checkpointedAt evidence =>
      rw [Request.perform, rows_rewritten, readable_updateRow hrows.rows]
      refine iff_of_true (fun row _ record hread written hwritten => ?_) trivial
      obtain ⟨hparts, hstate⟩ := ok_of_validate hread
      unfold checkpoint at hwritten
      split_ifs at hwritten with hlost hwrote hphase hback
      all_goals cases hwritten
      exact readable_checkpointed hparts hstate
        (running_of_leaseIsCurrent (by simpa using hlost)) hphase _ _
  | recover call =>
      obtain ⟨rows', hrecovered, hiff⟩ := recoverRows_spec call hrows.rows
      rw [Request.perform, rows_rewritten, hrecovered]
      exact hiff
  | observe operationId =>
      refine iff_of_true ?_ trivial
      cases hfound : world.rows.find? (·.identity.operationId = operationId) with
      | none =>
          simp only [Request.perform, hfound]
          exact hrows.rows
      | some row =>
          obtain ⟨read, hread⟩ := hrows.rows row (List.mem_of_find?_eq_some hfound)
          simp only [Request.perform, hfound, hread]
          exact hrows.rows
  | finish run release observed current now =>
      by_cases hunread : observed ∉ world.observed ∨ current ∉ world.observed
      · simp only [Request.perform, raiseIf, hunread, if_true, bind, Except.bind]
        refine iff_of_true hrows.rows fun hobserved hcurrent => ?_
        exact (hunread.elim (· hobserved) (· hcurrent)).elim
      · rw [not_or, not_not, not_not] at hunread
        obtain ⟨terminal, queued, -, hterminal, hperform⟩ := perform_finish release hobserved hunread
        rw [hperform, rows_rewritten, readable_updateRow hrows.rows]
        simp only [Request.Sound, hunread, forall_const, complete, Except.ok.injEq,
          Option.ite_none_right_eq_some, Option.some.injEq, ← hterminal]
        constructor
        · intro h row hrow record hvalid hlease
          exact h row hrow record hvalid _ ⟨hlease, rfl⟩
        · intro h row hrow record hvalid written hwritten
          exact hwritten.2 ▸ h row hrow record hvalid hwritten.1

/-- **A request leaves all that is stored readable exactly when it is sound.** -/
theorem legible_next (hrows : world.Legible kind) (hobserved : world.Remembers kind) :
    (request.next kind world).Legible kind ↔ request.Sound kind world :=
  ⟨fun h => (readable_rows_next hrows hobserved).mp h.rows,
    fun h => ⟨(readable_rows_next hrows hobserved).mpr h, readable_queued_next hrows hobserved⟩⟩

end

/-! ### Runs -/

/-- A world of which every read answers: of one operation, of a listing, and of the claims and the
recoveries, which read many. -/
structure World.Serves (kind : OperationKind) (world : World) : Prop where
  legible : world.Legible kind
  listing : ∀ selects, ∃ records, listRows kind selects world.rows = .ok records
  claim : ∀ call : ClaimRequest, call.HasLeaseEvidence →
    ∃ rows, call.claimNext kind world.rows = .ok rows
  recovery : ∀ call : RecoverRequest, ∃ rows, call.recoverRows kind world.rows = .ok rows

/-- The world serves at the start of a run and after each of its requests. -/
def ServesThroughout (kind : OperationKind) : World → List Request → Prop
  | world, [] => world.Serves kind
  | world, request :: requests =>
      world.Serves kind ∧ ServesThroughout kind (request.next kind world) requests

/-- Every request of a run is sound where it is made. -/
def SoundThroughout (kind : OperationKind) : World → List Request → Prop
  | _, [] => True
  | world, request :: requests =>
      request.Sound kind world ∧ SoundThroughout kind (request.next kind world) requests

theorem exists_listing {kind : OperationKind} {rows : List OperationRecord}
    (h : ∀ row ∈ rows, Readable kind row) : ∃ records, rows.mapM (·.validate kind) = .ok records := by
  induction rows with
  | nil => exact ⟨[], rfl⟩
  | cons row rows ih =>
      obtain ⟨record, hrecord⟩ := h row List.mem_cons_self
      obtain ⟨records, hrecords⟩ := ih fun row hmem => h row (List.mem_cons_of_mem _ hmem)
      refine ⟨record :: records, ?_⟩
      rw [List.mapM_cons, hrecord, hrecords]
      rfl

theorem serves_of_legible {kind : OperationKind} {world : World} (h : world.Legible kind) :
    world.Serves kind where
  legible := h
  listing selects :=
    exists_listing fun row hmem => h.rows row (List.mem_filter.mp hmem).1
  claim call hevidence := by
    have hguard : raiseIf (¬call.HasLeaseEvidence)
        "Odoo release operation claim requires lease evidence." = .ok () :=
      raiseIf_eq_ok.mpr (not_not.mpr hevidence)
    simp only [ClaimRequest.claimNext, hguard, bind, Except.bind]
    rcases claimRows_spec call h.rows with ⟨-, hsame⟩ | ⟨_, _, _, _, -, -, -, -, hwritten⟩
    · exact ⟨_, hsame⟩
    · exact ⟨_, hwritten⟩
  recovery call := by
    obtain ⟨rows, hrows, -⟩ := recoverRows_spec call h.rows
    exact ⟨rows, hrows⟩

theorem servesThroughout_of_remembers {kind : OperationKind} (requests : List Request)
    {world : World} (hrows : world.Legible kind) (hobserved : world.Remembers kind) :
    ServesThroughout kind world requests ↔ SoundThroughout kind world requests := by
  induction requests generalizing world with
  | nil => exact iff_of_true (serves_of_legible hrows) trivial
  | cons request requests ih =>
      -- a run that serves is read after the request too, so its rows are legible there
      have hnext : (request.next kind world).Legible kind ↔ request.Sound kind world :=
        legible_next hrows hobserved
      constructor
      · intro h
        have hlegible : (request.next kind world).Legible kind := by
          cases requests with
          | nil => exact h.2.legible
          | cons _ _ => exact h.2.1.legible
        exact ⟨hnext.mp hlegible, (ih hlegible (remembers_next hrows hobserved)).mp h.2⟩
      · intro h
        have hlegible := hnext.mpr h.1
        exact ⟨serves_of_legible hrows, (ih hlegible (remembers_next hrows hobserved)).mpr h.2⟩

/-- **Stored operations stay readable in exactly the runs whose requests are all sound**: of any
claims, heartbeats, checkpoints, recoveries and endings, in any order, of any number of operations. -/
theorem servesThroughout_iff {kind : OperationKind} {rows : List OperationRecord}
    (hrows : ∀ row ∈ rows, Readable kind row) (requests : List Request) :
    ServesThroughout kind { rows } requests ↔ SoundThroughout kind { rows } requests :=
  servesThroughout_of_remembers requests ⟨hrows, fun _ hmem => absurd hmem List.not_mem_nil⟩
    fun _ hmem => absurd hmem List.not_mem_nil

/-! ### A promotion that fails -/

/-- A promotion of a shop, waiting to be claimed. -/
def pendingPromotion : OperationRecord where
  identity :=
    { operationId := "odoo-prod-promotion-1", product := "shop", context := "shop",
      idempotencyKey := "key", idempotencyScope := "scope", requestFingerprint := "fingerprint",
      createdAt := "2026-01-05T09:00:00Z",
      request := { product := "shop", context := "shop", instanceName := "prod" },
      authorization :=
        { action := "odoo_prod_promotion_run.execute", product := "shop", context := "shop",
          instances := ["prod"], grant := "policy_administrator" } }
  updatedAt := "2026-01-05T09:00:00Z"

/-- A worker claims the next operation. -/
def workerClaim : ClaimRequest where
  admission := { locked := fun _ => false, admits := fun _ => true, chargesAttempt := fun _ => true }
  leaseOwner := "worker"
  leaseExpiresAt := "2026-01-05T09:10:00Z"
  claimedAt := "2026-01-05T09:05:00Z"

/-- The time at which the worker's run ends. -/
def endTime : Timestamp := ⟨"2026-01-05T09:06:00Z", by decide +kernel, by decide +kernel⟩

/-- Nothing is stored of a release. -/
def noRelease : ReleaseEvidence where
  requestFingerprint _ _ := ⟨"fingerprint", by decide +kernel⟩
  digest := String.join

/-- The worker claims the promotion, which then ends with an exception of this message. -/
def failingRun (message : String) : List Request :=
  let claimed := workerClaim.write pendingPromotion
  [.claim workerClaim, .observe "odoo-prod-promotion-1",
    .finish { outcome := .error message, leaseOwner := "worker", finishedAt := endTime } noRelease
      claimed claimed endTime]

/-- The promotion, for a release that its Client accepted. -/
def clientPromotion : OperationRecord :=
  { pendingPromotion with
    identity :=
      { pendingPromotion.identity with
        authorization :=
          { pendingPromotion.identity.authorization with
            grant := "client_release_acceptance", releaseDecisionRecordId := "decision-1" } } }

/-- The evidence of a write to production. -/
def productionWrite : Dict String String := [(productionWriteKey, "true")]

/-- The worker claims the Client's promotion, writes production, and is then denied the rest, without
a message. -/
def deniedRun : List Request :=
  let written :=
    (workerClaim.write clientPromotion).checkpointed .promotionStarted endTime productionWrite
  [.claim workerClaim,
    .checkpoint "odoo-prod-promotion-1" "worker" .promotionStarted endTime productionWrite,
    .observe "odoo-prod-promotion-1",
    .finish { outcome := .denied { code := "operation_denied", message := " " }
              leaseOwner := "worker", finishedAt := endTime } noRelease written written endTime]

theorem readable_pendingPromotion : ∀ row ∈ [pendingPromotion], Readable .promotion row := by
  intro row hmem
  rw [List.mem_singleton.mp hmem]
  exact ⟨pendingPromotion, by decide +kernel⟩

theorem readable_clientPromotion : ∀ row ∈ [clientPromotion], Readable .promotion row := by
  intro row hmem
  rw [List.mem_singleton.mp hmem]
  exact ⟨clientPromotion, by decide +kernel⟩

/-- An exception whose message is blank leaves a record that no read accepts. -/
theorem blank_message_not_served : ¬∀ (kind : OperationKind) (rows : List OperationRecord)
    (requests : List Request), (∀ row ∈ rows, Readable kind row) →
      ServesThroughout kind { rows } requests := by
  intro h
  have hserves := h .promotion [pendingPromotion] (failingRun " ") readable_pendingPromotion
  have hlegible := hserves.2.2.2.legible.rows
  have hunread : ((failingRun " ").foldl (Request.next .promotion) { rows := [pendingPromotion] }).rows.all
      (fun row => (row.validate .promotion).toOption.isSome) = false := by decide +kernel
  have hread : ((failingRun " ").foldl (Request.next .promotion) { rows := [pendingPromotion] }).rows.all
      (fun row => (row.validate .promotion).toOption.isSome) = true := by
    rw [List.all_eq_true]
    intro row hmem
    obtain ⟨read, hread⟩ := hlegible row hmem
    rw [hread]
    rfl
  rw [hunread] at hread
  cases hread

/-- The claim of a promotion that waits alone. -/
theorem sound_workerClaim {record : OperationRecord}
    (htarget : workerClaim.target .promotion [record] = some record)
    (hcancellation : record.cancellation = none) :
    (Request.claim workerClaim).Sound .promotion { rows := [record] } := by
  intro _ found hfound
  cases htarget.symm.trans hfound
  exact hcancellation

/-- A run that fails with a message is served: its promotion is stored as failed. One that is denied
without a message after it wrote production is served too: its promotion is held instead. -/
theorem servesThroughout_failingRun :
    ServesThroughout .promotion { rows := [pendingPromotion] } (failingRun "boom") ∧
      ServesThroughout .promotion { rows := [clientPromotion] } deniedRun := by
  constructor
  · refine (servesThroughout_iff readable_pendingPromotion (failingRun "boom")).mpr
      ⟨sound_workerClaim (by decide +kernel) rfl, trivial, ?_, trivial⟩
    intro _ _ row _ record _ _
    exact .inl (by decide +kernel :
      Ending.Sound (workerClaim.write pendingPromotion) (.failed "boom" ""))
  · refine (servesThroughout_iff readable_clientPromotion deniedRun).mpr
      ⟨sound_workerClaim (by decide +kernel) rfl, trivial, trivial, ?_, trivial⟩
    intro _ _ row _ record _ _
    refine .inr ⟨rfl, by decide, by decide +kernel, ?_, rfl, by decide⟩
    rintro ⟨-, failed, hfailed, -⟩
    cases hfailed

end Launchplane.OdooOperation
