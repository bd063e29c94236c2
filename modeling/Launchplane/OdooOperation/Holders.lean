import Launchplane.OdooOperation.Runs
import Mathlib.Data.List.Forall2

/-!
# Launchplane.OdooOperation.Holders

**A claimed operation belongs to its holder**, over every order of the requests of
any number of workers. A settled operation stays as it is. A running one leaves its
holder in two ways only: the holder ends it under a lease that has not run out, or
a recovery finds the lease run out. So two claims of one operation have such a
release between them (`released_between_claims`).

All of it is read off what one request may write over a row (`writes_next`).
-/

namespace Launchplane.OdooOperation

variable {kind : OperationKind} {row row' : OperationRecord} {rows rows' : List OperationRecord}

/-! ### What a request writes -/

/-- What a request may write over a row. -/
def Request.Writes (kind : OperationKind) (row row' : OperationRecord) : Request → Prop
  | claim call => call.visits row = true ∧
      ∃ record, row.validate kind = .ok record ∧ row' = call.write record
  | heartbeat _ leaseOwner heartbeatAt leaseExpiresAt =>
      ∃ record, row.validate kind = .ok record ∧ record.leaseIsCurrent leaseOwner heartbeatAt = true ∧
        row' = record.renewed heartbeatAt leaseExpiresAt
  | checkpoint _ leaseOwner phase checkpointedAt evidence =>
      ∃ record, row.validate kind = .ok record ∧
        record.leaseIsCurrent leaseOwner checkpointedAt = true ∧
          row' = record.checkpointed phase checkpointedAt evidence
  | recover call => call.visits row = true ∧
      ∃ record, row.validate kind = .ok record ∧ row' = record.recovered kind call.now call.maxAttempts
  | observe _ => False
  | finish run release observed current now =>
      row.identity.operationId = current.identity.operationId ∧
        ∃ record, row.validate kind = .ok record ∧ record.leaseIsCurrent run.leaseOwner now = true ∧
          ∃ recovery, completion kind release ((run.ending observed).record kind run current) =
            .ok (row', recovery)

/-- Rows of which each is as it was, or is written by the request. -/
def Request.Rewrites (kind : OperationKind) (request : Request)
    (rows rows' : List OperationRecord) : Prop :=
  List.Forall₂ (fun row row' => row' = row ∨ request.Writes kind row row') rows rows'

namespace Request

variable {request : Request}

theorem Rewrites.same (request : Request) (rows : List OperationRecord) :
    request.Rewrites kind rows rows :=
  List.forall₂_same.mpr fun _ _ => .inl rfl

theorem rewrites_claimRows {claim : ClaimRequest} (h : claim.claimRows kind rows = .ok rows') :
    (Request.claim claim).Rewrites kind rows rows' := by
  induction rows generalizing rows' with
  | nil =>
      cases h
      exact .nil
  | cons row rows ih =>
      -- the row is passed over, and the claim goes on with the rest
      have hpassed (hrest : (row :: ·) <$> claim.claimRows kind rows = .ok rows') :
          (Request.claim claim).Rewrites kind (row :: rows) rows' := by
        obtain ⟨rest, hrows, rfl⟩ := map_eq_ok.mp hrest
        exact .cons (.inl rfl) (ih hrows)
      unfold ClaimRequest.claimRows at h
      by_cases hvisits : claim.visits row = true
      · rw [if_pos hvisits] at h
        obtain ⟨record, hread, h⟩ := bind_eq_ok.mp h
        by_cases hadmits : claim.admission.admits record = true
        · rw [if_pos hadmits] at h
          cases h
          exact .cons (.inr ⟨hvisits, record, hread, rfl⟩) (Rewrites.same _ _)
        · rw [if_neg hadmits] at h
          exact hpassed h
      · rw [if_neg hvisits] at h
        exact hpassed h

theorem rewrites_updateRow {operationId : String}
    {write : OperationRecord → Except String (Option OperationRecord)}
    (h : updateRow kind operationId write rows = .ok rows')
    (hwrite : ∀ row record written, row.identity.operationId = operationId →
      row.validate kind = .ok record → write record = .ok (some written) →
        request.Writes kind row written) :
    request.Rewrites kind rows rows' := by
  induction rows generalizing rows' with
  | nil => cases h
  | cons row rows ih =>
      unfold updateRow at h
      by_cases hid : row.identity.operationId = operationId
      · rw [if_pos hid] at h
        obtain ⟨record, hread, h⟩ := bind_eq_ok.mp h
        obtain ⟨written, hwritten, rfl⟩ := map_eq_ok.mp h
        cases written with
        | none => exact .same _ _
        | some written => exact .cons (.inr (hwrite row record written hid hread hwritten)) (Rewrites.same _ _)
      · rw [if_neg hid] at h
        obtain ⟨rest, hrows, rfl⟩ := map_eq_ok.mp h
        exact .cons (.inl rfl) (ih hrows)

theorem rewrites_recoverRows {recover : RecoverRequest}
    (h : recover.recoverRows kind rows = .ok rows') :
    (Request.recover recover).Rewrites kind rows rows' := by
  unfold RecoverRequest.recoverRows at h
  induction rows generalizing rows' with
  | nil =>
      cases h
      exact .nil
  | cons row rows ih =>
      rw [List.mapM_cons] at h
      obtain ⟨row', hrow, h⟩ := bind_eq_ok.mp h
      obtain ⟨rest, hrows, h⟩ := bind_eq_ok.mp h
      cases h
      refine .cons ?_ (ih hrows)
      unfold RecoverRequest.recoverRow at hrow
      by_cases hvisits : recover.visits row = true
      · rw [if_pos hvisits] at hrow
        obtain ⟨record, hread, rfl⟩ := map_eq_ok.mp hrow
        exact .inr ⟨hvisits, record, hread, rfl⟩
      · rw [if_neg hvisits] at hrow
        cases hrow
        exact .inl rfl

/-- A request that fails changes nothing. -/
theorem rewrites_of_ok {result : Except String (List OperationRecord)}
    (h : ∀ rows', result = .ok rows' → request.Rewrites kind rows rows') :
    request.Rewrites kind rows (result.toOption.getD rows) := by
  cases result with
  | error message => exact .same _ _
  | ok rows' => exact h rows' rfl

/-- **A request leaves each row as it is, or writes it as it may.** -/
theorem rewrites_next (kind : OperationKind) (world : World) (request : Request) :
    request.Rewrites kind world.rows (request.next kind world).rows := by
  unfold next
  cases request with
  | claim call =>
      rw [perform, rows_rewritten]
      refine rewrites_of_ok fun rows' h => ?_
      obtain ⟨-, hclaim⟩ := guard_eq_ok.mp h
      exact rewrites_claimRows hclaim
  | heartbeat operationId leaseOwner heartbeatAt leaseExpiresAt =>
      rw [perform, rows_rewritten]
      refine rewrites_of_ok fun rows' h => rewrites_updateRow h ?_
      intro row record written _ hread hwritten
      simp only [OdooOperation.heartbeat, Except.ok.injEq, Option.ite_none_right_eq_some,
        Option.some.injEq] at hwritten
      exact ⟨record, hread, hwritten.1, hwritten.2.symm⟩
  | checkpoint operationId leaseOwner phase checkpointedAt evidence =>
      rw [perform, rows_rewritten]
      refine rewrites_of_ok fun rows' h => rewrites_updateRow h ?_
      intro row record written _ hread hwritten
      unfold OdooOperation.checkpoint at hwritten
      by_cases hcurrent : record.leaseIsCurrent leaseOwner checkpointedAt = true
      · simp only [hcurrent, Bool.not_true, Bool.false_eq_true, if_false] at hwritten
        split_ifs at hwritten
        · cases hwritten
        · cases hwritten
        · cases hwritten
          exact ⟨record, hread, hcurrent, rfl⟩
      · simp [hcurrent] at hwritten
  | recover call =>
      rw [perform, rows_rewritten]
      exact rewrites_of_ok fun rows' h => rewrites_recoverRows h
  | observe operationId =>
      rw [perform]
      cases world.rows.find? (·.identity.operationId = operationId) with
      | none => exact .same _ _
      | some row =>
          cases hread : row.validate kind with
          | error message =>
              simp only [hread]
              exact .same _ _
          | ok record =>
              simp only [hread]
              exact .same _ _
  | finish run release observed current now =>
      rw [perform]
      by_cases hunread : observed ∉ world.observed ∨ current ∉ world.observed
      · simp only [raiseIf, hunread, if_true, bind, Except.bind]
        exact .same _ _
      · simp only [raiseIf, hunread, if_false, bind, Except.bind]
        cases hcompleted :
            completion kind release ((run.ending observed).record kind run current) with
        | error message => exact .same _ _
        | ok completed =>
            dsimp only
            rw [rows_rewritten]
            refine rewrites_of_ok fun rows' h => rewrites_updateRow h ?_
            intro row record written hid hread hwritten
            simp only [complete, Except.ok.injEq, Option.ite_none_right_eq_some,
              Option.some.injEq] at hwritten
            exact ⟨hid, record, hread, hwritten.1, completed.2, hwritten.2 ▸ hcompleted⟩

/-- The row at one place after a request. -/
theorem writes_next (kind : OperationKind) (request : Request) {world : World} {i : Nat}
    (h : world.rows[i]? = some row) :
    ∃ row', (request.next kind world).rows[i]? = some row' ∧
      (row' = row ∨ request.Writes kind row row') := by
  obtain ⟨hi, rfl⟩ := List.getElem?_eq_some_iff.mp h
  have hrewrites := rewrites_next kind world request
  have hi' : i < (request.next kind world).rows.length := hrewrites.length_eq ▸ hi
  exact ⟨_, List.getElem?_eq_getElem hi', hrewrites.get hi hi'⟩

end Request

/-! ### One step -/

/-- Nothing is left to do for the operation. -/
def OperationRecord.Settled (record : OperationRecord) : Prop :=
  record.status ∈ [OperationStatus.pass, .fail, .cancelled]

/-- The operation is running, and its lease is this owner's. -/
def OperationRecord.HeldBy (record : OperationRecord) (leaseOwner : String) : Prop :=
  record.status = .running ∧ pyStrip record.leaseOwner = pyStrip leaseOwner

/-- When a request takes an operation from its holder: a recovery finds the lease run out, or the
holder ends its run of the operation with a lease that has not. -/
def Request.Releases (kind : OperationKind) (leaseOwner : String) (row : OperationRecord) :
    Request → Prop
  | recover call => call.visits row = true
  | finish run _ _ current now => row.identity.operationId = current.identity.operationId ∧
      pyStrip run.leaseOwner = pyStrip leaseOwner ∧
        ∃ record, row.validate kind = .ok record ∧ record.leaseIsCurrent run.leaseOwner now = true
  | _ => False

/-- Reading trims the owner of the lease. -/
theorem leaseOwner_of_validate {read : OperationRecord} (h : row.validate kind = .ok read) :
    read.leaseOwner = pyStrip row.leaseOwner := by
  unfold OperationRecord.validate at h
  obtain ⟨⟨⟩, -, h⟩ := bind_eq_ok.mp h
  obtain ⟨checkpoints, -, h⟩ := bind_eq_ok.mp h
  obtain ⟨cancellation, -, h⟩ := bind_eq_ok.mp h
  obtain ⟨identity, -, h⟩ := bind_eq_ok.mp h
  obtain ⟨updatedAt, -, h⟩ := bind_eq_ok.mp h
  obtain ⟨⟨⟩, -, h⟩ := bind_eq_ok.mp h
  cases h
  rfl

theorem ClaimRequest.status_of_visits {claim : ClaimRequest} (h : claim.visits row = true) :
    row.status = .pending ∨ row.status = .reconciliationRequired := by
  simp only [visits, Bool.and_eq_true, decide_eq_true_eq] at h
  rw [h.1, ClaimRequest.status]
  cases claim.cutoverReconciliation <;> simp

theorem ClaimRequest.not_running_of_visits {claim : ClaimRequest} (h : claim.visits row = true) :
    row.status ≠ .running := by
  rcases status_of_visits h with hstatus | hstatus
  · simp [hstatus]
  · simp [hstatus]

theorem RecoverRequest.status_of_visits {recover : RecoverRequest} (h : recover.visits row = true) :
    row.status = .running := by
  simp only [visits, Bool.and_eq_true, decide_eq_true_eq] at h
  exact h.1.1

/-- A claim leaves the operation with the worker that made it. -/
theorem ClaimRequest.heldBy_write (claim : ClaimRequest) (record : OperationRecord) :
    (claim.write record).HeldBy claim.leaseOwner := by
  unfold ClaimRequest.write OperationRecord.claimed
  cases claim.cutoverReconciliation <;> exact ⟨rfl, pyStrip_pyStrip _⟩

/-- A request writes rows that are waiting or running. -/
theorem not_settled_of_writes {request : Request} (h : request.Writes kind row row') :
    ¬row.Settled := by
  have hrunning {record : OperationRecord} {leaseOwner : String} {at_ : Timestamp}
      (hread : row.validate kind = .ok record) (hlease : record.leaseIsCurrent leaseOwner at_ = true) :
      ¬row.Settled := by
    have hstatus := (status_of_validate hread).symm.trans (running_of_leaseIsCurrent hlease)
    simp [OperationRecord.Settled, hstatus]
  cases request with
  | claim call =>
      rcases ClaimRequest.status_of_visits h.1 with hstatus | hstatus
      · simp [OperationRecord.Settled, hstatus]
      · simp [OperationRecord.Settled, hstatus]
  | heartbeat operationId leaseOwner heartbeatAt leaseExpiresAt =>
      obtain ⟨record, hread, hlease, -⟩ := h
      exact hrunning hread hlease
  | checkpoint operationId leaseOwner phase checkpointedAt evidence =>
      obtain ⟨record, hread, hlease, -⟩ := h
      exact hrunning hread hlease
  | recover call => simp [OperationRecord.Settled, RecoverRequest.status_of_visits h.1]
  | observe operationId => exact h.elim
  | finish run release observed current now =>
      obtain ⟨-, record, hread, hlease, -⟩ := h
      exact hrunning hread hlease

/-- **A request leaves an operation with its holder, or releases it.** -/
theorem heldBy_of_writes {request : Request} {leaseOwner : String} (hheld : row.HeldBy leaseOwner)
    (h : request.Writes kind row row') :
    row'.HeldBy leaseOwner ∨ request.Releases kind leaseOwner row := by
  obtain ⟨hrunning, howner⟩ := hheld
  -- what keeps the status and the owner of the record that was read keeps its holder
  have hkept {record : OperationRecord} (hread : row.validate kind = .ok record)
      (hstatus : row'.status = record.status) (hsame : row'.leaseOwner = record.leaseOwner) :
      row'.HeldBy leaseOwner := by
    refine ⟨hstatus.trans ((status_of_validate hread).trans hrunning), ?_⟩
    rw [hsame, leaseOwner_of_validate hread, pyStrip_pyStrip, howner]
  cases request with
  | claim call => exact absurd hrunning (ClaimRequest.not_running_of_visits h.1)
  | heartbeat operationId owner heartbeatAt leaseExpiresAt =>
      obtain ⟨record, hread, -, rfl⟩ := h
      exact .inl (hkept hread rfl rfl)
  | checkpoint operationId owner phase checkpointedAt evidence =>
      obtain ⟨record, hread, -, rfl⟩ := h
      exact .inl (hkept hread rfl rfl)
  | recover call => exact .inr h.1
  | observe operationId => exact h.elim
  | finish run release observed current now =>
      obtain ⟨hid, record, hread, hlease, -⟩ := h
      have hlessee : record.leaseOwner = pyStrip run.leaseOwner := by
        simp only [OperationRecord.leaseIsCurrent, decide_eq_true_eq] at hlease
        exact hlease.2.1
      refine .inr ⟨hid, ?_, record, hread, hlease⟩
      rw [← hlessee, leaseOwner_of_validate hread, howner]

/-! ### Runs -/

section Runs

variable {world : World} {requests : List Request} {i : Nat} {leaseOwner : String}

/-- The world after requests, one after the other. -/
def World.after (kind : OperationKind) (world : World) (requests : List Request) : World :=
  requests.foldl (Request.next kind) world

@[simp] theorem World.after_nil : world.after kind [] = world := rfl

@[simp] theorem World.after_cons {request : Request} :
    world.after kind (request :: requests) = (request.next kind world).after kind requests := rfl

/-- **What is settled stays as it is.** -/
theorem settled_after (h : world.rows[i]? = some row) (hsettled : row.Settled) :
    (world.after kind requests).rows[i]? = some row := by
  induction requests generalizing world with
  | nil => exact h
  | cons request requests ih =>
      obtain ⟨row', hrow', hsame | hwrites⟩ := Request.writes_next kind request h
      · exact ih (hsame ▸ hrow')
      · exact absurd hsettled (not_settled_of_writes hwrites)

/-- Some request of a run releases the operation, which its holder had until then. -/
def ReleasedIn (kind : OperationKind) (world : World) (requests : List Request) (i : Nat)
    (leaseOwner : String) : Prop :=
  ∃ earlier request later row, requests = earlier ++ request :: later ∧
    (world.after kind earlier).rows[i]? = some row ∧ row.HeldBy leaseOwner ∧
      request.Releases kind leaseOwner row

/-- **An operation stays with its holder until it is released.** -/
theorem held_after (h : world.rows[i]? = some row) (hheld : row.HeldBy leaseOwner) :
    (∃ row', (world.after kind requests).rows[i]? = some row' ∧ row'.HeldBy leaseOwner) ∨
      ReleasedIn kind world requests i leaseOwner := by
  induction requests generalizing world row with
  | nil => exact .inl ⟨row, h, hheld⟩
  | cons request requests ih =>
      obtain ⟨row', hrow', hstep⟩ := Request.writes_next kind request h
      have hcases : row'.HeldBy leaseOwner ∨ request.Releases kind leaseOwner row := by
        rcases hstep with rfl | hwrites
        · exact .inl hheld
        · exact heldBy_of_writes hheld hwrites
      rcases hcases with hheld' | hreleases
      · refine (ih hrow' hheld').imp_right ?_
        rintro ⟨earlier, last, later, found, rfl, hfound, hholder, hreleases⟩
        exact ⟨request :: earlier, last, later, found, rfl, hfound, hholder, hreleases⟩
      · exact .inr ⟨[], request, requests, row, rfl, h, hheld, hreleases⟩

/-- The claim takes the operation at this place. -/
def Takes (kind : OperationKind) (world : World) (claim : ClaimRequest) (i : Nat) : Prop :=
  ∃ row row', world.rows[i]? = some row ∧
    ((Request.claim claim).next kind world).rows[i]? = some row' ∧ row' ≠ row

theorem Takes.writes {claim : ClaimRequest} (h : Takes kind world claim i) :
    ∃ row record, world.rows[i]? = some row ∧ claim.visits row = true ∧
      ((Request.claim claim).next kind world).rows[i]? = some (claim.write record) := by
  obtain ⟨row, row', hrow, hrow', hne⟩ := h
  obtain ⟨written, hwritten, hsame | hwrites⟩ :=
    Request.writes_next kind (.claim claim) hrow
  · rw [hrow'] at hwritten
    exact absurd ((Option.some.inj hwritten).trans hsame) hne
  · obtain ⟨hvisits, record, -, rfl⟩ := hwrites
    exact ⟨row, record, hrow, hvisits, hwritten⟩

/-- **No operation is claimed again before it is released**: between two claims of it, the first
worker ended its run while it had the lease, or a recovery found the lease run out. -/
theorem released_between_claims {claim claim' : ClaimRequest}
    (hfirst : Takes kind world claim i)
    (hsecond : Takes kind (world.after kind (.claim claim :: requests)) claim' i) :
    ReleasedIn kind ((Request.claim claim).next kind world) requests i claim.leaseOwner := by
  obtain ⟨-, record, -, -, hwritten⟩ := hfirst.writes
  obtain ⟨row, -, hrow, hvisits, -⟩ := hsecond.writes
  refine (held_after hwritten (claim.heldBy_write record)).resolve_left ?_
  rintro ⟨row', hrow', hrunning, -⟩
  rw [World.after_cons, hrow'] at hrow
  cases hrow
  exact ClaimRequest.not_running_of_visits hvisits hrunning

end Runs

/-! ### A worker that stalls -/

/-- A recovery after the worker's lease has run out. -/
def lateRecovery : RecoverRequest where
  now := ⟨"2026-01-05T09:20:00Z", by decide +kernel, by decide +kernel⟩
  maxAttempts := 3
  locked _ := false
  precedes left right := left < right

/-- Another worker claims the next operation. -/
def secondClaim : ClaimRequest :=
  { workerClaim with
    leaseOwner := "second-worker"
    leaseExpiresAt := "2026-01-05T09:40:00Z"
    claimedAt := "2026-01-05T09:30:00Z" }

/-- The recovery takes the promotion from the worker before the other one claims it. -/
theorem released_between_workerClaims :
    ReleasedIn .promotion ((Request.claim workerClaim).next .promotion { rows := [pendingPromotion] })
      [.recover lateRecovery] 0 "worker" := by
  let claimed := workerClaim.write pendingPromotion
  let recovered := claimed.recovered .promotion lateRecovery.now lateRecovery.maxAttempts
  have hfirst : Takes .promotion { rows := [pendingPromotion] } workerClaim 0 :=
    ⟨pendingPromotion, claimed, rfl, by decide +kernel, by decide +kernel⟩
  have hsecond : Takes .promotion (World.after .promotion { rows := [pendingPromotion] }
      [.claim workerClaim, .recover lateRecovery]) secondClaim 0 :=
    ⟨recovered, secondClaim.write recovered, by decide +kernel, by decide +kernel, by decide +kernel⟩
  exact released_between_claims hfirst hsecond

end Launchplane.OdooOperation
