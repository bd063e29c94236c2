import Launchplane.Mutation.Effects

/-!
# Launchplane.Mutation.Holding

**What the transactions do that compare the row with a copy.** A holder writes its
own row only: the row is owned by the owner of the copy, and stands for the copy's
target. Whoever reconciles writes the row that it was shown, with the evidence it
was shown.
-/

namespace Launchplane.Mutation

namespace MutationStore

variable {store store' : MutationStore} {now : Nat} {status : MutationStatus} {result : MutationResult}
  {reservation completion old new : IdempotencyRecord} {leaseSeconds : Nat}

/-- The rows afterwards: as they were, without that of a key. -/
def Dropped (store store' : MutationStore) (key : ReservationKey) : Prop :=
  ∀ key', store'.recordOf key' = if key' = key then none else store.recordOf key'

/-! ### Holders -/

/-- An argument that is refused raises. -/
theorem of_raise_or {c : Prop} [Decidable c] {message : String} {transaction : Transaction}
    (h : (if c then .error message else transaction) = .ok (result, store')) :
    ¬c ∧ transaction = .ok (result, store') := by
  by_cases hc : c
  · rw [if_pos hc] at h
    cases h
  · rw [if_neg hc] at h
    exact ⟨hc, h⟩

/-- A holder is refused, or goes on with its own row, which is running. -/
theorem held_or_refused {write : Transaction}
    (h : (match old.heldRefusal reservation with
      | some status => store.answer status (some old)
      | none => write) = .ok (result, store')) :
    (store' = store ∧ result.status ∈ [.notRunning, .ownerMismatch, .reservationMismatch]) ∨
      old.state = .running ∧ old.Matches reservation ∧ write = .ok (result, store') := by
  cases hrefusal : old.heldRefusal reservation with
  | some status =>
      simp only [hrefusal] at h
      obtain ⟨rfl, rfl⟩ := answer_eq_ok.mp h
      refine .inl ⟨rfl, ?_⟩
      unfold IdempotencyRecord.heldRefusal at hrefusal
      split_ifs at hrefusal <;> simp_all
  | none =>
      simp only [hrefusal] at h
      obtain ⟨hrunning, -, hmatches⟩ := IdempotencyRecord.heldRefusal_eq_none.mp hrefusal
      exact .inr ⟨hrunning, IdempotencyRecord.matches_of_reservationMatches hmatches, h⟩

/-- A held reservation is given back as the holder knows it. -/
theorem releaseReservedMutation_cases
    (h : store.releaseReservedMutation reservation = .ok (result, store')) :
    (store' = store ∧ result.status ≠ .released) ∨
      ∃ old, store.recordOf reservation.key = some old ∧ old.state = .running ∧
        old.Matches reservation ∧ result.status = .released ∧
        Dropped store store' reservation.key := by
  unfold releaseReservedMutation at h
  obtain ⟨-, h⟩ := of_raise_or h
  obtain ⟨rfl, hstatus⟩ | ⟨row, hold, h⟩ := missing_or_found h
  · exact .inl ⟨rfl, by simp [hstatus]⟩
  obtain ⟨rfl, hstatus⟩ | ⟨hrunning, hmatches, h⟩ := held_or_refused h
  · refine .inl ⟨rfl, fun heq => ?_⟩
    simp [heq] at hstatus
  · obtain ⟨rfl, rfl⟩ := Prod.mk.inj (Except.ok.inj h)
    refine .inr ⟨row.record, hold, hrunning, hmatches, rfl, fun key' => ?_⟩
    simp only [recordOf, IndexedTable.get_delete]
    split_ifs <;> rfl

/-- What a holder has after a write: its own row, with a lease. -/
structure Held (store store' : MutationStore) (reservation old new : IdempotencyRecord) : Prop where
  put : Put store store' new
  found : store.recordOf reservation.key = some old
  running : old.state = .running ∧ new.state = .running
  holds : old.Matches reservation
  key : new.key = old.key
  leaseOwner : new.leaseOwner = old.leaseOwner
  providerTargetKey : new.providerTargetKey = old.providerTargetKey

/-- A write under the lease is refused, or is a write of the holder's row. -/
theorem whileHeld_cases {write : IdempotencyRecord → Transaction}
    (h : store.whileHeld now reservation write = .ok (result, store')) :
    (store' = store ∧ result.status ≠ .updated) ∨
      ∃ old, store.recordOf reservation.key = some old ∧ old.state = .running ∧
        old.Matches reservation ∧ write old = .ok (result, store') := by
  unfold whileHeld at h
  obtain ⟨rfl, hstatus⟩ | ⟨row, hold, h⟩ := missing_or_found h
  · exact .inl ⟨rfl, by simp [hstatus]⟩
  obtain ⟨rfl, hstatus⟩ | ⟨hrunning, hmatches, h⟩ := held_or_refused h
  · refine .inl ⟨rfl, fun heq => ?_⟩
    simp [heq] at hstatus
  · by_cases hlease : row.record.leaseAfter now
    · rw [if_pos hlease] at h
      exact .inr ⟨row.record, hold, hrunning, hmatches, h⟩
    · rw [if_neg hlease] at h
      obtain ⟨rfl, rfl⟩ := answer_eq_ok.mp h
      exact .inl ⟨rfl, fun h => by cases h⟩

theorem renewMutationReservation_cases
    (h : store.renewMutationReservation now reservation leaseSeconds = .ok (result, store')) :
    (store' = store ∧ result.status ≠ .updated) ∨
      ∃ old new, Held store store' reservation old new ∧ new.evidence = old.evidence ∧
        result = ⟨.updated, some new⟩ := by
  unfold renewMutationReservation at h
  obtain ⟨-, h⟩ := of_raise_or h
  obtain hrefused | ⟨old, hold, hrunning, hmatches, hwrite⟩ := whileHeld_cases h
  · exact .inl hrefused
  · obtain ⟨expiresAt, -, hwrite⟩ := bind_eq_ok.mp hwrite
    have hvalid := valid_of_recordOf hold
    obtain ⟨rfl, hput⟩ := sync_normal hwrite
      { hvalid.toNormal with
        dated := IdempotencyRecord.dated_of_updated hvalid.dated rfl rfl }
    exact .inr ⟨old, _, ⟨hput, hold, ⟨hrunning, hrunning⟩, hmatches, rfl, rfl, rfl⟩, rfl, rfl⟩

theorem checkpointMutationProviderEffect_cases {effectPhase : String}
    (h : store.checkpointMutationProviderEffect now reservation effectPhase leaseSeconds =
      .ok (result, store')) :
    (store' = store ∧ result.status ≠ .updated) ∨
      ∃ old new, Held store store' reservation old new ∧ new.providerEffectStartedAt = some now ∧
        result = ⟨.updated, some new⟩ := by
  unfold checkpointMutationProviderEffect at h
  obtain ⟨-, h⟩ := of_raise_or h
  obtain ⟨-, h⟩ := of_raise_or h
  obtain hrefused | ⟨old, hold, hrunning, hmatches, hwrite⟩ := whileHeld_cases h
  · exact .inl hrefused
  · obtain ⟨expiresAt, -, hwrite⟩ := bind_eq_ok.mp hwrite
    have hvalid := valid_of_recordOf hold
    obtain ⟨rfl, hput⟩ := sync_normal hwrite
      { hvalid.toNormal with
        providerEffectPhase := pyStrip_pyStrip _
        dated := IdempotencyRecord.dated_of_updated hvalid.dated rfl rfl }
    exact .inr ⟨old, _, ⟨hput, hold, ⟨hrunning, hrunning⟩, hmatches, rfl, rfl, rfl⟩, rfl, rfl⟩

/-- Giving up leaves the hold where it is. -/
theorem markMutationReconcileRequired_cases {reconciliationKey : String}
    (h : store.markMutationReconcileRequired now reservation reconciliationKey =
      .ok (result, store')) : Quiet store store' := by
  unfold markMutationReconcileRequired at h
  obtain ⟨-, h⟩ := of_raise_or h
  obtain ⟨rfl, -⟩ | ⟨row, hold, h⟩ := missing_or_found h
  · exact .same
  obtain ⟨rfl, -⟩ | ⟨-, h⟩ := refused_or_ok h
  · exact .same
  obtain ⟨rfl, -⟩ | ⟨-, h⟩ := refused_or_ok h
  · exact .same
  cases hrow : row.record.state with
  | completed =>
      simp only [hrow] at h
      obtain ⟨-, rfl⟩ := answer_eq_ok.mp h
      exact .same
  | reconcileRequired =>
      simp only [hrow] at h
      obtain ⟨rfl, -⟩ | ⟨-, h⟩ := refused_or_ok h
      · exact .same
      · obtain ⟨-, rfl⟩ := answer_eq_ok.mp h
        exact .same
  | running =>
      simp only [hrow] at h
      obtain ⟨rfl, -⟩ | ⟨-, h⟩ := refused_or_ok h
      · exact .same
      · obtain ⟨rfl, hput⟩ := sync_normal h
          { (valid_of_recordOf hold).toNormal.reconcileRequired now with
            reconciliationKey := pyStrip_pyStrip _ }
        exact quiet_of_put hold hput
          ⟨rfl, rfl, rfl, rfl, ⟨by rw [hrow]; decide, fun h => by cases h⟩, fun h => by cases h⟩

/-- A holder that hands its effect to an observer keeps its hold. -/
theorem persistCheckpoint_cases {held : IdempotencyRecord}
    (h : store.persistCheckpoint now reservation = .ok (held, store')) : Quiet store store' := by
  unfold persistCheckpoint at h
  obtain ⟨hdispatched, h⟩ := guard_eq_ok.mp h
  obtain ⟨howned, h⟩ := guard_eq_ok.mp h
  obtain ⟨⟨result, after⟩, hwrite, h⟩ := bind_eq_ok.mp h
  cases h
  have hold : store.recordOf reservation.key = some reservation :=
    not_not.mp (not_or.mp (raiseIf_eq_ok.mp howned)).1
  have hrunning : reservation.state = .running :=
    not_not.mp (not_or.mp (raiseIf_eq_ok.mp hdispatched)).1
  have hvalid := valid_of_recordOf hold
  obtain ⟨-, hput⟩ := sync_normal hwrite
    { hvalid.toNormal with dated := IdempotencyRecord.dated_of_updated hvalid.dated rfl rfl }
  exact quiet_of_put hold hput ⟨rfl, rfl, rfl, rfl, ⟨by rw [hrunning]; decide, fun h => by cases h⟩,
    fun h => by cases h⟩

/-- A reservation that is over. -/
structure Ended (store store' : MutationStore) (reservation old new : IdempotencyRecord) : Prop where
  put : Put store store' new
  found : store.recordOf reservation.key = some old
  open_ : old.state ≠ .completed
  completed : new.state = .completed
  holds : old.Matches reservation
  key : new.key = old.key
  leaseOwner : new.leaseOwner = old.leaseOwner
  providerTargetKey : new.providerTargetKey = old.providerTargetKey

/-- A completion is stored under the key and the owner of the row. -/
theorem ended_of_validate (hput : Put store store' new) (hold : store.recordOf reservation.key = some old)
    (hopen : old.state ≠ .completed) (hmatch : old.Matches reservation)
    (hcompleted : reservation.state = .completed) (hfrom : new.ValidatedFrom reservation) :
    Ended store store' reservation old new := by
  have hnormal := (valid_of_recordOf hold).toNormal
  have hkey : new.key = old.key := by
    have hsame : reservation.key.validate = .ok old.key := by
      rw [← hmatch.key]
      exact hnormal.key
    exact Except.ok.inj (hfrom.key.symm.trans hsame)
  refine ⟨hput, hold, hopen, hfrom.state.trans hcompleted, hmatch, hkey, ?_, ?_⟩
  · rw [hfrom.leaseOwner, ← hmatch.leaseOwner, hnormal.leaseOwner]
  · rw [hfrom.providerTargetKey, ← hmatch.providerTargetKey, hnormal.providerTargetKey]

theorem completeMutationReservation_cases
    (h : store.completeMutationReservation now completion = .ok (result, store')) :
    (Quiet store store' ∧ result.status ≠ .completed) ∨
      ∃ old new, Ended store store' completion old new ∧ result = ⟨.completed, some new⟩ := by
  unfold completeMutationReservation at h
  obtain ⟨hcompletion, h⟩ := of_raise_or h
  obtain ⟨rfl, hstatus⟩ | ⟨row, hold, h⟩ := missing_or_found h
  · exact .inl ⟨.same, by simp [hstatus]⟩
  obtain ⟨rfl, hstatus⟩ | ⟨-, h⟩ := refused_or_ok h
  · exact .inl ⟨.same, by simp [hstatus]⟩
  obtain ⟨rfl, hstatus⟩ | ⟨hopen, h⟩ := refused_or_ok h
  · exact .inl ⟨.same, by simp [hstatus]⟩
  obtain ⟨rfl, hstatus⟩ | ⟨-, h⟩ := refused_or_ok h
  · exact .inl ⟨.same, by simp [hstatus]⟩
  obtain ⟨rfl, hstatus⟩ | ⟨hmatches, h⟩ := refused_or_ok h
  · exact .inl ⟨.same, by simp [hstatus]⟩
  obtain ⟨rfl, hstatus⟩ | ⟨-, h⟩ := refused_or_ok h
  · exact .inl ⟨.same, by simp [hstatus]⟩
  by_cases hlease : row.record.leaseAfter now
  · rw [if_pos hlease] at h
    obtain ⟨new, hvalidate, rfl, hput⟩ := sync_eq_ok h
    have hmatch := IdempotencyRecord.matches_of_reservationMatches (not_not.mp hmatches)
    have hfrom := IdempotencyRecord.validatedFrom_of_validate hvalidate
    exact .inr ⟨row.record, new, ended_of_validate hput hold hopen hmatch (not_not.mp hcompletion)
      ⟨hfrom.key, hfrom.state, hfrom.leaseOwner, hfrom.providerTargetKey,
        hfrom.providerEffectPhase, hfrom.providerEffectStartedAt⟩, rfl⟩
  · rw [if_neg hlease] at h
    by_cases hbound : row.record.reconciliationKey ≠ ""
    · rw [if_pos hbound] at h
      have hvalid := valid_of_recordOf hold
      obtain ⟨rfl, hput⟩ := sync_normal h
        { hvalid.toNormal with
          dated := IdempotencyRecord.dated_of_updated hvalid.dated rfl rfl }
      exact .inl ⟨quiet_of_put hold hput ⟨rfl, rfl, rfl, rfl, ⟨hopen, fun h => by cases h⟩,
        fun h => by cases h⟩, fun h => by cases h⟩
    · rw [if_neg hbound] at h
      obtain ⟨rfl, rfl⟩ := answer_eq_ok.mp h
      exact .inl ⟨.same, fun h => by cases h⟩

/-! ### Whoever reconciles -/

theorem adoptReconciledMutation_cases {response : Response} {expectedOriginalIntent : Option Payload}
    {bindingEvidence : Option Bool}
    (h : store.adoptReconciledMutation now reservation response expectedOriginalIntent
      bindingEvidence = .ok (result, store')) :
    (store' = store ∧ result.status ≠ .adopted) ∨
      ∃ old new, Ended store store' reservation old new ∧ result = ⟨.adopted, some new⟩ := by
  unfold adoptReconciledMutation at h
  obtain ⟨-, h⟩ := of_raise_or h
  obtain ⟨rfl, hstatus⟩ | ⟨row, hold, h⟩ := missing_or_found h
  · exact .inl ⟨rfl, by simp [hstatus]⟩
  obtain ⟨rfl, hstatus⟩ | ⟨-, h⟩ := refused_or_ok h
  · exact .inl ⟨rfl, by simp [hstatus]⟩
  obtain ⟨rfl, hstatus⟩ | ⟨hopen, h⟩ := refused_or_ok h
  · exact .inl ⟨rfl, by simp [hstatus]⟩
  obtain ⟨rfl, hstatus⟩ | ⟨-, h⟩ := refused_or_ok h
  · exact .inl ⟨rfl, by simp [hstatus]⟩
  obtain ⟨rfl, hstatus⟩ | ⟨hchanged, h⟩ := refused_or_ok h
  · exact .inl ⟨rfl, by simp [hstatus]⟩
  obtain ⟨rfl, hput⟩ := sync_normal h ((valid_of_recordOf hold).toNormal.answered _ _ _ _)
  have hmatch := IdempotencyRecord.matches_of_reservationMatches
    (not_not.mp (not_or.mp hchanged).1).2.2
  exact .inr ⟨row.record, _, ⟨hput, hold, hopen, rfl, hmatch, rfl, rfl, rfl⟩, rfl⟩

/-- A reservation that was shown is taken over. -/
structure Retried (store store' : MutationStore) (reservation old new : IdempotencyRecord)
    (leaseOwner : String) : Prop where
  put : Put store store' new
  found : store.recordOf reservation.key = some old
  state : old.state = .reconcileRequired ∧ new.state = .running
  holds : old.Matches reservation
  key : new.key = old.key
  leaseOwner : new.leaseOwner = pyStrip leaseOwner
  providerTargetKey : new.providerTargetKey = old.providerTargetKey

theorem retryReconciledMutation_cases {draining preserveEffectCheckpoint : Bool} {leaseOwner : String}
    (h : store.retryReconciledMutation now draining reservation leaseOwner leaseSeconds
      preserveEffectCheckpoint = .ok (result, store')) :
    (store' = store ∧ result.status ≠ .acquired) ∨
      ∃ old new, Retried store store' reservation old new leaseOwner ∧
        result = ⟨.acquired, some new⟩ := by
  unfold retryReconciledMutation at h
  obtain ⟨-, h⟩ := of_raise_or h
  obtain ⟨-, h⟩ := of_raise_or h
  obtain ⟨-, h⟩ := of_raise_or h
  obtain ⟨rfl, hstatus⟩ | ⟨row, hold, h⟩ := missing_or_found h
  · exact .inl ⟨rfl, by simp [hstatus]⟩
  obtain ⟨rfl, hstatus⟩ | ⟨-, h⟩ := refused_or_ok h
  · exact .inl ⟨rfl, by simp [hstatus]⟩
  obtain ⟨rfl, hstatus⟩ | ⟨-, h⟩ := refused_or_ok h
  · exact .inl ⟨rfl, by simp [hstatus]⟩
  obtain ⟨rfl, hstatus⟩ | ⟨hrow, h⟩ := refused_or_ok h
  · exact .inl ⟨rfl, by simp [hstatus]⟩
  obtain ⟨rfl, hstatus⟩ | ⟨hmatches, h⟩ := refused_or_ok h
  · exact .inl ⟨rfl, by simp [hstatus]⟩
  obtain ⟨expiresAt, -, h⟩ := bind_eq_ok.mp h
  have hvalid := valid_of_recordOf hold
  obtain ⟨rfl, hput⟩ := sync_normal h
    { hvalid.toNormal with
      leaseOwner := pyStrip_pyStrip _
      providerEffectPhase := by
        cases preserveEffectCheckpoint
        · rfl
        · exact hvalid.providerEffectPhase
      responseTraceId := rfl
      dated := IdempotencyRecord.dated_of_updated hvalid.dated rfl rfl }
  exact .inr ⟨row.record, _, ⟨hput, hold, ⟨not_not.mp hrow, rfl⟩,
    IdempotencyRecord.matches_of_reservationMatches (not_not.mp hmatches), rfl, rfl, rfl⟩, rfl⟩

/-- A reservation is over, and another one has its target. -/
structure Superseded (store store' : MutationStore) (request : ReserveRequest)
    (reservation old done new : IdempotencyRecord) : Prop where
  put : ∀ key, store'.recordOf key =
    if key = new.key then some new else if key = done.key then some done else store.recordOf key
  found : store.recordOf reservation.key = some old
  state : old.state = .reconcileRequired ∧ done.state = .completed ∧ new.state = .running
  holds : old.Matches reservation
  key : done.key = old.key ∧ new.key ≠ old.key
  leaseOwner : done.leaseOwner = old.leaseOwner ∧ new.leaseOwner = pyStrip request.leaseOwner
  providerTargetKey : done.providerTargetKey = old.providerTargetKey ∧
    new.providerTargetKey = old.providerTargetKey
  free : store.recordOf new.key = none

/-- The replacement keeps the owner and the target it was built with. -/
theorem replacement_of_row {built : ReservationRow} {retain : Bool} {replacement : ReservationRow}
    (h : IdempotencyRecord.row (if retain then { built.record with
        providerEffectPhase := supersededProviderEffectPhase
        providerEffectStartedAt := some now } else built.record) = .ok replacement) :
    replacement.record.key = built.record.key ∧ replacement.record.state = built.record.state ∧
      replacement.record.leaseOwner = built.record.leaseOwner ∧
      replacement.record.providerTargetKey = built.record.providerTargetKey := by
  have hnormal := built.isValid.toNormal
  have hfrom := IdempotencyRecord.validatedFrom_of_validate (IdempotencyRecord.row_eq_ok.mp h)
  cases retain with
  | true =>
      exact ⟨Except.ok.inj (hfrom.key.symm.trans hnormal.key), hfrom.state,
        hfrom.leaseOwner.trans hnormal.leaseOwner,
        hfrom.providerTargetKey.trans hnormal.providerTargetKey⟩
  | false =>
      exact ⟨Except.ok.inj (hfrom.key.symm.trans hnormal.key), hfrom.state,
        hfrom.leaseOwner.trans hnormal.leaseOwner,
        hfrom.providerTargetKey.trans hnormal.providerTargetKey⟩

theorem supersedeAndReserve_cases {draining : Bool} {supersession : SupersessionRequest}
    {request : ReserveRequest}
    (h : store.supersedeAndReserve now draining supersession request = .ok (result, store')) :
    (store' = store ∧ result.status ≠ .acquired) ∨
      ∃ old done new, Superseded store store' request supersession.reservation old done new ∧
        result = ⟨.acquired, some new⟩ := by
  unfold supersedeAndReserve at h
  obtain ⟨-, h⟩ := of_raise_or h
  obtain ⟨hidentity, h⟩ := of_raise_or h
  obtain ⟨-, h⟩ := of_raise_or h
  obtain ⟨rfl, hstatus⟩ | ⟨row, hold, h⟩ := missing_or_found h
  · exact .inl ⟨rfl, by simp [hstatus]⟩
  obtain ⟨rfl, hstatus⟩ | ⟨-, h⟩ := refused_or_ok h
  · exact .inl ⟨rfl, by simp [hstatus]⟩
  obtain ⟨rfl, hstatus⟩ | ⟨hrow, h⟩ := refused_or_ok h
  · exact .inl ⟨rfl, by simp [hstatus]⟩
  obtain ⟨rfl, hstatus⟩ | ⟨hunchanged, h⟩ := refused_or_ok h
  · exact .inl ⟨rfl, by simp [hstatus]⟩
  cases hexpires : row.record.leaseExpiresAt with
  | none =>
      simp only [hexpires] at h
      obtain ⟨rfl, rfl⟩ := answer_eq_ok.mp h
      exact .inl ⟨rfl, fun h => by cases h⟩
  | some expiresAt =>
      simp only [hexpires] at h
      obtain ⟨rfl, hstatus⟩ | ⟨-, h⟩ := refused_or_ok h
      · exact .inl ⟨rfl, by simp [hstatus]⟩
      obtain ⟨rfl, hstatus⟩ | ⟨-, h⟩ := refused_or_ok h
      · exact .inl ⟨rfl, by simp [hstatus]⟩
      obtain ⟨done, hdone, h⟩ := bind_eq_ok.mp h
      obtain ⟨built, hbuilt, h⟩ := bind_eq_ok.mp h
      obtain ⟨replacement, hreplacement, h⟩ := bind_eq_ok.mp h
      cases hwritten : (store.reservations.write done).bind (·.insert replacement) with
      | none =>
          simp only [hwritten] at h
          obtain ⟨rfl, rfl⟩ := answer_eq_ok.mp h
          exact .inl ⟨rfl, fun h => by cases h⟩
      | some reservations =>
          simp only [hwritten] at h
          cases h
          obtain ⟨between, hwrite, hinsert⟩ := Option.bind_eq_some_iff.mp hwritten
          obtain ⟨hfree, hinsert⟩ := IndexedTable.insert_eq_some.mp hinsert
          have hold' := ((valid_of_recordOf hold).toNormal.answered now
            supersession.response.statusCode supersession.response.traceId
            supersession.response.payload).eq_of_validate (IdempotencyRecord.row_eq_ok.mp hdone)
          have hmatch := IdempotencyRecord.matches_of_reservationMatches (not_not.mp hunchanged).2.2
          obtain ⟨hkey, hstate, howner, htarget⟩ := replacement_of_row hreplacement
          obtain ⟨hbuiltOwner, hbuiltTarget, hbuiltState, -⟩ := fresh_of_build hbuilt
          have hdoneKey : done.record.key = row.record.key := by rw [hold']; rfl
          have hne : replacement.record.key ≠ row.record.key := by
            rw [IndexedTable.get_of_write hwrite] at hfree
            split_ifs at hfree with heq
            rwa [← hdoneKey]
          have hsame : pyStrip request.providerTargetKey = row.record.providerTargetKey := by
            rw [hmatch.providerTargetKey]
            simp only [not_or, not_not] at hidentity
            exact hidentity.2.2.2
          refine .inr ⟨row.record, done.record, replacement.record, ⟨fun key => ?_, hold,
            ⟨not_not.mp hrow, by rw [hold']; rfl, hstate.trans hbuiltState⟩, hmatch,
            ⟨hdoneKey, hne⟩, ⟨by rw [hold']; rfl, howner.trans hbuiltOwner⟩,
            ⟨by rw [hold']; rfl, ?_⟩, ?_⟩, rfl⟩
          · rw [recordOf_retainOriginalMutationIntent]
            simp only [recordOf, IndexedTable.get_of_write hinsert, IndexedTable.get_of_write hwrite]
            split_ifs <;> rfl
          · rw [htarget, hbuiltTarget, pyStrip_pyStrip, hsame]
          · rw [IndexedTable.get_of_write hwrite] at hfree
            split_ifs at hfree
            simp [recordOf, hfree]

end MutationStore

end Launchplane.Mutation
