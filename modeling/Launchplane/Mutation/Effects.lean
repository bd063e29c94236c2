import Launchplane.Mutation.Store

/-!
# Launchplane.Mutation.Effects

**What each transaction can do to the rows.** One lemma for every transaction says
which answers leave everything in place, and what the others write: which row, who
holds it afterwards, and what the checkpoint of its effect is then.
-/

namespace Launchplane.Mutation

/-! ### Validated records -/

namespace IdempotencyRecord

variable {record current reservation validated : IdempotencyRecord}

/-- The fields of a validated record that nothing but stripping changes. -/
structure ValidatedFrom (validated record : IdempotencyRecord) : Prop where
  key : record.key.validate = .ok validated.key
  state : validated.state = record.state
  leaseOwner : validated.leaseOwner = pyStrip record.leaseOwner
  providerTargetKey : validated.providerTargetKey = pyStrip record.providerTargetKey
  providerEffectPhase : validated.providerEffectPhase = pyStrip record.providerEffectPhase
  providerEffectStartedAt : validated.providerEffectStartedAt = record.providerEffectStartedAt

theorem validatedFrom_of_validate (h : record.validate = .ok validated) :
    validated.ValidatedFrom record := by
  unfold validate at h
  obtain ⟨-, h⟩ := guard_eq_ok.mp h
  obtain ⟨key, hkey, h⟩ := bind_eq_ok.mp h
  obtain ⟨requestFingerprint, -, h⟩ := bind_eq_ok.mp h
  obtain ⟨-, h⟩ := guard_eq_ok.mp h
  cases h
  exact ⟨hkey, rfl, rfl, rfl, rfl, rfl⟩

/-- The evidence of the effect that a record holds. -/
def evidence (record : IdempotencyRecord) : String × Option Nat :=
  (record.providerEffectPhase, record.providerEffectStartedAt)

/-- What a match of two records says about them. -/
structure Matches (current reservation : IdempotencyRecord) : Prop where
  key : current.key = reservation.key
  leaseOwner : current.leaseOwner = reservation.leaseOwner
  providerTargetKey : current.providerTargetKey = reservation.providerTargetKey
  evidence : current.evidence = reservation.evidence

theorem matches_of_reservationMatches (h : current.reservationMatches reservation) :
    current.Matches reservation := by
  unfold reservationMatches transitionIdentity at h
  simp only [mk.injEq] at h
  obtain ⟨hkey, -, -, howner, -, -, -, htarget, hphase, hstarted, -⟩ := h
  exact ⟨hkey, howner, htarget, Prod.ext hphase hstarted⟩

theorem heldRefusal_eq_none : current.heldRefusal reservation = none ↔
    current.state = .running ∧ current.leaseOwner = reservation.leaseOwner ∧
      current.reservationMatches reservation := by
  unfold heldRefusal
  by_cases hstate : current.state = .running
  · by_cases howner : current.leaseOwner = reservation.leaseOwner
    · by_cases hmatches : current.reservationMatches reservation
      · simp [hstate, howner, hmatches]
      · simp [hstate, howner, hmatches]
    · simp [hstate, howner]
  · simp [hstate]

/-- The record has another state, but nobody else's hold on the target. -/
structure SameHolder (old new : IdempotencyRecord) : Prop where
  key : new.key = old.key
  leaseOwner : new.leaseOwner = old.leaseOwner
  providerTargetKey : new.providerTargetKey = old.providerTargetKey
  evidence : new.evidence = old.evidence
  open_ : old.state ≠ .completed ∧ new.state ≠ .completed
  running : new.state = .running → old.state = .running

theorem Normal.reconcileRequired (h : record.Normal) (updatedAt : Nat) :
    (record.reconcileRequired updatedAt).Normal :=
  { h with
    responseTraceId := rfl
    dated := fun hnone => h.dated (.inl (hnone.resolve_right (by simp [IdempotencyRecord.reconcileRequired]))) }

theorem Normal.answered (h : record.Normal) (at_ responseStatusCode : Nat) (responseTraceId : String)
    (responsePayload : Payload) :
    (record.answered at_ responseStatusCode (pyStrip responseTraceId) responsePayload).Normal :=
  { h with
    responseTraceId := pyStrip_pyStrip _
    dated := fun hnone => h.dated (.inl (hnone.resolve_right (by simp [IdempotencyRecord.answered]))) }

end IdempotencyRecord

/-! ### Rows -/

namespace MutationStore

/-- The record of a key. -/
def recordOf (store : MutationStore) (key : ReservationKey) : Option IdempotencyRecord :=
  (store.reservations.get key).map (·.record)

variable {store store' : MutationStore} {key key' : ReservationKey}
  {record old new reservation : IdempotencyRecord} {status : MutationStatus} {result : MutationResult}
  {now : Nat}

theorem recordOf_eq_some : store.recordOf key = some record ↔
    ∃ row, store.reservations.get key = some row ∧ row.record = record := by
  simp [MutationStore.recordOf]

theorem key_of_recordOf (h : store.recordOf key = some record) : record.key = key := by
  obtain ⟨row, hget, rfl⟩ := recordOf_eq_some.mp h
  exact (Table.get_eq_some.mp hget).2

theorem valid_of_recordOf (h : store.recordOf key = some record) : record.Valid := by
  obtain ⟨row, -, rfl⟩ := recordOf_eq_some.mp h
  exact row.isValid

/-- No two rows stand for the same target. -/
theorem key_eq_of_target {target : String} (h : store.recordOf key = some record)
    (h' : store.recordOf key' = some old) (htarget : record.activeTarget = some target)
    (htarget' : old.activeTarget = some target) : key = key' := by
  obtain ⟨row, hget, rfl⟩ := recordOf_eq_some.mp h
  obtain ⟨row', hget', rfl⟩ := recordOf_eq_some.mp h'
  obtain ⟨hmem, rfl⟩ := Table.get_eq_some.mp hget
  obtain ⟨hmem', rfl⟩ := Table.get_eq_some.mp hget'
  rw [store.reservations.unique row hmem row' hmem' target htarget htarget']

/-- The rows afterwards: the given one, and the others as they were. -/
def Put (store store' : MutationStore) (new : IdempotencyRecord) : Prop :=
  ∀ key, store'.recordOf key = if key = new.key then some new else store.recordOf key

theorem Put.self (h : Put store store' new) : store'.recordOf new.key = some new := by
  rw [h, if_pos rfl]

theorem put_of_write {row : ReservationRow} {reservations : ReservationTable}
    {intents : Dict ReservationKey OriginalIntent}
    (h : store.reservations.write row = some reservations) :
    Put store ⟨reservations, intents⟩ row.record := by
  intro key
  simp only [MutationStore.recordOf, IndexedTable.get_of_write h]
  split_ifs <;> rfl

theorem sync_eq_ok (h : store.sync status record = .ok (result, store')) :
    ∃ new, record.validate = .ok new ∧ result = ⟨status, some new⟩ ∧ Put store store' new := by
  unfold sync at h
  obtain ⟨row, hrow, h⟩ := bind_eq_ok.mp h
  cases hwrite : store.reservations.write row with
  | none => simp [hwrite] at h
  | some reservations =>
      simp only [hwrite, Except.ok.injEq, Prod.mk.injEq] at h
      obtain ⟨rfl, rfl⟩ := h
      exact ⟨row.record, IdempotencyRecord.row_eq_ok.mp hrow, rfl, put_of_write hwrite⟩

/-- A write of a record in normal form. -/
theorem sync_normal (h : store.sync status record = .ok (result, store')) (hnormal : record.Normal) :
    result = ⟨status, some record⟩ ∧ Put store store' record := by
  obtain ⟨new, hvalidate, rfl, hput⟩ := sync_eq_ok h
  obtain rfl := hnormal.eq_of_validate hvalidate
  exact ⟨rfl, hput⟩

theorem answer_eq_ok {found : Option IdempotencyRecord} :
    store.answer status found = .ok (result, store') ↔ ⟨status, found⟩ = result ∧ store = store' := by
  simp [answer]

/-- A guard refuses and leaves the rows, or lets through. -/
theorem refused_or_ok {c : Prop} [Decidable c] {found : Option IdempotencyRecord}
    {transaction : Transaction}
    (h : (if c then store.answer status found else transaction) = .ok (result, store')) :
    (store' = store ∧ result.status = status) ∨ ¬c ∧ transaction = .ok (result, store') := by
  by_cases hc : c
  · rw [if_pos hc] at h
    obtain ⟨rfl, rfl⟩ := answer_eq_ok.mp h
    exact .inl ⟨rfl, rfl⟩
  · rw [if_neg hc] at h
    exact .inr ⟨hc, h⟩

/-- What a row is looked up for: there is none, or it is the record of the key. -/
theorem missing_or_found {transaction : ReservationRow → Transaction}
    (h : (match store.reservations.get key with
      | none => store.answer .missing
      | some row => transaction row) = .ok (result, store')) :
    (store' = store ∧ result.status = .missing) ∨ ∃ row, store.recordOf key = some row.record ∧
      transaction row = .ok (result, store') := by
  cases hget : store.reservations.get key with
  | none =>
      simp only [hget] at h
      obtain ⟨rfl, rfl⟩ := answer_eq_ok.mp h
      exact .inl ⟨rfl, rfl⟩
  | some row =>
      simp only [hget] at h
      exact .inr ⟨row, recordOf_eq_some.mpr ⟨row, hget, rfl⟩, h⟩

@[simp] theorem recordOf_retainOriginalMutationIntent (reservation : IdempotencyRecord)
    (originalIntent : Payload) :
    (store.retainOriginalMutationIntent reservation originalIntent).recordOf key = store.recordOf key := by
  unfold retainOriginalMutationIntent
  split_ifs <;> rfl

/-- Every target is held by whom it was held before. -/
inductive Quiet (store : MutationStore) : MutationStore → Prop
  | same : Quiet store store
  | put {store' : MutationStore} {old new : IdempotencyRecord} (hold : store.recordOf new.key = some old)
      (hsame : old.SameHolder new) (hput : Put store store' new) : Quiet store store'

theorem quiet_of_put (hold : store.recordOf key = some old) (hput : Put store store' new)
    (hsame : old.SameHolder new) : Quiet store store' := by
  refine .put ?_ hsame hput
  rw [hsame.key, key_of_recordOf hold, hold]

/-- Somebody whose lease has run out has to be reconciled. -/
theorem quiet_of_expired (hold : store.recordOf key = some old) (hopen : old.state ≠ .completed)
    (h : store.sync status (old.reconcileRequired now) = .ok (result, store')) :
    result = ⟨status, some (old.reconcileRequired now)⟩ ∧ Quiet store store' ∧
      store'.recordOf old.key = some (old.reconcileRequired now) := by
  obtain ⟨rfl, hput⟩ := sync_normal h ((valid_of_recordOf hold).toNormal.reconcileRequired now)
  exact ⟨rfl, quiet_of_put hold hput ⟨rfl, rfl, rfl, rfl, ⟨hopen, fun h => by cases h⟩, fun h => by cases h⟩,
    hput.self⟩

/-! ### Reserving -/

/-- The answer to a request that got nothing: what it was shown is a row, and its own one where the
outcome has to be reconciled. -/
structure Refused (store' : MutationStore) (request : ReserveRequest) (result : MutationResult) :
    Prop where
  status : result.status ≠ .acquired
  shown : ∀ record, result.record = some record → store'.recordOf record.key = some record ∧
    (result.status = .reconcileRequired →
      record.key = request.normalizedKey ∧ record.state = .reconcileRequired)

/-- A reservation that nobody had before. -/
structure Fresh (request : ReserveRequest) (new : IdempotencyRecord) : Prop where
  leaseOwner : new.leaseOwner = pyStrip request.leaseOwner
  providerTargetKey : new.providerTargetKey = request.targetKey
  state : new.state = .running
  evidence : new.evidence = ("", none)

variable {request : ReserveRequest} {draining : Bool} {found : Option MutationResult}

theorem refused_of_shown (hstatus : status ≠ .acquired) (hself : store'.recordOf record.key = some record)
    (hkey : status = .reconcileRequired →
      record.key = request.normalizedKey ∧ record.state = .reconcileRequired) :
    Refused store' request ⟨status, some record⟩ where
  status := hstatus
  shown other hother := by
    obtain rfl := Option.some.inj hother
    exact ⟨hself, hkey⟩

/-- Only a running record leaves the answer open. -/
theorem settledAnswer_cases (now : Nat) (current : IdempotencyRecord) (requestFingerprint : String) :
    (∃ status, settledAnswer now current requestFingerprint = some status ∧ status ≠ .acquired ∧
      (status = .reconcileRequired → current.state = .reconcileRequired)) ∨
      settledAnswer now current requestFingerprint = none ∧ current.state = .running := by
  unfold settledAnswer
  by_cases hconflict : current.requestFingerprint ≠ requestFingerprint
  · exact .inl ⟨.conflict, if_pos hconflict, by decide, fun h => by cases h⟩
  · rw [if_neg hconflict]
    cases current.state with
    | completed => exact .inl ⟨.replayed, rfl, by decide, fun h => by cases h⟩
    | reconcileRequired => exact .inl ⟨.reconcileRequired, rfl, by decide, fun _ => rfl⟩
    | running =>
        by_cases hlease : current.leaseAfter now
        · exact .inl ⟨.inProgress, if_pos hlease, by decide, fun h => by cases h⟩
        · exact .inr ⟨if_neg hlease, rfl⟩

theorem observeMutationDuringDrain_cases
    (h : store.observeMutationDuringDrain now request = .ok (result, store')) :
    Quiet store store' ∧ Refused store' request result := by
  unfold observeMutationDuringDrain at h
  cases hget : store.reservations.get request.normalizedKey with
  | none => simp [hget] at h
  | some row =>
      have hold : store.recordOf request.normalizedKey = some row.record :=
        recordOf_eq_some.mpr ⟨row, hget, rfl⟩
      have hkey := key_of_recordOf hold
      simp only [hget] at h
      obtain ⟨status, hanswer, hstatus, hstate⟩ | ⟨hanswer, hrunning⟩ :=
        settledAnswer_cases now row.record (pyStrip request.requestFingerprint)
      · simp only [hanswer] at h
        obtain ⟨rfl, rfl⟩ := answer_eq_ok.mp h
        exact ⟨.same, refused_of_shown hstatus (hkey ▸ hold) fun heq => ⟨hkey, hstate heq⟩⟩
      · simp only [hanswer] at h
        split_ifs at h with hbound
        have hvalid := valid_of_recordOf hold
        have hnormal : ({ row.record with
            state := .reconcileRequired, updatedAt := some now } : IdempotencyRecord).Normal :=
          { hvalid.toNormal with
            dated := IdempotencyRecord.dated_of_updated hvalid.dated rfl rfl }
        obtain ⟨rfl, hput⟩ := sync_normal h hnormal
        have hopen : row.record.state ≠ .completed := by
          rw [hrunning]
          decide
        exact ⟨quiet_of_put hold hput ⟨rfl, rfl, rfl, rfl, ⟨hopen, fun h => by cases h⟩,
          fun h => by cases h⟩, refused_of_shown (by decide) hput.self fun _ => ⟨hkey, rfl⟩⟩

/-- What a reservation is built as. -/
theorem fresh_of_build {row : ReservationRow} {reconciliationKey targetKey : String}
    (h : request.build now reconciliationKey targetKey = .ok row) :
    row.record.leaseOwner = pyStrip request.leaseOwner ∧
      row.record.providerTargetKey = pyStrip targetKey ∧ row.record.state = .running ∧
      row.record.evidence = ("", none) := by
  unfold ReserveRequest.build at h
  obtain ⟨expiresAt, -, h⟩ := bind_eq_ok.mp h
  unfold buildMutationReservation at h
  obtain ⟨key, -, h⟩ := bind_eq_ok.mp h
  have hfrom := IdempotencyRecord.validatedFrom_of_validate (IdempotencyRecord.row_eq_ok.mp h)
  exact ⟨hfrom.leaseOwner, hfrom.providerTargetKey, hfrom.state,
    Prod.ext hfrom.providerEffectPhase hfrom.providerEffectStartedAt⟩

theorem pyStrip_targetKey : pyStrip request.targetKey = request.targetKey := by
  unfold ReserveRequest.targetKey
  split_ifs
  · exact pyStrip_pyStrip _
  · exact pyStrip_pyStrip _

/-- An insert is refused, or adds a row that was not there. -/
theorem insertReservation_cases
    (h : store.insertReservation now draining request = .ok (found, store')) :
    (Quiet store store' ∧ ∀ result, found = some result → Refused store' request result) ∨
      ∃ new, found = some ⟨.acquired, some new⟩ ∧ Fresh request new ∧
        store.recordOf new.key = none ∧ Put store store' new := by
  unfold insertReservation at h
  obtain ⟨-, h⟩ := guard_eq_ok.mp h
  cases draining with
  | true =>
      simp only [if_true] at h
      obtain ⟨⟨result, after⟩, hdrain, h⟩ := bind_eq_ok.mp h
      cases h
      obtain ⟨hquiet, hrefused⟩ := observeMutationDuringDrain_cases hdrain
      refine .inl ⟨hquiet, ?_⟩
      rintro _ ⟨⟩
      exact hrefused
  | false =>
      simp only [Bool.false_eq_true, if_false] at h
      obtain ⟨row, hrow, h⟩ := bind_eq_ok.mp h
      cases hinsert : store.reservations.insert row with
      | none =>
          simp only [hinsert] at h
          cases h
          exact .inl ⟨.same, fun _ h => by cases h⟩
      | some reservations =>
          simp only [hinsert] at h
          cases h
          obtain ⟨hnone, hwrite⟩ := IndexedTable.insert_eq_some.mp hinsert
          obtain ⟨howner, htarget, hstate, hevidence⟩ := fresh_of_build hrow
          refine .inr ⟨row.record, rfl, ⟨howner, htarget.trans pyStrip_targetKey, hstate, hevidence⟩,
            by simp [recordOf, hnone], fun key => ?_⟩
          rw [recordOf_retainOriginalMutationIntent]
          exact put_of_write hwrite key

/-- A row without a provider to reconcile with is taken over. -/
structure Reclaimed (request : ReserveRequest) (old new : IdempotencyRecord) : Prop where
  key : new.key = old.key
  leaseOwner : new.leaseOwner = pyStrip request.leaseOwner
  providerTargetKey : new.providerTargetKey = request.targetKey
  state : old.state = .running ∧ new.state = .running
  unbound : old.reconciliationKey = ""

theorem reclaim_cases (hold : store.recordOf request.normalizedKey = some old)
    (hrunning : old.state = .running)
    (h : store.reclaim now request old = .ok (result, store')) :
    (Quiet store store' ∧ Refused store' request result) ∨
      ∃ new, result = ⟨.acquired, some new⟩ ∧ Reclaimed request old new ∧ Put store store' new := by
  have hkey := key_of_recordOf hold
  unfold reclaim at h
  by_cases hbound : old.reconciliationKey ≠ ""
  · rw [if_pos hbound] at h
    obtain ⟨rfl, hquiet, hself⟩ := quiet_of_expired hold (by rw [hrunning]; decide) h
    exact .inl ⟨hquiet, refused_of_shown (by decide) hself fun _ => ⟨hkey, rfl⟩⟩
  · rw [if_neg hbound] at h
    obtain ⟨expiresAt, -, h⟩ := bind_eq_ok.mp h
    have hvalid := valid_of_recordOf hold
    have hnormal : ({ old.withoutResponse with
        state := .running
        leaseOwner := pyStrip request.leaseOwner
        leaseExpiresAt := some expiresAt
        attempt := old.attempt + 1
        reconciliationKey := pyStrip request.reconciliationKey
        providerTargetKey := request.targetKey
        updatedAt := some now } : IdempotencyRecord).Normal :=
      { hvalid.toNormal with
        leaseOwner := pyStrip_pyStrip _
        reconciliationKey := pyStrip_pyStrip _
        providerTargetKey := pyStrip_targetKey
        responseTraceId := rfl
        dated := IdempotencyRecord.dated_of_updated hvalid.dated rfl rfl }
    obtain ⟨rfl, hput⟩ := sync_normal h hnormal
    exact .inr ⟨_, rfl, ⟨rfl, rfl, rfl, ⟨hrunning, rfl⟩, not_not.mp hbound⟩, hput⟩

theorem targetCollision_cases (hold : store.recordOf old.key = some old)
    (h : store.targetCollision now old = .ok (result, store')) :
    Quiet store store' ∧ Refused store' request result := by
  unfold targetCollision at h
  by_cases hexpired : old.state = .running ∧ ¬old.leaseAfter now
  · rw [if_pos hexpired] at h
    obtain ⟨rfl, hquiet, hself⟩ := quiet_of_expired hold (by rw [hexpired.1]; decide) h
    exact ⟨hquiet, refused_of_shown (by decide) hself fun h => by cases h⟩
  · rw [if_neg hexpired] at h
    obtain ⟨rfl, rfl⟩ := answer_eq_ok.mp h
    exact ⟨.same, refused_of_shown (by decide) hold fun h => by cases h⟩

theorem map_some_eq_ok {transaction : Transaction}
    (h : (transaction.map fun answer => (some answer.1, answer.2)) = .ok (found, store')) :
    ∃ result, found = some result ∧ transaction = .ok (result, store') := by
  obtain ⟨⟨result, after⟩, hrun, hanswer⟩ := map_eq_ok.mp h
  cases hanswer
  exact ⟨result, rfl, hrun⟩

/-- A collision is answered, or an expired row without a provider is taken over. -/
theorem resolveCollision_cases
    (h : store.resolveCollision now draining request = .ok (found, store')) :
    (Quiet store store' ∧ ∀ result, found = some result → Refused store' request result) ∨
      ∃ old new, store.recordOf new.key = some old ∧ found = some ⟨.acquired, some new⟩ ∧
        Reclaimed request old new ∧ Put store store' new := by
  have hone {result : MutationResult} (h : Quiet store store' ∧ Refused store' request result) :
      Quiet store store' ∧ ∀ other, some result = some other → Refused store' request other :=
    ⟨h.1, fun other hother => Option.some.inj hother ▸ h.2⟩
  unfold resolveCollision at h
  dsimp only at h
  cases draining with
  | true =>
      simp only [if_true] at h
      obtain ⟨result, rfl, hrun⟩ := map_some_eq_ok h
      exact .inl (hone (observeMutationDuringDrain_cases hrun))
  | false =>
      simp only [Bool.false_eq_true, if_false] at h
      cases hget : store.reservations.get request.normalizedKey with
      | some row =>
          have hold : store.recordOf request.normalizedKey = some row.record :=
            recordOf_eq_some.mpr ⟨row, hget, rfl⟩
          have hkey := key_of_recordOf hold
          simp only [hget] at h
          obtain ⟨status, hanswer, hstatus, hstate⟩ | ⟨hanswer, hrunning⟩ :=
            settledAnswer_cases now row.record (pyStrip request.requestFingerprint)
          · simp only [hanswer] at h
            obtain ⟨result, rfl, hrun⟩ := map_some_eq_ok h
            obtain ⟨rfl, rfl⟩ := answer_eq_ok.mp hrun
            exact .inl (hone ⟨.same, refused_of_shown hstatus (hkey ▸ hold) fun heq => ⟨hkey, hstate heq⟩⟩)
          · simp only [hanswer] at h
            obtain ⟨result, rfl, hrun⟩ := map_some_eq_ok h
            obtain hrefused | ⟨new, rfl, hreclaimed, hput⟩ := reclaim_cases hold hrunning hrun
            · exact .inl (hone hrefused)
            · refine .inr ⟨row.record, new, ?_, rfl, hreclaimed, hput⟩
              rw [hreclaimed.key, hkey, hold]
      | none =>
          simp only [hget] at h
          split_ifs at h with htarget
          · cases h
            exact .inl ⟨.same, fun _ h => by cases h⟩
          · cases hfind : store.reservations.find request.targetKey with
            | none =>
                simp only [hfind] at h
                cases h
                exact .inl ⟨.same, fun _ h => by cases h⟩
            | some row =>
                simp only [hfind] at h
                obtain ⟨result, rfl, hrun⟩ := map_some_eq_ok h
                obtain ⟨hmem, -⟩ := IndexedTable.find_eq_some.mp hfind
                have hold : store.recordOf row.record.key = some row.record :=
                  recordOf_eq_some.mpr ⟨row, Table.get_eq_some.mpr ⟨hmem, rfl⟩, rfl⟩
                exact .inl (hone (targetCollision_cases hold hrun))

end MutationStore

end Launchplane.Mutation
