import Launchplane.IndexedTable
import Launchplane.Mutation.Record

/-!
# Launchplane.Mutation.Store

**The transactions of the reservations.** One row stands for one request, and no
two rows that are running or have to be reconciled stand for the same provider
target: the index of the table refuses a second one. Each transaction reads the
row of its request, compares it with the copy that the caller holds, and writes
the next record or refuses. An exception leaves the rows as they were.
-/

namespace Launchplane.Mutation

/-- The statuses of the results of all transactions. -/
inductive MutationStatus
  | acquired | conflict | replayed | reconcileRequired | inProgress | targetBusy
  | updated | missing | notRunning | ownerMismatch | reservationMismatch | leaseExpired
  | reconciliationConflict | released | completed | adopted | notReconcileRequired
  | retry | leaseActive | graceActive
  deriving Repr, DecidableEq

/-- `MutationReservationResult`, and the results of the other transactions. -/
structure MutationResult where
  status : MutationStatus
  record : Option IdempotencyRecord := none
  deriving Repr, DecidableEq

namespace IdempotencyRecord

/-- Whether the record stands for its provider target. -/
def active (record : IdempotencyRecord) : Prop :=
  record.state ≠ .completed ∧ record.providerTargetKey ≠ ""

instance decidableActive (record : IdempotencyRecord) : Decidable record.active :=
  inferInstanceAs (Decidable (_ ∧ _))

/-- The target that the record stands for: the value of
`launchplane_idempotency_active_reconciliation_idx`. -/
def activeTarget (record : IdempotencyRecord) : Option String :=
  if record.active then some record.providerTargetKey else none

/-- `_mutation_transition_identity`. -/
def transitionIdentity (record : IdempotencyRecord) : IdempotencyRecord :=
  { record with
    state := .running
    updatedAt := none
    responseStatusCode := none
    responseTraceId := ""
    recordedAt := none
    responsePayload := [] }

/-- `_mutation_reservation_matches`. -/
def reservationMatches (current reservation : IdempotencyRecord) : Prop :=
  current.transitionIdentity = reservation.transitionIdentity

instance decidableReservationMatches (current reservation : IdempotencyRecord) :
    Decidable (current.reservationMatches reservation) :=
  inferInstanceAs (Decidable (_ = _))

/-- The record without an answer. -/
def withoutResponse (record : IdempotencyRecord) : IdempotencyRecord :=
  { record with
    responseStatusCode := none, responseTraceId := "", recordedAt := none, responsePayload := [] }

/-- What is left to somebody else: the outcome has to be found out. -/
def reconcileRequired (record : IdempotencyRecord) (updatedAt : Nat) : IdempotencyRecord :=
  { record.withoutResponse with state := .reconcileRequired, updatedAt := some updatedAt }

/-- A record with its answer. -/
def answered (record : IdempotencyRecord) (at_ : Nat) (responseStatusCode : Nat)
    (responseTraceId : String) (responsePayload : Payload) : IdempotencyRecord :=
  { record with
    state := .completed
    updatedAt := some at_
    responseStatusCode := some responseStatusCode
    responseTraceId
    recordedAt := some at_
    responsePayload }

/-- Why a caller that holds `reservation` may not go on with the row. -/
def heldRefusal (current reservation : IdempotencyRecord) : Option MutationStatus :=
  if current.state ≠ .running then some .notRunning
  else if current.leaseOwner ≠ reservation.leaseOwner then some .ownerMismatch
  else if ¬current.reservationMatches reservation then some .reservationMismatch
  else none

end IdempotencyRecord

/-! ### The rows -/

/-- `LaunchplaneIdempotencyRow`. -/
abbrev ReservationTable : Type :=
  IndexedTable ReservationRow (fun row => row.record.key) fun row => row.record.activeTarget

/-- The receipt with the intent that a request came with. -/
structure OriginalIntent where
  requestFingerprint : String
  originalIntent : Payload
  deriving Repr, DecidableEq

/-- The reservations, and the receipts of their original intents. -/
structure MutationStore where
  reservations : ReservationTable := IndexedTable.empty
  intents : Dict ReservationKey OriginalIntent := []

/-- A transaction that is given the clock of the database. -/
abbrev Transaction : Type := Except String (MutationResult × MutationStore)

namespace MutationStore

/-- `_sync_idempotency_row`, of a record that is validated first. -/
def sync (store : MutationStore) (status : MutationStatus) (record : IdempotencyRecord) :
    Transaction := do
  let row ← record.row
  match store.reservations.write row with
  | some reservations => .ok (⟨status, some row.record⟩, { store with reservations })
  | none => .error "IntegrityError"

/-- The answer of a transaction that writes nothing. -/
def answer (store : MutationStore) (status : MutationStatus)
    (record : Option IdempotencyRecord := none) : Transaction :=
  .ok (⟨status, record⟩, store)

/-- `_original_mutation_intent`. -/
def originalMutationIntent (store : MutationStore) (reservation : IdempotencyRecord) : Payload :=
  match store.intents.get reservation.key with
  | some receipt =>
      if receipt.requestFingerprint = reservation.requestFingerprint then receipt.originalIntent
      else []
  | none => []

/-- `_retain_original_mutation_intent`. -/
def retainOriginalMutationIntent (store : MutationStore) (reservation : IdempotencyRecord)
    (originalIntent : Payload) : MutationStore :=
  if originalIntent = [] then store
  else { store with
    intents := store.intents.set reservation.key ⟨reservation.requestFingerprint, originalIntent⟩ }

end MutationStore

/-- `_mutation_lease_expiry`. -/
def mutationLeaseExpiry (observedAt leaseSeconds : Nat) : Except String Nat :=
  if leaseSeconds < 1 ∨ 86400 < leaseSeconds then
    .error "Mutation reservation lease_seconds must be between 1 and 86400."
  else .ok (observedAt + leaseSeconds)

/-! ### Reserving -/

/-- The arguments of `reserve_mutation`. -/
structure ReserveRequest where
  key : ReservationKey
  requestFingerprint : String
  leaseOwner : String
  leaseSeconds : Nat := 300
  reconciliationKey : String := ""
  providerTargetKey : String := ""
  originalIntent : Payload := []
  deriving Repr, DecidableEq

namespace ReserveRequest

/-- `normalized_provider_target_key`. -/
def targetKey (request : ReserveRequest) : String :=
  if pyStrip request.providerTargetKey = "" then pyStrip request.reconciliationKey
  else pyStrip request.providerTargetKey

/-- The stripped key. -/
def normalizedKey (request : ReserveRequest) : ReservationKey :=
  ⟨pyStrip request.key.scope, pyStrip request.key.routePath, pyStrip request.key.idempotencyKey⟩

/-- `build_launchplane_mutation_reservation`, as a request asks for it. -/
def build (request : ReserveRequest) (now : Nat) (reconciliationKey targetKey : String) :
    Except String ReservationRow := do
  let expiresAt ← mutationLeaseExpiry now request.leaseSeconds
  buildMutationReservation request.key request.requestFingerprint request.leaseOwner expiresAt now
    reconciliationKey targetKey

end ReserveRequest

namespace MutationStore

variable (store : MutationStore) (now : Nat)

/-- The answer that the row of a request determines alone; `none` where its lease has run out. -/
def settledAnswer (current : IdempotencyRecord) (requestFingerprint : String) :
    Option MutationStatus :=
  if current.requestFingerprint ≠ requestFingerprint then some .conflict
  else match current.state with
    | .completed => some .replayed
    | .reconcileRequired => some .reconcileRequired
    | .running => if current.leaseAfter now then some .inProgress else none

/-- `_observe_mutation_during_drain`, where nothing new is admitted. -/
def observeMutationDuringDrain (request : ReserveRequest) : Transaction :=
  match store.reservations.get request.normalizedKey with
  | none => .error "Launchplane is draining provider effects; retry after the deploy."
  | some row =>
      match settledAnswer now row.record (pyStrip request.requestFingerprint) with
      | some status => store.answer status (some row.record)
      | none =>
          if row.record.reconciliationKey = "" then
            .error "Launchplane is draining provider effects; retry after the deploy."
          else store.sync .reconcileRequired
            { row.record with state := .reconcileRequired, updatedAt := some now }

/-- The first transaction of `_reserve_mutation`; `none` where the insert broke an index. -/
def insertReservation (draining : Bool) (request : ReserveRequest) :
    Except String (Option MutationResult × MutationStore) := do
  raiseIf (request.targetKey ≠ "" ∧ pyStrip request.reconciliationKey = "")
    "Provider target keys require a reconciliation key."
  if draining then
    let (result, store) ← store.observeMutationDuringDrain now request
    return (some result, store)
  else
    let row ← request.build now request.reconciliationKey request.targetKey
    match store.reservations.insert row with
    | none => return (none, store)
    | some reservations =>
        let stored : MutationStore := { store with reservations }
        return (some ⟨.acquired, some row.record⟩,
          stored.retainOriginalMutationIntent row.record request.originalIntent)

/-- What a request gets that finds another one on its target. -/
def targetCollision (current : IdempotencyRecord) : Transaction :=
  if current.state = .running ∧ ¬current.leaseAfter now then
    store.sync .targetBusy (current.reconcileRequired now)
  else store.answer .targetBusy (some current)

/-- What a request gets that finds its own row, the lease of which has run out. -/
def reclaim (request : ReserveRequest) (current : IdempotencyRecord) : Transaction :=
  if current.reconciliationKey ≠ "" then
    store.sync .reconcileRequired (current.reconcileRequired now)
  else do
    let expiresAt ← mutationLeaseExpiry now request.leaseSeconds
    store.sync .acquired { current.withoutResponse with
      state := .running
      leaseOwner := pyStrip request.leaseOwner
      leaseExpiresAt := some expiresAt
      attempt := current.attempt + 1
      reconciliationKey := pyStrip request.reconciliationKey
      providerTargetKey := request.targetKey
      updatedAt := some now }

/-- The second transaction of `_reserve_mutation`; `none` where the other row is gone. -/
def resolveCollision (draining : Bool) (request : ReserveRequest) :
    Except String (Option MutationResult × MutationStore) :=
  let some_ (transaction : Transaction) : Except String (Option MutationResult × MutationStore) :=
    transaction.map fun answer => (some answer.1, answer.2)
  if draining then some_ (store.observeMutationDuringDrain now request)
  else match store.reservations.get request.normalizedKey with
    | some row =>
        match settledAnswer now row.record (pyStrip request.requestFingerprint) with
        | some status => some_ (store.answer status (some row.record))
        | none => some_ (store.reclaim now request row.record)
    | none =>
        if request.targetKey = "" then .ok (none, store)
        else match store.reservations.find request.targetKey with
          | some row => some_ (store.targetCollision now row.record)
          | none => .ok (none, store)

/-! ### Holding -/

/-- `release_reserved_mutation`. -/
def releaseReservedMutation (reservation : IdempotencyRecord) : Transaction :=
  if reservation.state ≠ .running then
    .error "Only running mutation reservations can be released."
  else match store.reservations.get reservation.key with
    | none => store.answer .missing
    | some row =>
        match row.record.heldRefusal reservation with
        | some status => store.answer status (some row.record)
        | none => .ok (⟨.released, some row.record⟩,
            { store with reservations := store.reservations.delete reservation.key })

/-- A write of a row whose lease the caller holds. -/
def whileHeld (reservation : IdempotencyRecord) (write : IdempotencyRecord → Transaction) :
    Transaction :=
  match store.reservations.get reservation.key with
  | none => store.answer .missing
  | some row =>
      match row.record.heldRefusal reservation with
      | some status => store.answer status (some row.record)
      | none =>
          if row.record.leaseAfter now then write row.record
          else store.answer .leaseExpired (some row.record)

/-- `renew_mutation_reservation`. -/
def renewMutationReservation (reservation : IdempotencyRecord) (leaseSeconds : Nat) : Transaction :=
  if reservation.state ≠ .running then
    .error "Mutation reservation renewal requires a running reservation."
  else store.whileHeld now reservation fun current => do
    let expiresAt ← mutationLeaseExpiry now leaseSeconds
    store.sync .updated { current with leaseExpiresAt := some expiresAt, updatedAt := some now }

/-- `checkpoint_mutation_provider_effect`. -/
def checkpointMutationProviderEffect (reservation : IdempotencyRecord) (effectPhase : String)
    (leaseSeconds : Nat) : Transaction :=
  if reservation.state ≠ .running ∨ pyStrip effectPhase = "" then
    .error "Provider effect checkpoints require a running reservation and phase."
  else if reservation.reconciliationKey = "" then
    .error "Provider effect checkpoints require a reconciliation key."
  else store.whileHeld now reservation fun current => do
    let expiresAt ← mutationLeaseExpiry now leaseSeconds
    store.sync .updated { current with
      leaseExpiresAt := some expiresAt
      providerEffectPhase := pyStrip effectPhase
      providerEffectStartedAt := some now
      updatedAt := some now }

/-- `mark_mutation_reconcile_required`. -/
def markMutationReconcileRequired (reservation : IdempotencyRecord) (reconciliationKey : String) :
    Transaction :=
  if reservation.state = .completed ∨ pyStrip reconciliationKey = "" then
    .error "Reconcile-required mutation transition requires a reservation and key."
  else match store.reservations.get reservation.key with
    | none => store.answer .missing
    | some row =>
        if row.record.leaseOwner ≠ reservation.leaseOwner then
          store.answer .ownerMismatch (some row.record)
        else if ¬row.record.reservationMatches reservation then
          store.answer .reservationMismatch (some row.record)
        else match row.record.state with
          | .reconcileRequired =>
              if row.record.reconciliationKey ≠ pyStrip reconciliationKey then
                store.answer .reconciliationConflict (some row.record)
              else store.answer .updated (some row.record)
          | .completed => store.answer .notRunning (some row.record)
          | .running =>
              if row.record.reconciliationKey ≠ "" ∧
                  row.record.reconciliationKey ≠ pyStrip reconciliationKey then
                store.answer .reconciliationConflict (some row.record)
              else store.sync .updated { row.record.reconcileRequired now with
                reconciliationKey := pyStrip reconciliationKey }

/-- The transaction of `persist_checkpoint`: the lease ends, and what became of the effect is left to
whoever observes it. An adapter checks its own request before. -/
def persistCheckpoint (reservation : IdempotencyRecord) :
    Except String (IdempotencyRecord × MutationStore) := do
  raiseIf (reservation.state ≠ .running ∨ reservation.providerEffectPhase ≠ "execute" ∨
      reservation.providerEffectStartedAt = none)
    "Only an original dispatched execute can hand off job observation."
  raiseIf ((store.reservations.get reservation.key).map (·.record) ≠ some reservation ∨
      ¬reservation.leaseAfter now)
    "The original executor no longer owns checkpoint admission."
  let (_, after) ← store.sync .updated
    { reservation with
      state := .reconcileRequired, updatedAt := some now, leaseExpiresAt := some now }
  return ({ reservation with
    state := .reconcileRequired, updatedAt := some now, leaseExpiresAt := some now }, after)

/-- `complete_mutation_reservation`. -/
def completeMutationReservation (completion : IdempotencyRecord) : Transaction :=
  if completion.state ≠ .completed then
    .error "Mutation completion requires a completed reservation record."
  else match store.reservations.get completion.key with
    | none => store.answer .missing
    | some row =>
        if row.record.requestFingerprint ≠ completion.requestFingerprint then
          store.answer .conflict (some row.record)
        else if row.record.state = .completed then store.answer .replayed (some row.record)
        else if row.record.leaseOwner ≠ completion.leaseOwner then
          store.answer .ownerMismatch (some row.record)
        else if ¬row.record.reservationMatches completion then
          store.answer .reservationMismatch (some row.record)
        else if row.record.state = .reconcileRequired then
          store.answer .reconcileRequired (some row.record)
        else if row.record.leaseAfter now then
          store.sync .completed { completion with updatedAt := some now, recordedAt := some now }
        else if row.record.reconciliationKey ≠ "" then
          store.sync .reconcileRequired
            { row.record with state := .reconcileRequired, updatedAt := some now }
        else store.answer .leaseExpired (some row.record)

/-! ### Reconciling -/

/-- What a request that adopts or supersedes a reservation answers it with. -/
structure Response where
  statusCode : Nat
  traceId : String
  payload : Payload := []
  deriving Repr, DecidableEq

/-- Whether the row is still the one that was read, with the intent that goes with it. -/
def unchangedSince (current reservation : IdempotencyRecord)
    (expectedOriginalIntent : Option Payload) : Prop :=
  (∀ intent ∈ expectedOriginalIntent, store.originalMutationIntent reservation = intent) ∧
    (store.originalMutationIntent reservation ≠ [] → current = reservation) ∧
    current.reservationMatches reservation

instance decidableUnchangedSince (current reservation : IdempotencyRecord)
    (expectedOriginalIntent : Option Payload) :
    Decidable (store.unchangedSince current reservation expectedOriginalIntent) :=
  inferInstanceAs (Decidable ((∀ intent ∈ expectedOriginalIntent, _) ∧ _ ∧ _))

/-- `adopt_reconciled_mutation`; `bindingEvidence` is whether the records of
`expected_binding_evidence` are the stored ones, where there are any. -/
def adoptReconciledMutation (reservation : IdempotencyRecord) (response : Response)
    (expectedOriginalIntent : Option Payload) (bindingEvidence : Option Bool) : Transaction :=
  if reservation.reconciliationKey = "" ∨ pyStrip response.traceId = "" then
    .error "Reconciled mutation adoption requires reservation evidence and trace."
  else match store.reservations.get reservation.key with
    | none => store.answer .missing
    | some row =>
        if row.record.requestFingerprint ≠ reservation.requestFingerprint then
          store.answer .conflict (some row.record)
        else if row.record.state = .completed then store.answer .replayed (some row.record)
        else if row.record.state ≠ .reconcileRequired ∧
            ¬(bindingEvidence ≠ none ∧ ¬row.record.leaseAfter now) then
          store.answer .notReconcileRequired (some row.record)
        else if ¬store.unchangedSince row.record reservation expectedOriginalIntent ∨
            bindingEvidence = some false then
          store.answer .reservationMismatch (some row.record)
        else store.sync .adopted
          (row.record.answered now response.statusCode (pyStrip response.traceId) response.payload)

/-- The arguments of `supersede_expired_reconciled_mutation_and_reserve` beside the request. -/
structure SupersessionRequest where
  reservation : IdempotencyRecord
  response : Response
  minimumExpiredSeconds : Nat
  expectedOriginalIntent : Option Payload := none
  retainEffectCustody : Bool := false
  deriving Repr, DecidableEq

/-- `SUPERSEDED_PROVIDER_EFFECT_PHASE`. -/
def supersededProviderEffectPhase : String := "superseded_effect"

/-- `supersede_expired_reconciled_mutation_and_reserve`. -/
def supersedeAndReserve (draining : Bool) (supersession : SupersessionRequest)
    (request : ReserveRequest) : Transaction :=
  let reservation := supersession.reservation
  let reconciliationKey := pyStrip request.reconciliationKey
  let targetKey := pyStrip request.providerTargetKey
  if reservation.state ≠ .reconcileRequired ∨ pyStrip supersession.response.traceId = "" then
    .error "Reconciled mutation supersession requires reservation evidence and trace."
  else if reconciliationKey = "" ∨ targetKey = "" ∨
      reconciliationKey ≠ reservation.reconciliationKey ∨
      targetKey ≠ reservation.providerTargetKey then
    .error "Reconciled mutation supersession requires the same provider target identity."
  else if draining then
    .error "Launchplane is draining provider effects; retry after the deploy."
  else match store.reservations.get reservation.key with
    | none => store.answer .missing
    | some row =>
        if row.record.state = .completed then store.answer .retry
        else if row.record.state ≠ .reconcileRequired then
          store.answer .notReconcileRequired (some row.record)
        else if ¬store.unchangedSince row.record reservation
            supersession.expectedOriginalIntent then
          store.answer .reservationMismatch (some row.record)
        else match row.record.leaseExpiresAt with
          | none => store.answer .leaseActive (some row.record)
          | some expiresAt =>
              if now < expiresAt then store.answer .leaseActive (some row.record)
              else if now < expiresAt + supersession.minimumExpiredSeconds then
                store.answer .graceActive (some row.record)
              else do
                let superseded ← (row.record.answered now supersession.response.statusCode
                  (pyStrip supersession.response.traceId) supersession.response.payload).row
                let built ← request.build now reconciliationKey targetKey
                let replacement ← IdempotencyRecord.row
                  (if supersession.retainEffectCustody then { built.record with
                    providerEffectPhase := supersededProviderEffectPhase
                    providerEffectStartedAt := some now }
                  else built.record)
                match (store.reservations.write superseded).bind (·.insert replacement) with
                | none => store.answer .retry
                | some reservations =>
                    let stored : MutationStore := { store with reservations }
                    return (⟨.acquired, some replacement.record⟩,
                      stored.retainOriginalMutationIntent replacement.record request.originalIntent)

/-- `retry_reconciled_mutation`. -/
def retryReconciledMutation (draining : Bool) (reservation : IdempotencyRecord) (leaseOwner : String)
    (leaseSeconds : Nat) (preserveEffectCheckpoint : Bool) : Transaction :=
  if reservation.state ≠ .reconcileRequired then
    .error "Reconciled mutation retry requires reconcile-required state."
  else if pyStrip leaseOwner = "" then
    .error "Reconciled mutation retry requires a lease owner."
  else if draining then
    .error "Launchplane is draining provider effects; retry after the deploy."
  else match store.reservations.get reservation.key with
    | none => store.answer .missing
    | some row =>
        if row.record.requestFingerprint ≠ reservation.requestFingerprint then
          store.answer .conflict (some row.record)
        else if row.record.state = .completed then store.answer .replayed (some row.record)
        else if row.record.state ≠ .reconcileRequired then
          store.answer .notReconcileRequired (some row.record)
        else if ¬row.record.reservationMatches reservation then
          store.answer .reservationMismatch (some row.record)
        else do
          let expiresAt ← mutationLeaseExpiry now leaseSeconds
          store.sync .acquired { row.record.withoutResponse with
            state := .running
            leaseOwner := pyStrip leaseOwner
            leaseExpiresAt := some expiresAt
            attempt := row.record.attempt + 1
            providerEffectPhase :=
              if preserveEffectCheckpoint then row.record.providerEffectPhase else ""
            providerEffectStartedAt :=
              if preserveEffectCheckpoint then row.record.providerEffectStartedAt else none
            updatedAt := some now }

end MutationStore

end Launchplane.Mutation
