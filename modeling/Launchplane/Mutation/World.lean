import Launchplane.Mutation.Holding
import Launchplane.Mutation.Runner

/-!
# Launchplane.Mutation.World

**Many calls over one store.** Every call of the runner has an owner of its own for
its lease. What the calls did is written down in a log, newest first: who acquired
which target, whose effects were recorded before they began, what was observed, and
how a reservation ended.

A transaction may commit although its answer is lost. Then the log has it, and the
caller has an exception.
-/

namespace Launchplane.Mutation

open Interaction

/-! ### The log -/

/-- How a reservation was acquired. -/
inductive Means
  | fresh
  | reclaimed
  | superseding
  | retried (reservation : IdempotencyRecord)
  deriving Repr, DecidableEq

/-- How a reservation ended. -/
inductive Ending
  | completed
  | adopted
  | superseded (reservation : IdempotencyRecord)
  deriving Repr, DecidableEq

/-- What happened. -/
inductive Event (ω : Type)
  | acquired (w : ω) (record : IdempotencyRecord) (means : Means)
  | checkpointed (w : ω) (record : IdempotencyRecord)
  | dispatched (w : ω)
  | released (w : ω) (reservation : IdempotencyRecord)
  | ended (w : ω) (record : IdempotencyRecord) (ending : Ending)
  | observed (w : ω) (key : ReservationKey) (evidence : String × Option Nat)
      (observation : ProviderObservation)
  | quiescent (w : ω) (reservation : IdempotencyRecord)
  deriving DecidableEq

namespace Event

variable {ω : Type}

/-- Whether the target was acquired. -/
def takes (target : String) : Event ω → Bool
  | acquired _ record _ => record.providerTargetKey = target
  | _ => false

/-- Whether an effect on the target was recorded. -/
def records (target : String) : Event ω → Bool
  | checkpointed _ record => record.providerTargetKey = target
  | _ => false

/-- Whether the target was left: its reservation was given back, or it is over. -/
def leaves (target : String) : Event ω → Bool
  | released _ record | ended _ record _ => record.providerTargetKey = target
  | _ => false

/-- Whose call it is. -/
def actor : Event ω → ω
  | acquired w _ _ | checkpointed w _ | dispatched w | released w _ | ended w _ _ |
    observed w _ _ _ | quiescent w _ => w

end Event

/-- What happened, newest first. -/
abbrev Log (ω : Type) : Type := List (Event ω)

namespace Log

variable {ω : Type}

/-- What happened since the target was acquired, and the last effect on it recorded. -/
def since (target : String) (log : Log ω) : Log ω :=
  log.takeWhile fun event => !(event.takes target || event.records target)

/-- Who acquired the target last, and as which reservation. -/
def holder (target : String) : Log ω → Option (ω × ReservationKey)
  | [] => none
  | .acquired w record _ :: older =>
      if record.providerTargetKey = target then some (w, record.key) else holder target older
  | _ :: older => holder target older

/-- The evidence of the effect that the last holder of the target has recorded. -/
def evidence (target : String) : Log ω → String × Option Nat
  | [] => ("", none)
  | .acquired _ record _ :: older | .checkpointed _ record :: older =>
      if record.providerTargetKey = target then record.evidence else evidence target older
  | _ :: older => evidence target older

/-- Whether nobody has the target: whoever acquired it last has left it. -/
def vacant (target : String) : Log ω → Bool
  | [] => true
  | event :: older => !event.takes target && (event.leaves target || vacant target older)

end Log

/-! ### The protocol -/

/-- What a call of the runner knows. Of its reservation: whether it has recorded an effect, and
whether the answer to its request is all that it knows. -/
inductive Stage
  | starting
  | busy (record : IdempotencyRecord)
  | quiet (record : IdempotencyRecord)
  | reconciling (record : Option IdempotencyRecord)
  | observed (record : IdempotencyRecord) (observation : ProviderObservation)
  | holding (reservation : IdempotencyRecord) (armed inserted : Bool)
  | done
  deriving Repr, DecidableEq

namespace Stage

/-- What the answer to a request for a reservation tells. -/
def ofResult (result : MutationResult) : Stage :=
  match result.status, result.record with
  | .acquired, some record => holding record false true
  | .targetBusy, some record => busy record
  | .reconcileRequired, record => reconciling record
  | _, _ => done

/-- What the answer to a write of the holder tells. -/
def afterUpdate (reservation : IdempotencyRecord) (armed inserted arms : Bool)
    (result : MutationResult) : Stage :=
  match result.status, result.record with
  | .updated, some record => holding record (armed || arms) false
  | _, _ => holding reservation armed inserted

end Stage

namespace DurableOperation

variable (operation : DurableOperation)

/-- What a call may ask for in a stage. -/
def Allowed : Stage → OperationCall → Prop
  | .starting, .insertReservation request | .starting, .resolveCollision request =>
      request = operation.request ∧ request.targetKey ≠ ""
  | .busy record, .quiescent reservation => reservation = record ∧ record.state = .reconcileRequired
  | .quiet _, .retainEffectCustody _ => True
  | .quiet record, .supersede supersession request =>
      supersession.reservation = record ∧ request = operation.request
  | .reconciling none, .observe .. => True
  | .reconciling (some record), .observe key phase effectStartedAt =>
      key.key = operation.request.normalizedKey ∧ (phase, effectStartedAt) = record.evidence
  | .observed record observation, .retry reservation leaseOwner _ _ =>
      reservation = record ∧ leaseOwner = operation.leaseOwner ∧ observation.outcome = .absent ∧
        (record.providerEffectStartedAt = none ∨ observation.retrySafe = true)
  | .observed record observation, .adopt reservation _ _ _ =>
      reservation = record ∧ observation.outcome = .present
  | .holding held _ _, .renew reservation _ => reservation = held
  | .holding held _ _, .checkpoint reservation _ _ => reservation = held
  | .holding held _ _, .markReconcileRequired reservation _ => reservation = held
  | .holding held _ _, .adopt reservation _ _ _ => reservation = held
  | .holding held _ _, .persist reservation => reservation = held
  | .holding held _ _, .complete completion => pyStrip held.leaseOwner = completion.leaseOwner
  | .holding held _ inserted, .release reservation =>
      reservation = held ∧ (inserted = true ∨ held.providerEffectStartedAt = none)
  | .holding _ armed _, .dispatch _ => armed = true
  | _, .readOriginalIntent _ => True
  | _, _ => False

/-- Where an answer leads. -/
def next (stage : Stage) : (call : OperationCall) → Fallible OperationError OperationResponse call →
    Stage
  | .insertReservation _, .ok result | .resolveCollision _, .ok result =>
      match (result : Option MutationResult) with
      | some result => .ofResult result
      | none => .starting
  | .insertReservation _, .error _ | .resolveCollision _, .error _ => .done
  | .quiescent record, .ok answer =>
      match (answer : Bool) with
      | true => .quiet record
      | false => .done
  | .supersede .., .ok result =>
      match (result : MutationResult).status, (result : MutationResult).record with
      | .acquired, some record => .holding record false false
      | .retry, _ => .starting
      | _, _ => .done
  | .supersede .., .error _ => .done
  | .observe .., .ok observation =>
      match stage with
      | .reconciling (some record) => .observed record observation
      | _ => .done
  | .observe .., .error _ => .done
  | .retry .., .ok result =>
      match (result : MutationResult).status, (result : MutationResult).record with
      | .acquired, some record => .holding record false false
      | _, _ => .done
  | .retry .., .error _ => .done
  | .renew .., .ok result =>
      match stage with
      | .holding reservation armed inserted => .afterUpdate reservation armed inserted false result
      | _ => stage
  | .checkpoint .., .ok result =>
      match stage with
      | .holding reservation armed inserted => .afterUpdate reservation armed inserted true result
      | _ => stage
  | .release _, .ok result => if (result : MutationResult).status = .released then .done else stage
  | _, _ => stage

/-- What a call of the runner may ask for, and what it learns. -/
def protocol : Protocol (Fallible OperationError OperationResponse) Stage where
  Allowed := operation.Allowed
  next := next

end DurableOperation

/-! ### The calls -/

namespace OperationCall

/-- What the store answers at a time, and what it leaves; an adapter observes what it is given. -/
def perform (now : Nat) (observation : ProviderObservation) (store : MutationStore) :
    (call : OperationCall) → Except String (OperationResponse call × MutationStore)
  | .insertReservation request => store.insertReservation now false request
  | .resolveCollision request => store.resolveCollision now false request
  | .readOriginalIntent reservation => .ok (store.originalMutationIntent reservation, store)
  | .supersede supersession request => store.supersedeAndReserve now false supersession request
  | .release reservation => store.releaseReservedMutation reservation
  | .renew reservation leaseSeconds => store.renewMutationReservation now reservation leaseSeconds
  | .checkpoint reservation phase leaseSeconds =>
      store.checkpointMutationProviderEffect now reservation phase leaseSeconds
  | .markReconcileRequired reservation reconciliationKey =>
      store.markMutationReconcileRequired now reservation reconciliationKey
  | .complete completion => store.completeMutationReservation now completion
  | .adopt reservation response expectedOriginalIntent bindingEvidence =>
      store.adoptReconciledMutation now reservation response expectedOriginalIntent bindingEvidence
  | .retry reservation leaseOwner leaseSeconds preserveEffectCheckpoint =>
      store.retryReconciledMutation now false reservation leaseOwner leaseSeconds
        preserveEffectCheckpoint
  | .observe .. => .ok (observation, store)
  | .quiescent _ | .retainEffectCustody _ => .ok (true, store)
  | .dispatch _ => .ok (([] : Payload), store)
  | .persist reservation => store.persistCheckpoint now reservation

/-- What a call does to the store and answers; an adapter and a provider may answer anything. -/
def Runs (store : MutationStore) : (call : OperationCall) → OperationResponse call →
    MutationStore → Prop
  | .insertReservation request, found, store' =>
      ∃ now draining, store.insertReservation now draining request = .ok (found, store')
  | .resolveCollision request, found, store' =>
      ∃ now draining, store.resolveCollision now draining request = .ok (found, store')
  | .readOriginalIntent reservation, intent, store' =>
      intent = store.originalMutationIntent reservation ∧ store' = store
  | .supersede supersession request, result, store' => ∃ now draining,
      store.supersedeAndReserve now draining supersession request = .ok (result, store')
  | .release reservation, result, store' =>
      store.releaseReservedMutation reservation = .ok (result, store')
  | .renew reservation leaseSeconds, result, store' => ∃ now,
      store.renewMutationReservation now reservation leaseSeconds = .ok (result, store')
  | .checkpoint reservation phase leaseSeconds, result, store' => ∃ now,
      store.checkpointMutationProviderEffect now reservation phase leaseSeconds =
        .ok (result, store')
  | .markReconcileRequired reservation reconciliationKey, result, store' => ∃ now,
      store.markMutationReconcileRequired now reservation reconciliationKey = .ok (result, store')
  | .complete completion, result, store' => ∃ now,
      store.completeMutationReservation now completion = .ok (result, store')
  | .adopt reservation response expectedOriginalIntent bindingEvidence, result, store' => ∃ now,
      store.adoptReconciledMutation now reservation response expectedOriginalIntent
        bindingEvidence = .ok (result, store')
  | .retry reservation leaseOwner leaseSeconds preserveEffectCheckpoint, result, store' =>
      ∃ now draining, store.retryReconciledMutation now draining reservation leaseOwner leaseSeconds
        preserveEffectCheckpoint = .ok (result, store')
  | .persist reservation, held, store' => ∃ now,
      store.persistCheckpoint now reservation = .ok (held, store')
  | .observe .., _, store' | .quiescent _, _, store' | .retainEffectCustody _, _, store'
  | .dispatch _, _, store' => store' = store

/-- What the log gets of a call. -/
def events {ω : Type} (w : ω) : (call : OperationCall) → OperationResponse call → List (Event ω)
  | .insertReservation _, found =>
      match (found : Option MutationResult) with
      | some ⟨.acquired, some record⟩ => [.acquired w record .fresh]
      | _ => []
  | .resolveCollision _, found =>
      match (found : Option MutationResult) with
      | some ⟨.acquired, some record⟩ => [.acquired w record .reclaimed]
      | _ => []
  | .supersede supersession _, result =>
      match (result : MutationResult) with
      | ⟨.acquired, some record⟩ => [.acquired w record .superseding,
          .ended w supersession.reservation (.superseded supersession.reservation)]
      | _ => []
  | .retry reservation _ _ _, result =>
      match (result : MutationResult) with
      | ⟨.acquired, some record⟩ => [.acquired w record (.retried reservation)]
      | _ => []
  | .checkpoint .., result =>
      match (result : MutationResult) with
      | ⟨.updated, some record⟩ => [.checkpointed w record]
      | _ => []
  | .complete _, result =>
      match (result : MutationResult) with
      | ⟨.completed, some record⟩ => [.ended w record .completed]
      | _ => []
  | .adopt .., result =>
      match (result : MutationResult) with
      | ⟨.adopted, some record⟩ => [.ended w record .adopted]
      | _ => []
  | .release reservation, result =>
      if (result : MutationResult).status = .released then [.released w reservation] else []
  | .observe operation phase effectStartedAt, observation =>
      [.observed w operation.key (phase, effectStartedAt) observation]
  | .quiescent reservation, answer =>
      match (answer : Bool) with
      | true => [.quiescent w reservation]
      | false => []
  | .dispatch _, _ => [.dispatched w]
  | _, _ => []

end OperationCall

/-- The store, and what happened. -/
structure World (ω : Type) where
  store : MutationStore := {}
  log : Log ω := []

/-- A call of a process is performed, and its answer arrives or is lost, or it is not performed. -/
def operationEnv {ω : Type} (w : ω) : Env (Fallible OperationError OperationResponse) (World ω) :=
  fun world call answer world' =>
    (∃ response store', call.Runs world.store response store' ∧
      (answer = .ok response ∨ ∃ error, answer = .error error) ∧
      world' = ⟨store', call.events w response ++ world.log⟩) ∨
    (∃ error, answer = .error error) ∧ world' = world

/-- The world that answers each call at once. -/
def serve {ω : Type} (now : Nat) (observation : ProviderObservation) (w : ω) (world : World ω)
    (call : OperationCall) : Fallible OperationError OperationResponse call × World ω :=
  match call.perform now observation world.store with
  | .ok (response, store) => (.ok response, ⟨store, call.events w response ++ world.log⟩)
  | .error message => (.error (.error message), world)

theorem OperationCall.runs_of_perform {now : Nat} {observation : ProviderObservation}
    {store store' : MutationStore} {call : OperationCall} {response : OperationResponse call}
    (h : call.perform now observation store = .ok (response, store')) :
    call.Runs store response store' := by
  cases call with
  | insertReservation request => exact ⟨now, false, h⟩
  | resolveCollision request => exact ⟨now, false, h⟩
  | supersede supersession request => exact ⟨now, false, h⟩
  | retry reservation leaseOwner leaseSeconds preserve => exact ⟨now, false, h⟩
  | renew reservation leaseSeconds => exact ⟨now, h⟩
  | checkpoint reservation phase leaseSeconds => exact ⟨now, h⟩
  | markReconcileRequired reservation reconciliationKey => exact ⟨now, h⟩
  | complete completion => exact ⟨now, h⟩
  | adopt reservation response expectedOriginalIntent bindingEvidence => exact ⟨now, h⟩
  | release reservation => exact h
  | readOriginalIntent reservation =>
      obtain ⟨rfl, rfl⟩ := Prod.mk.inj (Except.ok.inj h)
      exact ⟨rfl, rfl⟩
  | observe key phase effectStartedAt => exact (Prod.mk.inj (Except.ok.inj h)).2.symm
  | quiescent reservation => exact (Prod.mk.inj (Except.ok.inj h)).2.symm
  | retainEffectCustody reservation => exact (Prod.mk.inj (Except.ok.inj h)).2.symm
  | dispatch request => exact (Prod.mk.inj (Except.ok.inj h)).2.symm
  | persist reservation => exact ⟨now, h⟩

theorem operationEnv_serve {ω : Type} (now : Nat) (observation : ProviderObservation) (w : ω)
    (world : World ω) (call : OperationCall) :
    operationEnv w world call (serve now observation w world call).1
      (serve now observation w world call).2 := by
  unfold serve
  cases h : call.perform now observation world.store with
  | ok answer => exact .inl ⟨answer.1, answer.2, OperationCall.runs_of_perform h, .inl rfl, rfl⟩
  | error message => exact .inr ⟨⟨_, rfl⟩, rfl⟩

/-- The calls of the runner start once each: there is no other owner of a lease to start with. -/
def NoStarts {ω α : Type} (_ : ω) (_ : Prog (Fallible OperationError OperationResponse) α) : Prop :=
  False

end Launchplane.Mutation
