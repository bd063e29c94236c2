import Launchplane.Interaction.Pool
import Launchplane.Outbox.Store

/-!
# Launchplane.Outbox.World

**What a worker asks of the world, and what the world keeps of it.** The store
answers by its transactions, and any answer of it may be lost, before or after
the transaction took place. Providers answer anything. A send is two calls, its
start and its answer, so that other workers may act in between and the sender may
die there.

The world remembers in its log, the newest event first, what took effect: claims,
markers and completions that were committed, and every send that was started. No
code reads the log.
-/

namespace Launchplane.Outbox

open Launchplane.Interaction
open SelfDeploy (Process)

/-- The lease owner of a worker, as the store compares it. -/
@[ext] structure LeaseOwner where
  text : String
  stripped : pyStrip text = text
  nonempty : text ≠ ""

instance : DecidableEq LeaseOwner := fun w w' =>
  decidable_of_iff (w.text = w'.text) LeaseOwner.ext_iff.symm

/-- The two sends that cannot be reconciled. -/
inductive SendRoute
  | workflowDispatch | discordWebhook
  deriving Repr, DecidableEq

/-- The kind of the deliveries a route serves. -/
def SendRoute.kind : SendRoute → OutboxDeliveryKind
  | workflowDispatch => .githubWorkflowDispatch
  | discordWebhook => .publicIngressNotification

/-- `PublicIngressObservationRecord`, as far as a delivery reads it. -/
structure PublicIngressObservationRecord where
  recordId : String
  materialFingerprintSha256 : String := ""
  deriving Repr, DecidableEq

/-- `PublicIngressNotificationDestination`. -/
structure NotificationDestination where
  destinationId : String
  kind : NotificationDestinationKind
  enabled : Bool := true
  githubRepository : String := ""
  githubIssueNumber : Option Nat := none
  githubLabel : String := ""
  smtpUsernameSecret : String := ""
  smtpPasswordSecret : String := ""
  discordWebhookSecret : String := ""
  deriving Repr, DecidableEq

/-- `PublicIngressNotificationPolicyRecord`. -/
structure NotificationPolicy where
  policyId : String
  destinations : List NotificationDestination
  deriving Repr, DecidableEq

/-- How the post to a Discord webhook ended. -/
inductive DiscordAnswer
  | posted
  /-- `DiscordNotificationNotSentError`. -/
  | notSent
  /-- `DiscordNotificationError`. -/
  | status (code : Nat)
  /-- Any other exception. -/
  | raised
  deriving Repr, DecidableEq

/-- The message certainly did not go out. -/
def DiscordAnswer.refused : DiscordAnswer → Bool
  | notSent => true
  | status code => 400 ≤ code && code < 500
  | _ => false

/-- What a handler of another kind changes in its record. -/
structure HandlerResult where
  state : OutboxDeliveryState
  action : String := ""
  errorCode : String := ""
  providerOperationKey : String := ""
  providerId : String := ""
  deriving Repr, DecidableEq

/-- The calls of a worker. -/
inductive OutboxCall
  | claim (leaseOwner : String) (leaseSeconds : Int)
  | mark (record : OutboxDeliveryRecord) (leaseOwner providerOperationKey providerId : String)
  | complete (record : OutboxDeliveryRecord) (leaseOwner : String)
  | readIncident (incidentId : String)
  | readObservation (recordId : String)
  | listAttempts (incidentId : String) (destinationKind : String)
  /-- The notifications of an incident. -/
  | listDeliveries (incidentId : String)
  /-- `_matching_notification_policies`. -/
  | matchingPolicies (incident : PublicIngressIncidentRecord)
  | resolveToken (credentialContext repository : String)
  /-- `datetime.now(UTC)`. -/
  | utcNow
  /-- Whether the deadline of a wait has passed. -/
  | deadlineReached
  /-- `GET` of the runs of a workflow. -/
  | workflowRuns (owner repo workflowId ref : String)
  /-- `POST` of a dispatch, for a delivery, and its answer. -/
  | startDispatch (deliveryId owner repo workflowId ref : String) (inputs : Dict String String)
  | dispatchAnswer (deliveryId : String)
  | resolveSecret (secretName : String)
  /-- `public_discord_url_error`. -/
  | urlError (url : String)
  /-- The post to a webhook, for a delivery, and its answer. -/
  | startWebhook (deliveryId webhookUrl : String)
  | webhookAnswer (deliveryId : String)
  | sendEmail (destination : NotificationDestination)
  | githubClient (action : String) (payload : Dict String JsonValue)
  /-- The handler of a kind other than the two that send once. -/
  | otherHandler (record : OutboxDeliveryRecord)

/-- What each call is answered with. -/
abbrev OutboxResponse : OutboxCall → Type
  | .claim .. => Option OutboxDeliveryRow
  | .mark .. => OutboxCompletion
  | .complete .. => OutboxCompletion
  | .readIncident _ => PublicIngressIncidentRecord
  | .readObservation _ => PublicIngressObservationRecord
  | .listAttempts .. => List NotificationAttemptRecord
  | .listDeliveries _ => List OutboxDeliveryRow
  | .matchingPolicies _ => List NotificationPolicy
  | .resolveToken .. => String
  | .utcNow => Nat
  | .deadlineReached => Bool
  | .workflowRuns .. => JsonValue
  | .startDispatch .. => Unit
  | .dispatchAnswer _ => Unit
  | .resolveSecret _ => String
  | .urlError _ => String
  | .startWebhook .. => Unit
  | .webhookAnswer _ => DiscordAnswer
  | .sendEmail _ => Unit
  | .githubClient .. => JsonValue
  | .otherHandler _ => HandlerResult

/-- A program of a worker. -/
abbrev WorkerProgram (α : Type) : Type := Act (Fallible OutboxError OutboxResponse) OutboxError α

/-- Perform a call and return its answer. -/
def ask (call : OutboxCall) : WorkerProgram (OutboxResponse call) := Act.perform call

/-- Something that took effect. -/
inductive OutboxEvent
  | claimed (worker : LeaseOwner) (row : OutboxDeliveryRow) (now : Nat)
  | marked (worker : LeaseOwner) (row : OutboxDeliveryRow) (now : Nat)
  | started (worker : LeaseOwner) (deliveryId : String) (route : SendRoute)
  | answered (worker : LeaseOwner) (deliveryId : String) (refused : Bool)
  | completed (worker : LeaseOwner) (row : OutboxDeliveryRow) (now : Nat)

/-- Who did it. -/
def OutboxEvent.worker : OutboxEvent → LeaseOwner
  | claimed w _ _ => w
  | marked w _ _ => w
  | started w _ _ => w
  | answered w _ _ => w
  | completed w _ _ => w

/-- The store, its clock, and what has happened. -/
structure OutboxWorld where
  store : OutboxStore
  clock : Nat
  log : List OutboxEvent

namespace OutboxWorld

/-- Remember an event. -/
def record (s : OutboxWorld) (event : OutboxEvent) : OutboxWorld :=
  { s with log := event :: s.log }

@[simp] theorem record_store (s : OutboxWorld) (event : OutboxEvent) :
    (s.record event).store = s.store := rfl
@[simp] theorem record_clock (s : OutboxWorld) (event : OutboxEvent) :
    (s.record event).clock = s.clock := rfl
@[simp] theorem record_log (s : OutboxWorld) (event : OutboxEvent) :
    (s.record event).log = event :: s.log := rfl

end OutboxWorld

/-- One transaction: it is rolled back, or committed with the event it leaves, and the worker may
not be told which. -/
def Transaction {A : Type} (result : Except OutboxError (A × OutboxStore))
    (event : A → Option OutboxEvent) (s : OutboxWorld) (answer : Except OutboxError A)
    (s' : OutboxWorld) : Prop :=
  (∃ e, answer = .error e) ∧ s' = s ∨
    ∃ a store', result = .ok (a, store') ∧
      s' = { s with store := store', log := (event a).toList ++ s.log } ∧
      (answer = .ok a ∨ ∃ e, answer = .error e)

/-- The event of an update of a row. -/
def updateEvent (event : OutboxDeliveryRow → OutboxEvent) (answer : OutboxCompletion) :
    Option OutboxEvent :=
  if answer.status = .updated then answer.record.map event else none

/-- A marker for a record, by a worker. -/
def MarkStep (w : LeaseOwner) (record : OutboxDeliveryRecord)
    (leaseOwner providerOperationKey providerId : String) (s : OutboxWorld)
    (answer : Except OutboxError OutboxCompletion) (s' : OutboxWorld) : Prop :=
  Transaction (s.store.markProviderStarted s.clock record leaseOwner providerOperationKey providerId)
    (updateEvent (.marked w · s.clock)) s answer s'

/-- What the calls of a worker do. -/
def outboxEnv (w : LeaseOwner) : Env (Fallible OutboxError OutboxResponse) OutboxWorld :=
  fun s call answer s' =>
    match call with
    | .claim leaseOwner leaseSeconds =>
      ∃ (process : Process) (locked : List String),
        Transaction (s.store.claimNext process s.clock locked leaseOwner leaseSeconds)
          (fun row => row.map (.claimed w · s.clock)) s answer s'
    | .mark record leaseOwner key providerId => MarkStep w record leaseOwner key providerId s answer s'
    | .complete record leaseOwner =>
      Transaction (s.store.completeDelivery s.clock record leaseOwner)
        (updateEvent (.completed w · s.clock)) s answer s'
    | .readIncident incidentId =>
      s' = s ∧ ((∃ e, answer = .error e) ∨
        ∃ incident, s.store.incidents.get incidentId = some incident ∧ answer = .ok incident)
    | .listAttempts incidentId destinationKind =>
      s' = s ∧ ((∃ e, answer = .error e) ∨
        answer = .ok (s.store.attempts.rows.filter fun attempt =>
          attempt.incidentId = incidentId ∧ attempt.destinationKind.text = destinationKind))
    | .listDeliveries incidentId =>
      s' = s ∧ ((∃ e, answer = .error e) ∨
        answer = .ok (s.store.deliveries.rows.filter fun row =>
          row.record.kind = .publicIngressNotification ∧
            row.record.aggregateType = "public_ingress_incident" ∧
            row.record.aggregateId = incidentId))
    | .startDispatch deliveryId .. => s' = s.record (.started w deliveryId .workflowDispatch)
    | .dispatchAnswer deliveryId => s' = s.record (.answered w deliveryId false)
    | .startWebhook deliveryId _ => s' = s.record (.started w deliveryId .discordWebhook)
    | .webhookAnswer deliveryId =>
      s' = s.record (.answered w deliveryId (match answer with
        | .ok outcome => DiscordAnswer.refused outcome
        | .error _ => false))
    -- the other kinds: their handlers mark their own record, and answer with what they change in it
    | .otherHandler record =>
      Relation.ReflTransGen
        (fun s s' => ∃ key providerId answer, MarkStep w record w.text key providerId s answer s') s s'
    -- reads of what others keep, and sends that nothing here depends on
    | _ => s' = s

/-- A delivery as it is enqueued. -/
structure Enqueued (row : OutboxDeliveryRow) : Prop where
  state : row.record.state = .pending
  attempt : row.record.attempt = 0
  key : row.record.providerOperationKey = ""

/-- What happens besides the calls of the workers: time passes, deliveries are enqueued under a new
dedupe key, and the rest of the service writes its own rows. -/
inductive OutboxWorld.Other : OutboxWorld → OutboxWorld → Prop
  | clock (s : OutboxWorld) {now : Nat} (h : s.clock ≤ now) : Other s { s with clock := now }
  | enqueue (s : OutboxWorld) {row : OutboxDeliveryRow} (hrow : Enqueued row)
      (hnew : ∀ other ∈ s.store.deliveries.rows,
        other.record.deliveryId ≠ row.record.deliveryId ∧
          other.record.dedupeKey ≠ row.record.dedupeKey) :
      Other s { s with store := s.store.sync row }
  | rest (s : OutboxWorld) (incidents : Table PublicIngressIncidentRecord (·.incidentId))
      (attempts : Table NotificationAttemptRecord (·.attemptId)) (drain : SelfDeploy.FenceStore) :
      Other s { s with store := { s.store with incidents, attempts, drain } }

/-! ### The protocol of a worker -/

/-- Deliveries of these kinds are sent at most once. -/
def OutboxDeliveryKind.SentOnce (kind : OutboxDeliveryKind) : Prop :=
  kind = .githubWorkflowDispatch ∨ kind = .publicIngressNotification

/-- How far a worker got with what it claimed. -/
inductive WorkerStage
  | idle
  /-- It holds a copy and asked for no marker. -/
  | holding (copy : OutboxDeliveryRecord)
  /-- It asked for a marker and was not told that it is stored. -/
  | unsure (copy : OutboxDeliveryRecord)
  /-- Its marker is stored. -/
  | marked (copy : OutboxDeliveryRecord)
  | sending (copy : OutboxDeliveryRecord) (route : SendRoute)
  | answered (copy : OutboxDeliveryRecord) (route : SendRoute) (refused : Bool)
  | done

namespace WorkerStage

/-- The copy a worker holds. -/
def copy : WorkerStage → Option OutboxDeliveryRecord
  | idle => none
  | holding copy => some copy
  | unsure copy => some copy
  | marked copy => some copy
  | sending copy _ => some copy
  | answered copy _ _ => some copy
  | done => none

/-- Nothing was sent, or it was refused: the marker may go. -/
def Unsent : WorkerStage → Prop
  | holding copy => pyStrip copy.providerOperationKey = ""
  | unsure copy => pyStrip copy.providerOperationKey = ""
  | marked copy => pyStrip copy.providerOperationKey = ""
  | answered copy route refused =>
    pyStrip copy.providerOperationKey = "" ∧ route = .discordWebhook ∧ refused = true
  | _ => False

/-- What a worker may report of the copy it holds: a delivery that is to be sent once keeps its
marker until it ends, unless nothing was sent. -/
structure Reports (stage : WorkerStage) (copy record : OutboxDeliveryRecord) : Prop where
  id : record.deliveryId = copy.deliveryId
  kind : record.kind = copy.kind
  attempt : record.attempt = copy.attempt
  maxAttempts : record.maxAttempts = copy.maxAttempts
  key : copy.kind.SentOnce → ¬ record.state.Terminal → pyStrip record.providerOperationKey = "" →
    stage.Unsent

end WorkerStage

/-- The calls of a worker in each stage, and what it learns from the answers. -/
def outboxProtocol (w : LeaseOwner) : Protocol (Fallible OutboxError OutboxResponse) WorkerStage where
  Allowed stage call := match call with
    | .claim leaseOwner _ => stage = .idle ∧ pyStrip leaseOwner = w.text
    | .mark record leaseOwner _ _ => ∃ copy, stage = .holding copy ∧ copy.kind.SentOnce ∧
        copy.providerOperationKey = "" ∧ record.deliveryId = copy.deliveryId ∧
        pyStrip leaseOwner = w.text
    | .startDispatch deliveryId .. => ∃ copy, stage = .marked copy ∧
        deliveryId = copy.deliveryId ∧ copy.kind = .githubWorkflowDispatch
    | .dispatchAnswer deliveryId => ∃ copy, stage = .sending copy .workflowDispatch ∧
        deliveryId = copy.deliveryId
    | .startWebhook deliveryId _ => ∃ copy, stage = .marked copy ∧
        deliveryId = copy.deliveryId ∧ copy.kind = .publicIngressNotification
    | .webhookAnswer deliveryId => ∃ copy, stage = .sending copy .discordWebhook ∧
        deliveryId = copy.deliveryId
    | .complete record leaseOwner => ∃ copy, stage.copy = some copy ∧ stage.Reports copy record ∧
        pyStrip leaseOwner = w.text
    | .otherHandler record => stage = .holding record ∧ ¬ record.kind.SentOnce
    | _ => True
  next stage call answer := match call with
    | .claim .. => match answer with
      | .ok (some row) => .holding (OutboxDeliveryRow.record row)
      | _ => .done
    | .mark .. => match stage with
      | .holding copy => match answer with
        | .ok ⟨.updated, _⟩ => .marked copy
        | _ => .unsure copy
      | _ => stage
    | .startDispatch .. => match stage with
      | .marked copy => .sending copy .workflowDispatch
      | _ => stage
    | .startWebhook .. => match stage with
      | .marked copy => .sending copy .discordWebhook
      | _ => stage
    | .dispatchAnswer _ => match stage with
      | .sending copy route => .answered copy route false
      | _ => stage
    | .webhookAnswer _ => match stage with
      | .sending copy route => .answered copy route (match answer with
        | .ok outcome => DiscordAnswer.refused outcome
        | .error _ => false)
      | _ => stage
    | .complete .. => .done
    | .otherHandler record => .unsure record
    | _ => stage

end Launchplane.Outbox
