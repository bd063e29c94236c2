import Launchplane.Dict
import Launchplane.Json

/-!
# Launchplane.Outbox.Records

**The records of the outbox**: deliveries, the attempts a notification leaves
behind, and the readers of a delivery's payload.

A delivery is checked and stripped every time it is built or read back
(`validate`); a row that passed is a fixed point of the check (`WellFormed`).
Instants are seconds, as the store writes them, also inside a payload.
-/

namespace Launchplane.Outbox

/-- What a worker's code can raise. -/
inductive OutboxError
  /-- `click.ClickException`, with whether another exception caused it. -/
  | click (message : String) (hasCause : Bool)
  /-- `ValueError` and `KeyError`. -/
  | value (message : String)
  /-- `DiscordNotificationSuperseded`. -/
  | superseded
  /-- Any other exception: of the store, of a driver, or raised by the worker itself. -/
  | other (message : String)
  deriving Repr, DecidableEq

instance : Nonempty OutboxError := ⟨.superseded⟩

/-- `OutboxDeliveryKind`. -/
inductive OutboxDeliveryKind
  | githubWorkflowDispatch | operatorAuthorizationRecoveryAlert | publicIngressNotification
  | releaseDigest | discussionReminder
  deriving Repr, DecidableEq

/-- `OutboxDeliveryState`. -/
inductive OutboxDeliveryState
  | pending | running | delivered | failed | reconcileRequired
  deriving Repr, DecidableEq

/-- The text of a kind. -/
def OutboxDeliveryKind.text : OutboxDeliveryKind → String
  | githubWorkflowDispatch => "github_workflow_dispatch"
  | operatorAuthorizationRecoveryAlert => "operator_authorization_recovery_alert"
  | publicIngressNotification => "public_ingress_notification"
  | releaseDigest => "release_digest"
  | discussionReminder => "discussion_reminder"

/-- The text of a state. -/
def OutboxDeliveryState.text : OutboxDeliveryState → String
  | pending => "pending"
  | running => "running"
  | delivered => "delivered"
  | failed => "failed"
  | reconcileRequired => "reconcile_required"

/-- The states no transaction leaves. -/
def OutboxDeliveryState.Terminal (state : OutboxDeliveryState) : Prop :=
  state = .delivered ∨ state = .failed

instance (state : OutboxDeliveryState) : Decidable state.Terminal :=
  inferInstanceAs (Decidable (_ ∨ _))

/-- `OutboxDeliveryRecord`. -/
structure OutboxDeliveryRecord where
  deliveryId : String
  kind : OutboxDeliveryKind
  state : OutboxDeliveryState := .pending
  aggregateType : String
  aggregateId : String
  dedupeKey : String
  createdAt : Nat
  updatedAt : Nat
  nextAttemptAt : Nat
  leaseOwner : String := ""
  leaseExpiresAt : Option Nat := none
  attempt : Nat := 0
  maxAttempts : Nat := 6
  providerOperationKey : String := ""
  providerId : String := ""
  externalId : String := ""
  externalUrl : String := ""
  action : String := ""
  errorCode : String := ""
  payload : Dict String JsonValue := []

/-- `retry_outbox_delivery`. -/
def retryOutboxDelivery (record : OutboxDeliveryRecord) (errorCode : String) :
    OutboxDeliveryRecord :=
  { record with
    state := .pending
    errorCode := if pyStrip errorCode = "" then "provider_error" else pyStrip errorCode
    action := ""
    externalId := ""
    externalUrl := ""
    leaseOwner := ""
    leaseExpiresAt := none }

/-! ### Reading a payload -/

/-- `payload.get(key)`. -/
def payloadField (payload : Dict String JsonValue) (key : String) : JsonValue :=
  (payload.get key).getD .null

/-- `_dict_payload`. -/
def dictPayload (value : JsonValue) : Except OutboxError (Dict String JsonValue) :=
  match value with
  | .object fields => .ok fields
  | _ => .error (.value "outbox public ingress payload is malformed")

/-- `_optional_payload_text`. -/
def optionalPayloadText (payload : Dict String JsonValue) (key : String) : String :=
  match payloadField payload key with
  | .string s => pyStrip s
  | _ => ""

/-- `_required_payload_text`: the workflow's and the notifications' differ in the exception. -/
def requiredPayloadText (error : OutboxError) (payload : Dict String JsonValue) (key : String) :
    Except OutboxError String :=
  if optionalPayloadText payload key = "" then .error error
  else .ok (optionalPayloadText payload key)

/-- `str(payload[key])`. -/
def indexText (payload : Dict String JsonValue) (key : String) : Except OutboxError String :=
  match payload.get key with
  | some (.string s) => .ok s
  | some value => .ok value.text
  | none => .error (.value key)

/-- `payload[outer][inner].as_string()` of a column of JSON, where `none` is `NULL`. -/
def columnText (payload : Dict String JsonValue) (outer inner : String) : Option String :=
  match (payloadField payload outer).field inner with
  | .string s => some s
  | .number n => some (toString n)
  | .bool b => some (if b then "true" else "false")
  | _ => none

/-- `PublicIngressIncidentEvent`. -/
inductive PublicIngressIncidentEvent
  | opened | updated | reminder | resolved
  deriving Repr, DecidableEq

/-- `_public_ingress_event_value`. -/
def publicIngressEventValue (value : JsonValue) : Except OutboxError PublicIngressIncidentEvent :=
  match value with
  | .string "opened" => .ok .opened
  | .string "updated" => .ok .updated
  | .string "reminder" => .ok .reminder
  | .string "resolved" => .ok .resolved
  | _ => .error (.value "outbox public ingress payload has invalid event")

/-- The text of an event. -/
def PublicIngressIncidentEvent.text : PublicIngressIncidentEvent → String
  | .opened => "opened"
  | .updated => "updated"
  | .reminder => "reminder"
  | .resolved => "resolved"

/-- `PublicIngressNotificationDestinationKind`. -/
inductive NotificationDestinationKind
  | githubIssue | email | discord
  deriving Repr, DecidableEq

/-- The text of a destination's kind. -/
def NotificationDestinationKind.text : NotificationDestinationKind → String
  | .githubIssue => "github_issue"
  | .email => "email"
  | .discord => "discord"

/-- The kind of a destination a payload names. -/
def destinationKindValue (value : JsonValue) : Except OutboxError NotificationDestinationKind :=
  match value with
  | .string "github_issue" => .ok .githubIssue
  | .string "email" => .ok .email
  | .string "discord" => .ok .discord
  | _ => .error (.value "destination_kind")

/-- `PublicIngressNotificationDeliveryStatus`. -/
inductive NotificationDeliveryStatus
  | delivered | skipped | failed
  deriving Repr, DecidableEq

/-- The text of a delivery's status. -/
def NotificationDeliveryStatus.text : NotificationDeliveryStatus → String
  | .delivered => "delivered"
  | .skipped => "skipped"
  | .failed => "failed"

/-- The status a payload names. -/
def deliveryStatusValue (value : JsonValue) : Except OutboxError NotificationDeliveryStatus :=
  match value with
  | .string "delivered" => .ok .delivered
  | .string "skipped" => .ok .skipped
  | .string "failed" => .ok .failed
  | _ => .error (.value "delivery_status")

/-- `PublicIngressNotificationAttemptRecord`. -/
structure NotificationAttemptRecord where
  attemptId : String
  incidentId : String
  event : PublicIngressIncidentEvent
  policyId : String
  destinationId : String
  destinationKind : NotificationDestinationKind
  deliveryStatus : NotificationDeliveryStatus
  attemptedAt : Int
  observationId : String
  incidentEventId : String := ""
  externalUrl : String := ""
  externalId : String := ""
  action : String := ""
  errorMessage : String := ""
  deriving Repr, DecidableEq

/-- The fields of an attempt; a payload with another one is refused. -/
def attemptFields : List String :=
  ["schema_version", "attempt_id", "incident_id", "event", "policy_id", "destination_id",
    "destination_kind", "delivery_status", "attempted_at", "observation_id", "incident_event_id",
    "external_url", "external_id", "action", "error_message"]

/-- A text field of a model that has no default. -/
def requiredField (payload : Dict String JsonValue) (key : String) : Except OutboxError String :=
  match payload.get key with
  | some (.string s) =>
    if pyStrip s = "" then
      .error (.value ("public ingress notification attempt requires " ++ key))
    else .ok (pyStrip s)
  | _ => .error (.value key)

/-- A text field of a model whose default is the empty text. -/
def optionalField (payload : Dict String JsonValue) (key : String) : Except OutboxError String :=
  match payload.get key with
  | some (.string s) => .ok (pyStrip s)
  | none => .ok ""
  | _ => .error (.value key)

/-- A field that holds an instant. -/
def instantField (payload : Dict String JsonValue) (key : String) : Except OutboxError Int :=
  match payload.get key with
  | some (.number n) => .ok n
  | _ => .error (.value ("public ingress notification attempt requires " ++ key))

/-- `PublicIngressNotificationAttemptRecord.model_validate`. -/
def validateAttempt (payload : Dict String JsonValue) :
    Except OutboxError NotificationAttemptRecord := do
  raiseIf (∃ key ∈ payload.keys, key ∉ attemptFields) (.value "extra fields not permitted")
  let attemptId ← requiredField payload "attempt_id"
  let incidentId ← requiredField payload "incident_id"
  let event ← publicIngressEventValue (payloadField payload "event")
  let policyId ← requiredField payload "policy_id"
  let destinationId ← requiredField payload "destination_id"
  let destinationKind ← destinationKindValue (payloadField payload "destination_kind")
  let deliveryStatus ← deliveryStatusValue (payloadField payload "delivery_status")
  let attemptedAt ← instantField payload "attempted_at"
  let observationId ← requiredField payload "observation_id"
  let incidentEventId ← optionalField payload "incident_event_id"
  let externalUrl ← optionalField payload "external_url"
  let externalId ← optionalField payload "external_id"
  let action ← optionalField payload "action"
  let errorMessage ← optionalField payload "error_message"
  raiseIf (deliveryStatus = .failed ∧ errorMessage = "")
    (.value "failed public ingress notification attempt requires error_message")
  raiseIf (deliveryStatus = .delivered ∧ action = "")
    (.value "delivered public ingress notification attempt requires action")
  return { attemptId, incidentId, event, policyId, destinationId, destinationKind, deliveryStatus,
           attemptedAt, observationId, incidentEventId, externalUrl, externalId, action,
           errorMessage }

/-- A computation that raises nothing but value errors. -/
def ValueErrorsOnly {α : Type} (x : Except OutboxError α) : Prop :=
  ∀ error, x = .error error → ∃ message, error = .value message

section ValueErrors

variable {α β : Type}

theorem valueErrors_ok (a : α) : ValueErrorsOnly (.ok a) := by
  intro error h
  cases h

theorem valueErrors_error (message : String) :
    ValueErrorsOnly (.error (.value message) : Except OutboxError α) := by
  intro error h
  cases h
  exact ⟨message, rfl⟩

theorem valueErrors_bind {x : Except OutboxError α} {f : α → Except OutboxError β}
    (hx : ValueErrorsOnly x) (hf : ∀ a, ValueErrorsOnly (f a)) : ValueErrorsOnly (x >>= f) := by
  intro error h
  cases x with
  | error raised =>
      cases h
      exact hx error rfl
  | ok a => exact hf a error h

theorem valueErrors_raiseIf {condition : Prop} [Decidable condition] {message : String} :
    ValueErrorsOnly (raiseIf condition (.value message)) := by
  unfold raiseIf
  split
  · exact valueErrors_error _
  · exact valueErrors_ok _

variable (payload : Dict String JsonValue) (key : String)

theorem valueErrors_requiredField : ValueErrorsOnly (requiredField payload key) := by
  unfold requiredField
  split
  · split
    · exact valueErrors_error _
    · exact valueErrors_ok _
  · exact valueErrors_error _

theorem valueErrors_optionalField : ValueErrorsOnly (optionalField payload key) := by
  unfold optionalField
  split
  · exact valueErrors_ok _
  · exact valueErrors_ok _
  · exact valueErrors_error _

theorem valueErrors_instantField : ValueErrorsOnly (instantField payload key) := by
  unfold instantField
  split
  · exact valueErrors_ok _
  · exact valueErrors_error _

theorem valueErrors_event (value : JsonValue) : ValueErrorsOnly (publicIngressEventValue value) := by
  unfold publicIngressEventValue
  split <;> first | exact valueErrors_ok _ | exact valueErrors_error _

theorem valueErrors_destinationKind (value : JsonValue) :
    ValueErrorsOnly (destinationKindValue value) := by
  unfold destinationKindValue
  split <;> first | exact valueErrors_ok _ | exact valueErrors_error _

theorem valueErrors_deliveryStatus (value : JsonValue) :
    ValueErrorsOnly (deliveryStatusValue value) := by
  unfold deliveryStatusValue
  split <;> first | exact valueErrors_ok _ | exact valueErrors_error _

theorem valueErrors_validateAttempt : ValueErrorsOnly (validateAttempt payload) := by
  refine valueErrors_bind valueErrors_raiseIf fun _ =>
    valueErrors_bind (valueErrors_requiredField _ _) fun _ =>
    valueErrors_bind (valueErrors_requiredField _ _) fun _ =>
    valueErrors_bind (valueErrors_event _) fun _ =>
    valueErrors_bind (valueErrors_requiredField _ _) fun _ =>
    valueErrors_bind (valueErrors_requiredField _ _) fun _ =>
    valueErrors_bind (valueErrors_destinationKind _) fun _ =>
    valueErrors_bind (valueErrors_deliveryStatus _) fun _ =>
    valueErrors_bind (valueErrors_instantField _ _) fun _ => ?_
  refine valueErrors_bind (valueErrors_requiredField _ _) fun _ =>
    valueErrors_bind (valueErrors_optionalField _ _) fun _ =>
    valueErrors_bind (valueErrors_optionalField _ _) fun _ =>
    valueErrors_bind (valueErrors_optionalField _ _) fun _ =>
    valueErrors_bind (valueErrors_optionalField _ _) fun _ =>
    valueErrors_bind (valueErrors_optionalField _ _) fun _ => ?_
  exact valueErrors_bind valueErrors_raiseIf fun _ =>
    valueErrors_bind valueErrors_raiseIf fun _ => valueErrors_ok _

end ValueErrors

/-- `attempt.model_dump(mode="json")`. -/
def NotificationAttemptRecord.dump (attempt : NotificationAttemptRecord) : JsonValue :=
  .object
    [("schema_version", .number 1), ("attempt_id", .string attempt.attemptId),
      ("incident_id", .string attempt.incidentId), ("event", .string attempt.event.text),
      ("policy_id", .string attempt.policyId), ("destination_id", .string attempt.destinationId),
      ("destination_kind", .string attempt.destinationKind.text),
      ("delivery_status", .string attempt.deliveryStatus.text),
      ("attempted_at", .number attempt.attemptedAt),
      ("observation_id", .string attempt.observationId),
      ("incident_event_id", .string attempt.incidentEventId),
      ("external_url", .string attempt.externalUrl),
      ("external_id", .string attempt.externalId), ("action", .string attempt.action),
      ("error_message", .string attempt.errorMessage)]

/-! ### Incidents -/

/-- `PublicIngressIncidentStatus`. -/
inductive PublicIngressIncidentStatus
  | open | resolved
  deriving Repr, DecidableEq

/-- `PublicIngressIncidentResolutionReason`. -/
inductive IncidentResolutionReason
  | recovered | monitoringIntentChanged | duplicateReconciled | requestRefused
  deriving Repr, DecidableEq

/-- `PublicIngressIncidentNotificationState`. -/
inductive IncidentNotificationState
  | active | acknowledged | silenced
  deriving Repr, DecidableEq

/-- `PublicIngressIncidentRecord`, with the fields a delivery depends on. An empty text for a
reason or an event is `none`. -/
structure PublicIngressIncidentRecord where
  incidentId : String
  checkName : String := "public-ingress"
  status : PublicIngressIncidentStatus
  latestObservationId : String
  resolvedObservationId : String := ""
  resolutionReason : Option IncidentResolutionReason := none
  critical : Bool := true
  materialFingerprintSha256 : String := ""
  latestMaterialEventId : String := ""
  /-- `none` also for the event `baseline`. -/
  latestMaterialEvent : Option PublicIngressIncidentEvent := none
  notificationState : IncidentNotificationState := .active
  deriving Repr, DecidableEq

/-- `is_matching_incident_resolution`. -/
def IsMatchingIncidentResolution (incident : PublicIngressIncidentRecord)
    (attempt : Dict String JsonValue) : Prop :=
  (payloadField attempt "event").isText "resolved" ∧ incident.status = .resolved ∧
    (incident.resolutionReason = some .recovered ∨
      incident.resolutionReason = some .monitoringIntentChanged) ∧
    (payloadField attempt "observation_id").isText incident.resolvedObservationId ∧
    (payloadField attempt "incident_event_id").isText incident.latestMaterialEventId

instance (incident : PublicIngressIncidentRecord) (attempt : Dict String JsonValue) :
    Decidable (IsMatchingIncidentResolution incident attempt) :=
  inferInstanceAs (Decidable (_ ∧ _))

/-! ### The check of a delivery -/

/-- `_looks_sensitive_key`. -/
def looksSensitiveKey (key : String) : Bool :=
  ["authorization", "bearer", "ciphertext", "cookie", "password", "secret", "token",
    "webhook_url"].any fun token => token.toList <:+: key.toList

mutual

/-- `_reject_sensitive_payload`. -/
def rejectSensitive (path : String) : JsonValue → Except OutboxError Unit
  | .object fields => rejectSensitiveFields path fields
  | .array items => rejectSensitiveItems path 0 items
  | _ => .ok ()

/-- The fields of an object. -/
def rejectSensitiveFields (path : String) : List (String × JsonValue) → Except OutboxError Unit
  | [] => .ok ()
  | (rawKey, nested) :: rest => do
    let key := pyLower (pyStrip rawKey)
    raiseIf (looksSensitiveKey key = true)
      (.value ("outbox delivery payload cannot include sensitive field " ++ path ++ "." ++ key))
    rejectSensitive (path ++ "." ++ key) nested
    rejectSensitiveFields path rest

/-- The items of an array, from an index on. -/
def rejectSensitiveItems (path : String) (index : Nat) : List JsonValue → Except OutboxError Unit
  | [] => .ok ()
  | nested :: rest => do
    rejectSensitive (path ++ "[" ++ toString index ++ "]") nested
    rejectSensitiveItems path (index + 1) rest

end

theorem rejectSensitiveFields_eq_ok {path : String} {fields : List (String × JsonValue)} :
    rejectSensitiveFields path fields = .ok () ↔
      ∀ field ∈ fields, looksSensitiveKey (pyLower (pyStrip field.1)) = false ∧
        rejectSensitive (path ++ "." ++ pyLower (pyStrip field.1)) field.2 = .ok () := by
  induction fields with
  | nil => simp [rejectSensitiveFields]
  | cons field rest ih =>
      obtain ⟨rawKey, nested⟩ := field
      simp [rejectSensitiveFields, guard_eq_ok, ih, and_assoc]

/-- A text under a harmless key may be added to a payload. -/
theorem rejectSensitiveFields_set {path key text : String} {payload : Dict String JsonValue}
    (hkey : looksSensitiveKey (pyLower (pyStrip key)) = false)
    (h : rejectSensitiveFields path payload = .ok ()) :
    rejectSensitiveFields path (payload.set key (.string text)) = .ok () := by
  rw [rejectSensitiveFields_eq_ok] at h ⊢
  intro field hfield
  rcases Dict.mem_set hfield with rfl | hold
  · exact ⟨hkey, rfl⟩
  · exact h field hold

namespace OutboxDeliveryRecord

/-- The record with its texts stripped. -/
def stripped (record : OutboxDeliveryRecord) : OutboxDeliveryRecord :=
  { record with
    deliveryId := pyStrip record.deliveryId
    aggregateType := pyStrip record.aggregateType
    aggregateId := pyStrip record.aggregateId
    dedupeKey := pyStrip record.dedupeKey
    leaseOwner := pyStrip record.leaseOwner
    providerOperationKey := pyStrip record.providerOperationKey
    providerId := pyStrip record.providerId
    externalId := pyStrip record.externalId
    externalUrl := pyStrip record.externalUrl
    action := pyStrip record.action
    errorCode := pyStrip record.errorCode }

/-- `_validate_record`, after the bounds of the fields. -/
def validate (record : OutboxDeliveryRecord) : Except OutboxError OutboxDeliveryRecord := do
  raiseIf (record.maxAttempts < 1 ∨ 100 < record.maxAttempts) (.value "max_attempts")
  let record := record.stripped
  raiseIf (record.deliveryId = "") (.value "outbox delivery requires delivery_id")
  raiseIf (record.aggregateType = "") (.value "outbox delivery requires aggregate_type")
  raiseIf (record.aggregateId = "") (.value "outbox delivery requires aggregate_id")
  raiseIf (record.dedupeKey = "") (.value "outbox delivery requires dedupe_key")
  raiseIf (record.state = .running ∧ record.leaseOwner = "")
    (.value "running outbox deliveries require lease_owner")
  raiseIf (record.state = .running ∧ record.leaseExpiresAt = none)
    (.value "running outbox deliveries require lease_expires_at")
  raiseIf (record.state ≠ .running ∧ (record.leaseOwner ≠ "" ∨ record.leaseExpiresAt ≠ none))
    (.value "non-running outbox deliveries cannot retain lease fields")
  raiseIf (record.state = .delivered ∧ record.action = "")
    (.value "delivered outbox deliveries require action")
  raiseIf (record.state = .failed ∧ record.errorCode = "")
    (.value "failed outbox deliveries require error_code")
  raiseIf (record.state = .reconcileRequired ∧ record.providerOperationKey = "")
    (.value "reconcile-required outbox deliveries require provider_operation_key")
  rejectSensitiveFields "payload" record.payload
  return record

/-- A record the check leaves as it is. -/
def WellFormed (record : OutboxDeliveryRecord) : Prop := record.validate = .ok record

@[simp] theorem stripped_stripped (record : OutboxDeliveryRecord) :
    record.stripped.stripped = record.stripped := by simp [stripped]

theorem validate_eq_ok {record checked : OutboxDeliveryRecord} (h : record.validate = .ok checked) :
    checked = record.stripped := by
  unfold validate at h
  simp only [guard_eq_ok] at h
  obtain ⟨-, -, -, -, -, -, -, -, -, -, -, -, h⟩ := h
  exact (Except.ok.inj h).symm

/-- What is built passes the check again. -/
theorem wellFormed_of_validate {record checked : OutboxDeliveryRecord}
    (h : record.validate = .ok checked) : checked.WellFormed := by
  obtain rfl := validate_eq_ok h
  unfold WellFormed validate at *
  rw [stripped_stripped]
  exact h

/-- Of a payload, the check looks at the keys only. -/
theorem WellFormed.withPayload {record : OutboxDeliveryRecord} (h : record.WellFormed)
    {payload : Dict String JsonValue}
    (hpayload : rejectSensitiveFields "payload" record.payload = .ok () →
      rejectSensitiveFields "payload" payload = .ok ()) :
    { record with payload }.WellFormed := by
  have hstripped : { record with payload }.stripped = { record with payload } :=
    congrArg (fun checked => { checked with payload }) (validate_eq_ok h).symm
  unfold WellFormed validate at *
  rw [← validate_eq_ok h] at h
  simp only [guard_eq_ok, raiseIf_eq_ok, hstripped] at h ⊢
  obtain ⟨hmax, hid, htype, haggregate, hdedupe, howner, hlease, hfree, haction, herror, hkey,
    hsafe, -⟩ := h
  exact ⟨hmax, hid, htype, haggregate, hdedupe, howner, hlease, hfree, haction, herror, hkey,
    hpayload hsafe, rfl⟩

end OutboxDeliveryRecord

/-- A row of the outbox. -/
structure OutboxDeliveryRow where
  record : OutboxDeliveryRecord
  wellFormed : record.WellFormed

namespace OutboxDeliveryRow

/-- `OutboxDeliveryRecord.model_validate`. -/
def build (record : OutboxDeliveryRecord) : Except OutboxError OutboxDeliveryRow :=
  match h : record.validate with
  | .ok checked => .ok ⟨checked, OutboxDeliveryRecord.wellFormed_of_validate h⟩
  | .error e => .error e

theorem build_eq_ok {record : OutboxDeliveryRecord} {row : OutboxDeliveryRow}
    (h : build record = .ok row) : row.record = record.stripped := by
  unfold build at h
  split at h
  · rename_i checked hvalid
    obtain rfl := Except.ok.inj h
    exact OutboxDeliveryRecord.validate_eq_ok hvalid
  · cases h

variable (row : OutboxDeliveryRow)

@[simp] theorem stripped_record : row.record.stripped = row.record :=
  (OutboxDeliveryRecord.validate_eq_ok row.wellFormed).symm

@[simp] theorem pyStrip_deliveryId : pyStrip row.record.deliveryId = row.record.deliveryId :=
  congrArg OutboxDeliveryRecord.deliveryId row.stripped_record

@[simp] theorem pyStrip_providerOperationKey :
    pyStrip row.record.providerOperationKey = row.record.providerOperationKey :=
  congrArg OutboxDeliveryRecord.providerOperationKey row.stripped_record

theorem running_iff :
    row.record.state = .running ↔ ∃ expiresAt, row.record.leaseExpiresAt = some expiresAt := by
  have h := row.wellFormed
  unfold OutboxDeliveryRecord.WellFormed OutboxDeliveryRecord.validate at h
  simp only [guard_eq_ok, raiseIf_eq_ok, stripped_record] at h
  obtain ⟨-, -, -, -, -, -, hexpires, hfree, -⟩ := h
  rw [← Option.ne_none_iff_exists']
  constructor
  · exact fun hrunning hnone => hexpires ⟨hrunning, hnone⟩
  · intro hlease
    by_contra hidle
    exact hfree ⟨hidle, .inr hlease⟩

end OutboxDeliveryRow

end Launchplane.Outbox
