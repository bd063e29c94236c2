import Launchplane.Outbox.Conduct

/-!
# Launchplane.Outbox.Notification

**The delivery of an incident's notification.** A delivery is screened first: it
may be stale, or stand for a backlog. What remains is sent by e-mail or to a
Discord webhook (`directDelivery`), or written into a GitHub issue
(`issueDelivery`), where an interrupted attempt can be found again by its marker.

Neither e-mail nor Discord can be asked whether a message arrived. A worker that
finds a marker on such a delivery gives it up; a worker that learned that Discord
refused a message gives the marker back.
-/

namespace Launchplane.Outbox

open Launchplane.Interaction

/-- A text a notification needs. -/
def requiredNotificationText (payload : Dict String JsonValue) (key : String) :
    Except OutboxError String :=
  requiredPayloadText (.value ("outbox public ingress payload missing " ++ key)) payload key

/-- A record that ends with a failure. -/
def failedDelivery (record : OutboxDeliveryRecord) (errorCode : String) : OutboxDeliveryRecord :=
  { record with state := .failed, errorCode, leaseOwner := "", leaseExpiresAt := none }

/-- `{**attempt, "delivery_status": …, "action": …}`. -/
def withOutcome (attempt : Dict String JsonValue) (status : NotificationDeliveryStatus)
    (action : String) : Dict String JsonValue :=
  (attempt.set "delivery_status" (.string status.text)).set "action" (.string action)

/-- `_superseded_incident_outbox_delivery`. -/
def supersededDelivery (record : OutboxDeliveryRecord) (reason : String) :
    Except OutboxError OutboxDeliveryRecord :=
  if record.providerOperationKey ≠ "" then .ok (failedDelivery record "delivery_outcome_unknown")
  else do
    let attemptPayload ← dictPayload (payloadField record.payload "attempt")
    let attempt ← validateAttempt (withOutcome attemptPayload .skipped reason)
    return { record with
      state := .delivered
      action := if "superseded_".toList.isPrefixOf reason.toList then reason
        else "skipped_" ++ reason
      errorCode := ""
      leaseOwner := ""
      leaseExpiresAt := none
      payload := record.payload.set "attempt_result" attempt.dump }

/-- The `except` clauses around the delivery of a notification. -/
def notificationFailure (record : OutboxDeliveryRecord) (error : OutboxError) :
    Except OutboxError OutboxDeliveryRecord :=
  match error with
  | .superseded => supersededDelivery record "state_changed_before_send"
  | .value _ => .ok (failedDelivery record "invalid_outbox_payload")
  | _ => .ok (retryOutboxDelivery record "github_provider_error")

/-! ### Screening -/

/-- `failure_notification_delivered`. -/
def failureNotificationDelivered (attempts : List NotificationAttemptRecord)
    (policyId destinationId : String) : Bool :=
  attempts.any fun attempt =>
    attempt.deliveryStatus = .delivered && attempt.event ≠ .resolved &&
      attempt.policyId = policyId && attempt.destinationId = destinationId

/-- `a == b` of two values that are not containers. -/
def sameScalar : JsonValue → JsonValue → Bool
  | .null, .null => true
  | .bool a, .bool b => a = b
  | .number a, .number b => a = b
  | .string a, .string b => a = b
  | _, _ => false

/-- Whether a delivery has already opened the issue a resolution would close. -/
def openedIssue (attempt destination : Dict String JsonValue) (previous : OutboxDeliveryRow) :
    Except OutboxError Bool :=
  if previous.record.providerOperationKey = "" then .ok false
  else do
    let previousAttempt ← dictPayload (payloadField previous.record.payload "attempt")
    if (payloadField previousAttempt "event").isText "resolved" ∨
        ¬ sameScalar (payloadField previousAttempt "policy_id")
          (payloadField attempt "policy_id") then
      return false
    else
      let previousDestination ← dictPayload (payloadField previous.record.payload "destination")
      return sameScalar (payloadField previousDestination "destination_id")
          (payloadField destination "destination_id") &&
        (payloadField previousDestination "kind").isText "github_issue"

/-- Whether a resolution has something to resolve: a failure was notified before. -/
def matchingResolution (incident : PublicIngressIncidentRecord)
    (attempt destination : Dict String JsonValue) : WorkerProgram Bool := do
  if IsMatchingIncidentResolution incident attempt then
    let kind ← Act.ofExcept (requiredNotificationText destination "kind")
    let attempts : List NotificationAttemptRecord ←
      ask (.listAttempts incident.incidentId kind)
    let policyId ← Act.ofExcept (requiredNotificationText attempt "policy_id")
    let destinationId ← Act.ofExcept (requiredNotificationText attempt "destination_id")
    if failureNotificationDelivered attempts policyId destinationId then return true
    else if (payloadField destination "kind").isText "github_issue" ∧
        payloadField destination "github_issue_number" matches .null then
      let deliveries : List OutboxDeliveryRow ← ask (.listDeliveries incident.incidentId)
      Act.ofExcept (deliveries.anyM (openedIssue attempt destination))
    else return false
  else return false

/-- `_discord_incident_pages`. -/
def discordIncidentPages (incident : PublicIngressIncidentRecord)
    (event : PublicIngressIncidentEvent) : Bool :=
  event = .resolved || incident.critical && (event = .opened || event = .updated)

/-- Why a notification is not sent, if there is a reason. -/
def supersession (incident : PublicIngressIncidentRecord) (event : PublicIngressIncidentEvent)
    (matching discord : Bool) : Option String :=
  let retiredRefusal := incident.status = .resolved ∧
    incident.resolutionReason = some .requestRefused
  if (incident.status = .resolved ∧ ¬ matching) ∨ (event = .resolved ∧ ¬ matching) ∨
      retiredRefusal ∨ incident.checkName = "production-delivery-lag" then
    if retiredRefusal then some "retired_production_refusal"
    else if incident.checkName = "production-delivery-lag" then some "retired_source_lag"
    else some "superseded_incident_resolved"
  else if discord then
    if incident.notificationState ≠ .active ∧ ¬ matching then some "incident_not_active"
    else if ¬ discordIncidentPages incident event then some "discord_page_only"
    else none
  else none

/-- The delivery of a retired summary ends. -/
def retiredSummary (record : OutboxDeliveryRecord) : OutboxDeliveryRecord :=
  { record with
    state := if record.providerOperationKey ≠ "" then .failed else .delivered
    action := if record.providerOperationKey ≠ "" then record.action
      else "skipped_retired_discord_summary"
    errorCode := if record.providerOperationKey ≠ "" then "delivery_outcome_unknown" else ""
    leaseOwner := ""
    leaseExpiresAt := none }

/-- What the screening leaves to do. -/
inductive Screened
  | ends (result : OutboxDeliveryRecord)
  | direct (attempt destination : Dict String JsonValue)
  | issue (attempt destination : Dict String JsonValue)

/-- The delivery of a notification up to the choice of its channel. -/
def screenNotification (record : OutboxDeliveryRecord) : WorkerProgram Screened := do
  if record.aggregateType = "public_ingress_discord_summary" then
    return .ends (retiredSummary record)
  else
    let attempt ← Act.ofExcept (dictPayload (payloadField record.payload "attempt"))
    let destination ← Act.ofExcept (dictPayload (payloadField record.payload "destination"))
    let incident : PublicIngressIncidentRecord ← ask (.readIncident record.aggregateId)
    let event ← Act.ofExcept (publicIngressEventValue (payloadField attempt "event"))
    let matching ← matchingResolution incident attempt destination
    match supersession incident event matching
        ((payloadField destination "kind").isText "discord") with
    | some reason =>
      let result ← Act.ofExcept (supersededDelivery record reason)
      return .ends result
    | none =>
      let summaryDeliveryId := payloadField record.payload OutboxStore.backlogSummaryDeliveryKey
      if summaryDeliveryId.truthy ∧ ¬ summaryDeliveryId.isText record.deliveryId then
        let result ← Act.ofExcept (supersededDelivery record "superseded_incident_backlog")
        return .ends result
      else if (payloadField destination "kind").isText "email" ∨
          (payloadField destination "kind").isText "discord" then
        return .direct attempt destination
      else return .issue attempt destination

/-! ### E-mail and Discord -/

/-- `PublicIngressNotificationDelivery`, as far as its caller reads it. -/
structure NotificationDelivery where
  deliveryStatus : NotificationDeliveryStatus
  action : String
  outcomeUnknown : Bool := false
  deriving Repr, DecidableEq

/-- `_deliver_email_notification`. -/
def deliverEmail (destination : NotificationDestination) : WorkerProgram NotificationDelivery := do
  let username : String ← ask (.resolveSecret destination.smtpUsernameSecret)
  let password : String ← ask (.resolveSecret destination.smtpPasswordSecret)
  if pyStrip username = "" ∨ pyStrip password = "" then
    return { deliveryStatus := .failed, action := "missing_smtp_secret" }
  else
    let _ : Unit ← ask (.sendEmail destination)
    return { deliveryStatus := .delivered, action := "sent_email" }

/-- The post to the webhook: an exception other than a refusal leaves its outcome unknown. -/
def postDiscord (deliveryId webhookUrl : String) : WorkerProgram NotificationDelivery :=
  tryCatch
    (do
      let _ : Unit ← ask (.startWebhook deliveryId webhookUrl)
      let answer : DiscordAnswer ← ask (.webhookAnswer deliveryId)
      match answer with
      | .posted => return { deliveryStatus := .delivered, action := "posted_discord" }
      | answer => return { deliveryStatus := .failed, action := "provider_error",
                           outcomeUnknown := !answer.refused })
    fun _ => return { deliveryStatus := .failed, action := "provider_error",
                      outcomeUnknown := true }

/-- `_deliver_discord_notification`. -/
def deliverDiscord (deliveryId : String) (destination : NotificationDestination)
    (event : PublicIngressIncidentEvent) (incident : PublicIngressIncidentRecord) :
    WorkerProgram NotificationDelivery := do
  if ¬ discordIncidentPages incident event then
    return { deliveryStatus := .skipped, action := "skipped_discord_page_only" }
  else
    let secret : String ← ask (.resolveSecret destination.discordWebhookSecret)
    if pyStrip secret = "" then
      return { deliveryStatus := .failed, action := "missing_discord_webhook" }
    else
      let urlError : String ← ask (.urlError (pyStrip secret))
      if urlError ≠ "" then
        return { deliveryStatus := .failed, action := "invalid_discord_webhook" }
      else postDiscord deliveryId (pyStrip secret)

/-- `PublicIngressNotificationDriverSet.send`. -/
def sendNotification (deliveryId : String) (destination : NotificationDestination)
    (event : PublicIngressIncidentEvent) (incident : PublicIngressIncidentRecord) :
    WorkerProgram NotificationDelivery :=
  tryCatch
    (match destination.kind with
    | .email => deliverEmail destination
    | .discord => deliverDiscord deliveryId destination event incident
    -- not for the direct delivery, whose destination is of the payload's kind
    | .githubIssue => return { deliveryStatus := .failed, action := "unsupported_destination" })
    fun _ => return { deliveryStatus := .failed, action := "provider_error" }

/-- The destination of a policy a payload names. -/
def enabledDestination (policies : List NotificationPolicy)
    (attempt destination : Dict String JsonValue) : Option NotificationDestination :=
  ((policies.filter fun policy => (payloadField attempt "policy_id").isText policy.policyId).flatMap
      (·.destinations)).find? fun candidate =>
    (payloadField destination "destination_id").isText candidate.destinationId &&
      (payloadField destination "kind").isText candidate.kind.text && candidate.enabled

/-- Either the delivery ends before anything is sent, or this is what to send. -/
structure DirectPlan where
  destination : NotificationDestination
  event : PublicIngressIncidentEvent
  incident : PublicIngressIncidentRecord
  attempt : Dict String JsonValue
  operationKey : String
  payload : Dict String JsonValue

/-- `_deliver_direct_notification_outbox` up to its marker. -/
def planDirect (record : OutboxDeliveryRecord) (attempt destination : Dict String JsonValue) :
    WorkerProgram (OutboxDeliveryRecord ⊕ DirectPlan) := do
  let incident : PublicIngressIncidentRecord ← ask (.readIncident record.aggregateId)
  let discord := (payloadField destination "kind").isText "discord"
  let summary := (payloadField record.payload OutboxStore.backlogSummaryDeliveryKey).isText
    record.deliveryId && !discord
  let observationId ←
    (if summary then return incident.latestObservationId
    else Act.ofExcept (indexText attempt "observation_id") : WorkerProgram String)
  let observation : PublicIngressObservationRecord ← ask (.readObservation observationId)
  if discord ∧ ¬ summary ∧ observation.materialFingerprintSha256 ≠ "" ∧
      incident.materialFingerprintSha256 ≠ observation.materialFingerprintSha256 then
    let result ← Act.ofExcept (supersededDelivery record "material_state_changed")
    return .inl result
  else
    let event ← Act.ofExcept (publicIngressEventValue (payloadField attempt "event"))
    let _body ← Act.ofExcept (requiredNotificationText record.payload "body")
    let attempt := if summary then
        (attempt.set "observation_id" (.string observation.recordId)).set "attempted_at"
          (.number record.updatedAt)
      else attempt
    let policies : List NotificationPolicy ← ask (.matchingPolicies incident)
    match enabledDestination policies attempt destination with
    | none => return .inl (failedDelivery record "destination_unavailable")
    | some target =>
      let operationKey ← Act.ofExcept (indexText attempt "attempt_id")
      let payload := if target.kind = .discord then
          record.payload.set "incident_states"
            (.array [.array [.string incident.incidentId,
              .string incident.materialFingerprintSha256]])
        else record.payload
      return .inr { destination := target, event, incident, attempt, operationKey, payload }

/-- The outcome of a direct delivery: a send that may have happened is not repeated. -/
def directOutcome (record : OutboxDeliveryRecord) (plan : DirectPlan)
    (delivery : NotificationDelivery) : Except OutboxError OutboxDeliveryRecord := do
  let attempt ← validateAttempt
    ((withOutcome plan.attempt delivery.deliveryStatus delivery.action).set "error_message"
      (.string (if delivery.deliveryStatus = .failed then "Delivery failed." else "")))
  return { record with
    state := if delivery.outcomeUnknown then .failed
      else if delivery.deliveryStatus = .failed then .pending else .delivered
    providerId := plan.destination.kind.text
    providerOperationKey := if delivery.outcomeUnknown then plan.operationKey else ""
    action := delivery.action
    errorCode := if delivery.outcomeUnknown then "delivery_outcome_unknown"
      else if delivery.deliveryStatus = .failed then "provider_error" else ""
    leaseOwner := ""
    leaseExpiresAt := none
    payload := plan.payload.set "attempt_result" attempt.dump }

/-- `_deliver_direct_notification_outbox`. -/
def directDelivery (record : OutboxDeliveryRecord) (attempt destination : Dict String JsonValue)
    (mark : OutboxDeliveryRecord → String → String → WorkerProgram Unit) :
    WorkerProgram OutboxDeliveryRecord := do
  -- neither SMTP nor Discord can reconcile an interrupted send by event identity
  if record.providerOperationKey ≠ "" then
    return failedDelivery record "delivery_outcome_unknown"
  else
    let plan ← planDirect record attempt destination
    match plan with
    | .inl result => return result
    | .inr plan =>
      mark { record with payload := plan.payload } plan.operationKey plan.destination.kind.text
      let delivery ← sendNotification record.deliveryId plan.destination plan.event plan.incident
      Act.ofExcept (directOutcome record plan delivery)

/-! ### GitHub issues -/

/-- The fields of a destination; a payload with another one is refused. -/
def destinationFields : List String :=
  ["destination_id", "kind", "status", "github_repository", "github_issue_number", "github_label",
    "email_to", "email_from", "smtp_host", "smtp_port", "smtp_username_secret",
    "smtp_password_secret", "discord_webhook_secret"]

/-- `PublicIngressNotificationDestination.model_validate`, of a destination that is neither an
e-mail address nor a webhook. -/
def issueDestination (payload : Dict String JsonValue) :
    Except OutboxError NotificationDestination := do
  raiseIf (∃ key ∈ payload.keys, key ∉ destinationFields) (.value "extra fields not permitted")
  let destinationId ← requiredField payload "destination_id"
  let kind ← destinationKindValue (payloadField payload "kind")
  let status ← optionalField payload "status"
  raiseIf (status ∉ ["", "enabled", "disabled"]) (.value "status")
  let githubRepository ← optionalField payload "github_repository"
  let githubIssueNumber ← match payload.get "github_issue_number" with
    | some (.number n) => if 1 ≤ n then .ok (some n.toNat) else .error (.value "github_issue_number")
    | some .null => .ok none
    | none => .ok none
    | _ => .error (.value "github_issue_number")
  let githubLabel ← optionalField payload "github_label"
  raiseIf (githubRepository = "" ∨ '/' ∉ githubRepository.toList)
    (.value "public ingress GitHub notification destination requires owner/name repository")
  raiseIf (githubIssueNumber = none ∧ githubLabel = "")
    (.value "public ingress GitHub notification destination requires issue number or label")
  return { destinationId, kind, enabled := status ≠ "disabled", githubRepository,
           githubIssueNumber, githubLabel }

/-- The number of an issue in a request. -/
def issueNumberValue (destination : NotificationDestination) : JsonValue :=
  match destination.githubIssueNumber with
  | some n => .number n
  | none => .null

/-- A request for the marker of a delivery. -/
def findMarker (destination : NotificationDestination) (issueUrl marker : String) :
    WorkerProgram JsonValue :=
  ask (.githubClient "find_marker"
    [("repository", .string destination.githubRepository),
      ("issue_number", issueNumberValue destination), ("issue_url", .string issueUrl),
      ("marker", .string marker)])

/-- The attempt that is recorded of an issue. -/
def issueAttempt (attempt : Dict String JsonValue) (status : NotificationDeliveryStatus)
    (externalUrl externalId action : String) : Except OutboxError NotificationAttemptRecord := do
  let attemptId ← indexText attempt "attempt_id"
  let incidentId ← indexText attempt "incident_id"
  let event ← publicIngressEventValue (payloadField attempt "event")
  let policyId ← indexText attempt "policy_id"
  let destinationId ← indexText attempt "destination_id"
  let observationId ← indexText attempt "observation_id"
  validateAttempt
    [("attempt_id", .string attemptId), ("incident_id", .string incidentId),
      ("event", .string event.text), ("policy_id", .string policyId),
      ("destination_id", .string destinationId), ("destination_kind", .string "github_issue"),
      ("delivery_status", .string status.text),
      ("attempted_at", payloadField attempt "attempted_at"),
      ("observation_id", .string observationId),
      ("incident_event_id", .string (payloadField attempt "incident_event_id").text),
      ("external_url", .string externalUrl), ("external_id", .string externalId),
      ("action", .string action)]

/-- `_github_notification_action_name`. -/
def githubNotificationActionName (action : String) : String :=
  if action = "create" then "created_issue"
  else if action = "close" then "closed_issue"
  else "commented_issue"

/-- A record that ends with a delivery, and the attempt it leaves. -/
def deliveredDelivery (record : OutboxDeliveryRecord) (attempt : NotificationAttemptRecord)
    (action : String) : OutboxDeliveryRecord :=
  { record with
    state := .delivered
    providerId := "github"
    externalId := attempt.externalId
    externalUrl := attempt.externalUrl
    action
    errorCode := ""
    leaseOwner := ""
    leaseExpiresAt := none
    payload := record.payload.set "attempt_result" attempt.dump }

/-- `_delivered_public_ingress_outbox_delivery`. -/
def deliveredIssueDelivery (record : OutboxDeliveryRecord) (attempt : Dict String JsonValue)
    (action marker : String) (response : JsonValue) : Except OutboxError OutboxDeliveryRecord := do
  let externalUrl := pyStrip (response.field "url").text
  let externalId := pyStrip (response.field "id").text
  let attempt ← issueAttempt attempt .delivered externalUrl
    (if externalId = "" then marker else externalId) (githubNotificationActionName action)
  return deliveredDelivery record attempt attempt.action

/-- `_skipped_public_ingress_outbox_delivery`. -/
def skippedIssueDelivery (record : OutboxDeliveryRecord) (attempt : Dict String JsonValue)
    (marker : String) : Except OutboxError OutboxDeliveryRecord := do
  let attempt ← issueAttempt attempt .skipped "" marker "no_prior_issue"
  return deliveredDelivery record attempt "skipped_no_prior_issue"

/-- What is written to an issue. -/
structure IssuePlan where
  destination : NotificationDestination
  existingIssueUrl : String
  action : String
  marker : String
  body : String
  deliveryRecord : OutboxDeliveryRecord

/-- The delivery to an issue up to its marker. -/
def planIssue (record : OutboxDeliveryRecord) (attempt destination : Dict String JsonValue) :
    WorkerProgram (OutboxDeliveryRecord ⊕ IssuePlan) := do
  let destination ← Act.ofExcept (issueDestination destination)
  let body ← Act.ofExcept (requiredNotificationText record.payload "body")
  let marker ← Act.ofExcept (requiredNotificationText record.payload "marker")
  let incidentMarker := optionalPayloadText record.payload "incident_marker"
  let event ← Act.ofExcept (publicIngressEventValue (payloadField attempt "event"))
  let existingIssueUrl ←
    (if event ≠ .opened ∧ optionalPayloadText record.payload "existing_issue_url" = "" ∧
        destination.githubIssueNumber = none ∧ incidentMarker ≠ "" then do
      let response : JsonValue ←
        findMarker destination "" incidentMarker
      return pyStrip (response.field "url").text
    else return optionalPayloadText record.payload "existing_issue_url" : WorkerProgram String)
  if event = .resolved ∧ existingIssueUrl = "" ∧ destination.githubIssueNumber = none then
    let result ← Act.ofExcept (skippedIssueDelivery record attempt marker)
    return .inl result
  else
    let action := if event = .resolved ∧ existingIssueUrl ≠ "" then "close"
      else if destination.githubIssueNumber ≠ none ∨ existingIssueUrl ≠ "" then "comment"
      else "create"
    let providerOperationKey := "public_ingress_notification" ++ ":" ++
      pyStrip (payloadField attempt "attempt_id").text ++ ":" ++ action
    return .inr {
      destination, existingIssueUrl, action, marker, body
      deliveryRecord := { record with providerOperationKey, providerId := "github" } }

/-- The end of a delivery to an issue: what was found under the marker, or a new entry. -/
def concludeIssue (attempt : Dict String JsonValue) (plan : IssuePlan) (found : JsonValue) :
    WorkerProgram OutboxDeliveryRecord := do
  let response : JsonValue ←
    (if found.truthy then
      if plan.action = "close" then
        ask (.githubClient "ensure_closed"
          [("repository", .string plan.destination.githubRepository),
            ("issue_number", issueNumberValue plan.destination),
            ("issue_url", .string plan.existingIssueUrl)])
      else return found
    else
      ask (.githubClient plan.action
        [("repository", .string plan.destination.githubRepository),
          ("title", .string
            ("Public ingress incident: " ++ (payloadField attempt "incident_id").text)),
          ("body", .string plan.body),
          ("labels", .array (if plan.destination.githubLabel = "" then []
            else [.string plan.destination.githubLabel])),
          ("issue_number", issueNumberValue plan.destination),
          ("issue_url", .string plan.existingIssueUrl)]) : WorkerProgram JsonValue)
  Act.ofExcept
    (deliveredIssueDelivery plan.deliveryRecord attempt plan.action plan.marker response)

/-- The delivery to an issue from its marker on: one that was started before is looked for first. -/
def writeIssue (attempt : Dict String JsonValue) (plan : IssuePlan) (started : Bool)
    (mark : OutboxDeliveryRecord → String → String → WorkerProgram Unit) :
    WorkerProgram OutboxDeliveryRecord := do
  if started then
    let found ← findMarker plan.destination plan.existingIssueUrl plan.marker
    concludeIssue attempt plan found
  else
    mark plan.deliveryRecord plan.deliveryRecord.providerOperationKey "github"
    concludeIssue attempt plan .null

/-- A delivery that goes on after its marker was named: an exception finds the record with it. -/
def issueDelivery (attempt : Dict String JsonValue) (record : OutboxDeliveryRecord)
    (planned : OutboxDeliveryRecord ⊕ IssuePlan)
    (mark : OutboxDeliveryRecord → String → String → WorkerProgram Unit) :
    WorkerProgram OutboxDeliveryRecord :=
  match planned with
  | .inl result => return result
  | .inr plan =>
    tryCatch (writeIssue attempt plan (record.providerOperationKey ≠ "") mark) fun error =>
      Act.ofExcept (notificationFailure plan.deliveryRecord error)

/-- `deliver_public_ingress_notification_outbox_delivery`. -/
def deliverNotification (record : OutboxDeliveryRecord)
    (mark : OutboxDeliveryRecord → String → String → WorkerProgram Unit) :
    WorkerProgram OutboxDeliveryRecord := do
  let failure := fun error => Act.ofExcept (notificationFailure record error)
  let screened ← tryCatch (screenNotification record) fun error => do
    let result ← failure error
    return .ends result
  match screened with
  | .ends result => return result
  | .direct attempt destination => tryCatch (directDelivery record attempt destination mark) failure
  | .issue attempt destination =>
    let planned ← tryCatch (planIssue record attempt destination) fun error => do
      let result ← failure error
      return .inl result
    issueDelivery attempt record planned mark

end Launchplane.Outbox
