import Launchplane.PublicIngress.Records

/-!
# Launchplane.PublicIngress.Transitions

**What one observation makes of the incidents of its check.** A transition is
planned from the open incidents and written when they are still the same. The
record of an incident is copied with some fields changed, and is not checked when
that is done.
-/

namespace Launchplane.PublicIngress

variable (R : Runtime)

/-- `canonical_health_check_record_token` and the other columns by which a check is found. -/
structure CheckKey where
  product : String
  context : String
  instanceName : String
  checkToken : List Char
  checkKind : CheckKind
  deriving Repr, DecidableEq

/-- `_monitor_target_key`. -/
def ObservationRecord.checkKey (record : ObservationRecord) : CheckKey :=
  ⟨record.product, record.context, record.instanceName,
    canonicalHealthCheckRecordToken R.table record.checkName, record.checkKind⟩

/-- `_incident_target_key`. -/
def IncidentRecord.checkKey (incident : IncidentRecord) : CheckKey :=
  ⟨incident.product, incident.context, incident.instanceName,
    canonicalHealthCheckRecordToken R.table incident.checkName, incident.checkKind⟩

/-- A deployment that defers a failure. -/
structure Deployment where
  recordId : String
  startedAt : String
  deriving Repr, DecidableEq

/-- An observation with what it is planned with: whether its check can have incidents, the recovery
threshold in force, the reason a reconciliation gives, and what is read of the store besides the
open incidents. -/
structure Observed where
  record : ObservationRecord
  incidentEligible : Bool
  recoveryObservationThreshold : Nat
  reconciliationReason : ResolutionReason := .monitoringIntentChanged
  /-- `_deployment_deferring_failure`. -/
  deploying : Option Deployment := none
  /-- `build_public_ingress_material_fingerprint` of the record. -/
  builtFingerprint : MaterialFingerprint
  /-- `_legacy_incident_observation`, with the fingerprint of the observation. -/
  historicalObservation : IncidentRecord → Option (ObservationRecord × MaterialFingerprint) :=
    fun _ => none
  /-- `_legacy_incident_fingerprint`. -/
  legacyFingerprint : IncidentRecord → MaterialFingerprint := fun _ => builtFingerprint

/-- `_PlannedIncidentTransition`. -/
structure PlannedIncidentTransition where
  observation : ObservationRecord
  incidents : List IncidentRecord := []
  incidentEvents : List EventRecord := []
  expectedOpenIncidentId : String := ""
  expectedOpenIncidentStateVersion : Nat := 0
  expectedOpenIncidentSha256 : String := ""
  deriving Repr, DecidableEq

/-- `_observation_material_fingerprint`. -/
def Observed.materialFingerprint (observed : Observed) : MaterialFingerprint :=
  observed.record.materialFingerprint.getD observed.builtFingerprint

/-! ### The records of a transition -/

/-- `_upgrade_legacy_incident`. -/
def upgradeLegacyIncident (observed : Observed) (existing : IncidentRecord) :
    IncidentRecord × EventRecord :=
  let (fingerprint, complete, observationId, occurredAt) :=
    match observed.historicalObservation existing with
    | some (observation, fingerprint) =>
      (fingerprint, true, observation.recordId, observation.observedAt)
    | none =>
      (observed.legacyFingerprint existing, false, existing.latestObservationId,
        existing.latestObservedAt)
  let fingerprintSha256 := R.fingerprintSha256 fingerprint
  let eventId := buildPublicIngressIncidentEventId R existing.incidentId .baseline fingerprintSha256
  ({ existing with
      schemaVersion := 2
      stateVersion := max existing.stateVersion 1
      severity := fingerprint.severity
      materialFingerprint := some fingerprint
      materialFingerprintSha256 := fingerprintSha256
      materialFingerprintComplete := complete
      latestMaterialEventId := eventId
      latestMaterialEvent := some .baseline
      latestMaterialEventAt := occurredAt
      recoveryObservationThreshold := 1 },
    { eventId
      incidentId := existing.incidentId
      event := .baseline
      reason := .migrationBaseline
      occurredAt
      observationId
      materialFingerprintSha256 := fingerprintSha256
      severity := fingerprint.severity
      deliveryEligible := false
      summary := "Existing incident material state adopted without notification delivery." })

/-- An incident that is of an older schema is upgraded first. -/
def upgraded (observed : Observed) (existing : IncidentRecord) :
    IncidentRecord × List EventRecord :=
  if existing.schemaVersion < 2 then
    ((upgradeLegacyIncident R observed existing).1, [(upgradeLegacyIncident R observed existing).2])
  else (existing, [])

/-- `_expire_incident_silence`. -/
def expireIncidentSilence (incident : IncidentRecord) (observedAt : String) : IncidentRecord :=
  if incident.notificationState ≠ .silenced then incident
  else
    let expired := match R.parseUtcTimestamp observedAt, R.parseUtcTimestamp incident.silencedUntil with
      | some observed, some until_ => decide (until_ ≤ observed)
      | _, _ => true
    if expired then
      { incident with
        notificationState := .active
        notificationStateChangedAt := observedAt
        notificationStateReason := "silence_expired"
        silencedUntil := "" }
    else incident

/-- `_material_incident_changed`. -/
def materialIncidentChanged (incident : IncidentRecord) (fingerprint : MaterialFingerprint) : Bool :=
  if incident.materialFingerprintSha256 = R.fingerprintSha256 fingerprint then false
  else if incident.materialFingerprintComplete then true
  else
    match incident.materialFingerprint with
    | none => true
    | some previous =>
      previous.checkKind ≠ fingerprint.checkKind ∨ previous.failureCode ≠ fingerprint.failureCode ∨
        previous.failureLayer ≠ fingerprint.failureLayer ∨ previous.severity ≠ fingerprint.severity

/-- `_resolve_incident`. -/
def resolveIncident (incident : IncidentRecord) (record : ObservationRecord)
    (reason : ResolutionReason) (summary : String) (recoveryCount : Nat := 0)
    (recoveryObservationThreshold : Option Nat := none) : IncidentRecord × EventRecord :=
  let eventId := buildPublicIngressIncidentEventId R incident.incidentId .resolved
    incident.materialFingerprintSha256 incident.latestMaterialEventId
  ({ incident with
      status := .resolved
      latestObservationId := record.recordId
      latestObservedAt := record.observedAt
      resolvedAt := record.observedAt
      resolvedObservationId := record.recordId
      resolutionReason := some reason
      stateVersion := incident.stateVersion + 1
      latestMaterialEventId := eventId
      latestMaterialEvent := some .resolved
      latestMaterialEventAt := record.observedAt
      recoveryObservationThreshold :=
        recoveryObservationThreshold.getD incident.recoveryObservationThreshold
      consecutiveRecoveryObservations := recoveryCount
      latestRecoveryObservationId := if reason = .recovered then record.recordId else ""
      summary },
    { eventId
      incidentId := incident.incidentId
      event := .resolved
      reason := reason.eventReason
      occurredAt := record.observedAt
      observationId := record.recordId
      materialFingerprintSha256 := incident.materialFingerprintSha256
      previousMaterialFingerprintSha256 := incident.materialFingerprintSha256
      severity := incident.severity
      summary })

/-- `_reconcile_duplicate_incident`. -/
def reconcileDuplicateIncident (incident : IncidentRecord) (reconciledAt : String) :
    IncidentRecord × EventRecord :=
  let eventId := buildPublicIngressIncidentEventId R incident.incidentId .resolved
    incident.materialFingerprintSha256 incident.latestMaterialEventId
  let summary := "Duplicate open incident reconciled into the canonical incident. " ++
    "Preserved evidence: " ++ incident.summary
  ({ incident with
      status := .resolved
      resolvedAt := reconciledAt
      resolvedObservationId := incident.latestObservationId
      resolutionReason := some .duplicateReconciled
      stateVersion := incident.stateVersion + 1
      latestMaterialEventId := eventId
      latestMaterialEvent := some .resolved
      latestMaterialEventAt := reconciledAt
      summary },
    { eventId
      incidentId := incident.incidentId
      event := .resolved
      reason := .duplicateReconciled
      occurredAt := reconciledAt
      observationId := incident.latestObservationId
      materialFingerprintSha256 := incident.materialFingerprintSha256
      previousMaterialFingerprintSha256 := incident.materialFingerprintSha256
      severity := incident.severity
      deliveryEligible := false
      suppressionReason := some .migrationReconciliation
      summary })

/-- A failing observation opens an incident. -/
def openIncident (observed : Observed) : IncidentRecord × EventRecord :=
  let record := observed.record
  let fingerprint := observed.materialFingerprint
  let fingerprintSha256 := R.fingerprintSha256 fingerprint
  let incidentId := buildPublicIngressIncidentId R record.product record.context record.instanceName
    record.checkName record.observedAt
  let eventId := buildPublicIngressIncidentEventId R incidentId .opened fingerprintSha256
  ({ schemaVersion := 2
     incidentId
     product := record.product
     repository := record.repository
     driverId := record.driverId
     context := record.context
     instanceName := record.instanceName
     checkName := record.checkName
     checkKind := record.checkKind
     status := .opened
     openedAt := record.observedAt
     openedObservationId := record.recordId
     latestObservationId := record.recordId
     latestObservedAt := record.observedAt
     failureCode := record.failureCode.getD .unknownError
     stateVersion := 1
     severity := fingerprint.severity
     materialFingerprint := some fingerprint
     materialFingerprintSha256 := fingerprintSha256
     materialFingerprintComplete := true
     latestMaterialEventId := eventId
     latestMaterialEvent := some .opened
     latestMaterialEventAt := record.observedAt
     recoveryObservationThreshold := observed.recoveryObservationThreshold
     summary := record.summary },
    { eventId
      incidentId
      event := .opened
      reason := .incidentOpened
      occurredAt := record.observedAt
      observationId := record.recordId
      materialFingerprintSha256 := fingerprintSha256
      severity := fingerprint.severity
      summary := record.summary })

/-- What every failing observation makes of an open incident. -/
def failAgain (observed : Observed) (existing : IncidentRecord) : IncidentRecord :=
  let record := observed.record
  let fingerprint := observed.materialFingerprint
  { existing with
    latestObservationId := record.recordId
    latestObservedAt := record.observedAt
    failureCode := record.failureCode.getD existing.failureCode
    stateVersion := existing.stateVersion + 1
    severity := fingerprint.severity
    materialFingerprint := some fingerprint
    materialFingerprintSha256 := R.fingerprintSha256 fingerprint
    materialFingerprintComplete := true
    recoveryObservationThreshold := observed.recoveryObservationThreshold
    consecutiveRecoveryObservations := 0
    latestRecoveryObservationId := ""
    summary := record.summary }

/-- A legacy fingerprint becomes complete. -/
def enrichIncident (observed : Observed) (existing : IncidentRecord) :
    IncidentRecord × EventRecord :=
  let record := observed.record
  let fingerprint := observed.materialFingerprint
  let fingerprintSha256 := R.fingerprintSha256 fingerprint
  let eventId := buildPublicIngressIncidentEventId R existing.incidentId .baseline fingerprintSha256
    existing.latestMaterialEventId
  ({ failAgain R observed existing with
      latestMaterialEventId := eventId
      latestMaterialEvent := some .baseline
      latestMaterialEventAt := record.observedAt },
    { eventId
      incidentId := existing.incidentId
      event := .baseline
      reason := .migrationBaseline
      occurredAt := record.observedAt
      observationId := record.recordId
      materialFingerprintSha256 := fingerprintSha256
      previousMaterialFingerprintSha256 := existing.materialFingerprintSha256
      severity := fingerprint.severity
      deliveryEligible := false
      summary := "Legacy incident material state enriched without notification delivery." })

/-- A failure of another kind. -/
def updateIncident (observed : Observed) (existing : IncidentRecord) :
    IncidentRecord × EventRecord :=
  let record := observed.record
  let fingerprint := observed.materialFingerprint
  let fingerprintSha256 := R.fingerprintSha256 fingerprint
  let eventId := buildPublicIngressIncidentEventId R existing.incidentId .updated fingerprintSha256
    existing.latestMaterialEventId
  let acknowledged := existing.notificationState = .acknowledged
  let deliveryEligible := decide (existing.notificationState ≠ .silenced)
  ({ failAgain R observed existing with
      latestMaterialEventId := eventId
      latestMaterialEvent := some .updated
      latestMaterialEventAt := record.observedAt
      notificationState := if acknowledged then .active else existing.notificationState
      notificationStateChangedAt :=
        if acknowledged then record.observedAt else existing.notificationStateChangedAt
      notificationStateReason :=
        if acknowledged then "material_change" else existing.notificationStateReason },
    { eventId
      incidentId := existing.incidentId
      event := .updated
      reason := .materialChange
      occurredAt := record.observedAt
      observationId := record.recordId
      materialFingerprintSha256 := fingerprintSha256
      previousMaterialFingerprintSha256 := existing.materialFingerprintSha256
      severity := fingerprint.severity
      deliveryEligible
      suppressionReason := if deliveryEligible then none else some .silenced
      summary := record.summary })

/-- A passing observation that does not resolve the incident yet. -/
def countRecovery (observed : Observed) (existing : IncidentRecord) (recoveryCount : Nat) :
    IncidentRecord :=
  { existing with
    latestObservationId := observed.record.recordId
    latestObservedAt := observed.record.observedAt
    stateVersion :=
      if existing.latestRecoveryObservationId = observed.record.recordId then existing.stateVersion
      else existing.stateVersion + 1
    recoveryObservationThreshold := observed.recoveryObservationThreshold
    consecutiveRecoveryObservations := recoveryCount
    latestRecoveryObservationId := observed.record.recordId }

/-! ### The plan -/

/-- The order by `(opened_at, incident_id)`. -/
def Precedes (incident other : IncidentRecord) : Prop :=
  incident.openedAt < other.openedAt ∨
    (incident.openedAt = other.openedAt ∧ incident.incidentId < other.incidentId)

instance (incident other : IncidentRecord) : Decidable (Precedes incident other) :=
  inferInstanceAs (Decidable (_ ∨ _))

/-- `min(open_incidents, key=...)`. -/
def canonicalIncident (openIncidents : List IncidentRecord) : Option IncidentRecord :=
  openIncidents.foldl (fun best incident =>
    match best with
    | none => some incident
    | some other => if Precedes incident other then some incident else some other) none

/-- The duplicates of an incident, reconciled into it. -/
def reconcileDuplicates (observed : Observed) (existing : IncidentRecord)
    (openIncidents : List IncidentRecord) : List IncidentRecord × List EventRecord :=
  let reconciled := (openIncidents.filter (·.incidentId ≠ existing.incidentId)).map fun duplicate =>
    let (duplicate, events) := upgraded R observed duplicate
    let (resolved, event) := reconcileDuplicateIncident R duplicate observed.record.observedAt
    (resolved, events ++ [event])
  (reconciled.map (·.1), reconciled.flatMap (·.2))

/-- What an observation of an eligible check makes of the open incident. -/
def transitionIncident (observed : Observed) (existing : IncidentRecord) :
    ObservationRecord × IncidentRecord × List EventRecord :=
  let record := observed.record
  let linked := { record with incidentId := existing.incidentId }
  match record.status with
  | .fail =>
    let fingerprint := observed.materialFingerprint
    let fingerprintSha256 := R.fingerprintSha256 fingerprint
    let linked := { linked with
      materialFingerprint := some fingerprint, materialFingerprintSha256 := fingerprintSha256 }
    let withEvent (transition : IncidentRecord × EventRecord) :=
      ({ linked with incidentEventId := transition.2.eventId }, transition.1, [transition.2])
    if materialIncidentChanged R existing fingerprint then withEvent (updateIncident R observed existing)
    else if existing.materialFingerprintComplete = false ∧
        existing.materialFingerprintSha256 ≠ fingerprintSha256 then
      withEvent (enrichIncident R observed existing)
    else if existing.latestObservationId = record.recordId then (linked, existing, [])
    else (linked, failAgain R observed existing, [])
  | .pass =>
    let recoveryCount :=
      if existing.latestRecoveryObservationId = record.recordId then
        existing.consecutiveRecoveryObservations
      else existing.consecutiveRecoveryObservations + 1
    if observed.recoveryObservationThreshold ≤ recoveryCount then
      let (resolved, event) := resolveIncident R existing record .recovered record.summary
        recoveryCount (some observed.recoveryObservationThreshold)
      ({ linked with incidentEventId := event.eventId }, resolved, [event])
    else (linked, countRecovery observed existing recoveryCount, [])
  | .skipped => (linked, existing, [])

/-- `_plan_public_ingress_incident_transition`, over the open incidents it reads. -/
def planPublicIngressIncidentTransition (openIncidents : List IncidentRecord)
    (observed : Observed) : PlannedIncidentTransition :=
  let record := observed.record
  match canonicalIncident openIncidents with
  | none =>
    if observed.incidentEligible then
      match observed.deploying with
      | some deploying =>
        { observation :=
            { record with
              summary := record.summary ++ " Incident deferred during recorded deploy " ++
                deploying.recordId ++ ", bounded from " ++ deploying.startedAt ++ "." } }
      | none =>
        if record.status = .fail then
          let (incident, event) := openIncident R observed
          { observation :=
              { record with
                materialFingerprint := some observed.materialFingerprint
                materialFingerprintSha256 := R.fingerprintSha256 observed.materialFingerprint
                incidentId := incident.incidentId
                incidentEventId := event.eventId }
            incidents := [incident]
            incidentEvents := [event] }
        else { observation := record }
    else { observation := record }
  | some canonical =>
    let (duplicates, duplicateEvents) := reconcileDuplicates R observed canonical openIncidents
    let (existing, baseline) := upgraded R observed canonical
    let existing := expireIncidentSilence R existing record.observedAt
    let planned (observation : ObservationRecord) (incidents : List IncidentRecord)
        (events : List EventRecord) : PlannedIncidentTransition :=
      { observation
        incidents := incidents ++ duplicates
        incidentEvents := duplicateEvents ++ baseline ++ events
        expectedOpenIncidentId := canonical.incidentId
        expectedOpenIncidentStateVersion := canonical.stateVersion
        expectedOpenIncidentSha256 := R.incidentSha256 canonical }
    if observed.incidentEligible then
      let (observation, incident, events) := transitionIncident R observed existing
      planned observation [incident] events
    else if record.purpose = .reconciliation then
      let (resolved, event) := resolveIncident R existing record observed.reconciliationReason
        (record.summary ++ " Previous incident evidence: " ++ existing.summary)
      planned { record with incidentId := resolved.incidentId, incidentEventId := event.eventId }
        [resolved] [event]
    else planned record [] []

/-! ### The store -/

/-- The incidents and their events, by id. -/
structure Store where
  incidents : Dict String IncidentRecord := []
  incidentEvents : Dict String EventRecord := []
  deriving Repr, DecidableEq

/-- `_open_incidents`: every row is checked when it is read. -/
def Store.openIncidents (store : Store) (record : ObservationRecord) :
    Except String (List IncidentRecord) :=
  ((store.incidents.map (·.2)).filter fun incident =>
    incident.status = .opened ∧ incident.checkKey R = record.checkKey R).mapM
      (IncidentRecord.validate R)

/-- The row of the open incident is not the one that was planned with. -/
def Store.incidentChanged (store : Store) (plan : PlannedIncidentTransition) : Bool :=
  match (store.incidents.map (·.2)).find? fun incident =>
    incident.status = .opened ∧ incident.checkKey R = plan.observation.checkKey R with
  | none => plan.expectedOpenIncidentId ≠ ""
  | some current =>
    plan.expectedOpenIncidentId = "" ∨ current.incidentId ≠ plan.expectedOpenIncidentId ∨
      current.stateVersion ≠ plan.expectedOpenIncidentStateVersion ∨
        (plan.expectedOpenIncidentSha256 ≠ "" ∧
          (match current.validate R with
            | .ok current => R.incidentSha256 current
            | .error _ => "invalid") ≠ plan.expectedOpenIncidentSha256)

/-- An event is written once. -/
def writeEvent (events : Dict String EventRecord) (event : EventRecord) :
    Except String (Dict String EventRecord) :=
  match events.get event.eventId with
  | none => .ok (events.set event.eventId event)
  | some existing =>
    if existing = event then .ok events
    else .error "public ingress incident event identity reused with different payload"

/-- What `write_public_ingress_transition_with_outbox` writes of incidents and events when the
incident did not change. -/
def Store.write (store : Store) (plan : PlannedIncidentTransition) : Except String Store := do
  let incidentEvents ← plan.incidentEvents.foldlM writeEvent store.incidentEvents
  return {
    incidents := plan.incidents.foldl (fun rows incident => rows.set incident.incidentId incident)
      store.incidents
    incidentEvents }

end Launchplane.PublicIngress
