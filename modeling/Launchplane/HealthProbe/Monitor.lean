import Launchplane.HealthProbe.CheckUrl

/-!
# Launchplane.HealthProbe.Monitor

**The probe of a target.** Its URLs are checked one by one. The record takes its
failure code from the first URL that fails, and the fingerprint of a failing
record takes its evidence of a wrong runtime identity from any of them.
-/

namespace Launchplane.HealthProbe

open PublicIngress

variable (L : Library)

/-! ### The record -/

/-- `PublicIngressObservationRecord._validate_record`, with the bound of the field. -/
def ObservationRecord.validate (record : ObservationRecord) : Except String ObservationRecord := do
  raiseIf (record.schemaVersion < 1) "schema_version"
  let recordId ← requireText record.recordId "public ingress observation requires record_id"
  let product ← requireText record.product "public ingress observation requires product"
  let context ← requireText record.context "public ingress observation requires context"
  let instanceName ← requireText record.instanceName "public ingress observation requires instance"
  let observedAt ← requireText record.observedAt "public ingress observation requires observed_at"
  let checkName ← requireText record.checkName "public ingress observation requires check_name"
  let summary ← requireText record.summary "public ingress observation requires summary"
  let normal := { record with
    recordId, product, context, instanceName, observedAt, checkName, summary
    repository := pyStrip record.repository
    driverId := pyStrip record.driverId
    baseUrl := pyStrip record.baseUrl
    healthUrl := pyStrip record.healthUrl
    incidentId := pyStrip record.incidentId
    incidentEventId := pyStrip record.incidentEventId
    materialFingerprintSha256 := pyLower (pyStrip record.materialFingerprintSha256)
    notificationKey := pyStrip record.notificationKey }
  raiseIf (normal.status = .pass ∧ normal.failureCode ≠ none)
    "passing public ingress observation cannot include failure_code"
  raiseIf (normal.status = .fail ∧ normal.failureCode = none)
    "failing public ingress observation requires failure_code"
  raiseIf (normal.status = .skipped ∧ ¬skippable normal.failureCode)
    "skipped public ingress observation has an unsupported failure_code"
  raiseIf (normal.targets = [] ∧ ¬(normal.checkKind = .provider ∧ normal.purpose = .reconciliation))
    "public ingress observation requires at least one target"
  raiseIf (∃ fingerprint ∈ normal.materialFingerprint,
      normal.materialFingerprintSha256 ≠ L.fingerprintSha256 fingerprint)
    "public ingress observation material fingerprint digest mismatch"
  raiseIf (normal.status = .pass ∧ ∃ target ∈ normal.targets, target.status ≠ .pass)
    "passing public ingress observation requires all targets to pass"
  raiseIf (normal.status = .fail ∧ ¬∃ target ∈ normal.targets, target.status = .fail)
    "failing public ingress observation requires a failing target"
  raiseIf (normal.purpose = .reconciliation ∧
      (normal.status ≠ .skipped ∨ normal.failureCode ≠ some .monitoringIntentChanged))
    "public ingress reconciliation observation requires skipped monitoring_intent_changed status"
  raiseIf (normal.purpose = .reconciliation ∧ ∃ target ∈ normal.targets,
      target.target ≠ .monitoringIntent)
    "public ingress reconciliation observation requires monitoring_intent targets"
  raiseIf (normal.purpose ≠ .reconciliation ∧ ∃ target ∈ normal.targets,
      target.target = .monitoringIntent)
    "public ingress probe observations cannot use monitoring_intent targets"
  return normal

/-- `build_public_ingress_observation_id`. -/
def buildPublicIngressObservationId (product context instanceName observedAt checkName : String) :
    String :=
  joinTokens L.table ["public-ingress", product, context, instanceName,
    String.ofList (canonicalHealthCheckRecordToken L.table checkName), observedAt]

/-- `_target_urls`. -/
def targetUrls (target : MonitorTarget) : List (TargetKind × String) :=
  match target.checkKind with
  | .tls =>
    [(.tlsDomain, "https://" ++ textOr (pyLower (pyStrip target.tlsDomainName)) "missing.invalid" ++ "/")]
  | .provider => [(.provider, providerUrl target)]
  | .privateHttp =>
    if target.healthUrl ≠ "" then [(.privateHealthUrl, target.healthUrl)]
    else if target.resolutionFailureCode ≠ none then
      [(.privateHealthUrl, "private-endpoint://" ++ target.privateEndpointKey)]
    else []
  | .publicHttp =>
    (if target.baseUrl ≠ "" then [(.baseUrl, target.baseUrl)] else []) ++
      if target.healthUrl ≠ "" ∧ target.healthUrl ≠ target.baseUrl then
        [(.healthUrl, target.healthUrl)] else []

/-- The first failing observation. -/
def firstFailing (observations : List TargetObservation) : Option TargetObservation :=
  observations.find? fun observation => observation.status = .fail

/-- `_record_status`. -/
def recordStatus (observations : List TargetObservation) : ObservationStatus × Option FailureCode :=
  match firstFailing observations with
  | some failing => (.fail, failing.failureCode)
  | none =>
    if ∀ observation ∈ observations, observation.status = .skipped then
      (.skipped, observations.findSome? (·.failureCode))
    else (.pass, none)

/-- `_check_label`. -/
def checkLabel (target : MonitorTarget) : String :=
  match target.checkKind with
  | .tls => "Public TLS"
  | .privateHttp => "Private health check"
  | kind =>
    if isDeployFenceTarget target then "Deploy fence"
    else if kind = .provider then "Provider health check" else "Public ingress"

/-- `_record_summary`. -/
def recordSummary (target : MonitorTarget) (status : ObservationStatus)
    (observations : List TargetObservation) : String :=
  let place := target.product ++ "/" ++ target.instanceName
  if status = .pass then
    if isDeployFenceTarget target then "No unresolved deploy is holding " ++ place ++ "."
    else
      checkLabel target ++ " is reachable for " ++ place ++ "." ++
        if ∃ evidence ∈ observations.findSome? (·.dependencyHealth), evidence.status = .notCovered then
          " Dependency health: not covered (informational until adoption)."
        else ""
  else
    match firstFailing observations with
    | some failing => checkLabel target ++ " failed for " ++ place ++ ": " ++ failing.summary
    | none => checkLabel target ++ " monitoring skipped " ++ place ++ "."

/-! ### Fingerprints -/

/-- `public_ingress_failure_layer`. -/
def publicIngressFailureLayer : FailureCode → FailureLayer
  | .dnsFailure => .dns
  | .connectionTimeout | .privateUrl => .network
  | .redirectLoop | .selfRedirect => .redirect
  | .healthStatusError | .httpError | .dependencyFailed => .http
  | .tlsChainFailure | .tlsExpired | .tlsExpiring | .tlsFailure | .tlsHostnameMismatch
  | .tlsSelfSigned | .tlsUnsupported => .tls
  | .wrongRuntimeIdentity => .runtimeIdentity
  | .invalidUrl | .privateEndpointDisabled | .privateEndpointMismatch | .privateEndpointNotFound
  | .monitoringIntentChanged | .dependencyNotCovered => .configuration
  | .deployFenceHeld | .providerCheckUnavailable | .productionDeliveryFailed
  | .testingDeliveryFailed => .provider
  | .monitorRunMissed | .unknownError => .unknown

/-- `public_ingress_incident_severity`. -/
def publicIngressIncidentSeverity : FailureCode → Severity
  | .deployFenceHeld | .tlsExpiring | .productionDeliveryFailed | .testingDeliveryFailed => .warning
  | _ => .critical

/-- `_canonical_material_url`. -/
def canonicalMaterialUrl (url : String) : String :=
  let parsed := L.urlsplit (pyStrip url)
  let hostname := pyLower (parsed.hostname.getD "")
  let scheme := pyLower parsed.scheme
  if hostname = "" ∨ (scheme ≠ "http" ∧ scheme ≠ "https") then
    "invalid-url-sha256:" ++ L.sha256 (pyStrip url)
  else
    let defaultPort := if scheme = "https" then 443 else 80
    let authority := match parsed.port with
      | none => hostname
      | some port => if port = defaultPort then hostname else hostname ++ ":" ++ toString port
    scheme ++ "://" ++ (authority ++ textOr parsed.path "/")

/-- `_private_endpoint_key_from_targets`. -/
def privateEndpointKeyFromTargets (targets : List TargetObservation) : String :=
  ((targets.map fun target => L.urlsplit target.url).find? fun parsed =>
    parsed.scheme = "private-endpoint" ∧ parsed.netloc ≠ "").elim "legacy-private-endpoint" (·.netloc)

/-- `_private_target_digest`. -/
def privateTargetDigest (targets : List TargetObservation) : String :=
  L.urlsSha256 ((targets.map fun target => canonicalMaterialUrl L target.url).mergeSort (· ≤ ·))

/-- `_provider_target_parts`. -/
def providerTargetParts (targets : List TargetObservation) : Except String (String × String) :=
  let parsed := L.urlsplit ((targets.map (·.url)).headD "")
  let provider := pyLower (pyStrip parsed.netloc)
  let providerCheck := pyLower (String.ofList (stripWith (· = '/') parsed.path.toList))
  if provider = "" ∨ providerCheck = "" then
    .error "provider material incident fingerprint requires provider identity"
  else .ok (provider, providerCheck)

/-- The provider and the check a fingerprint is about. -/
def providerParts (provider providerCheck : String) (targets : List TargetObservation) :
    Except String (String × String) :=
  if pyLower (pyStrip provider) ≠ "" ∧ pyLower (pyStrip providerCheck) ≠ "" then
    .ok (pyLower (pyStrip provider), pyLower (pyStrip providerCheck))
  else providerTargetParts L targets

/-- What a failing probe of a target is routed by, and the status of its certificate. -/
def routeAuthority (checkKind : CheckKind) (target : MonitorTarget)
    (failing : List TargetObservation) : Except String (RouteAuthority × String) :=
  match checkKind with
  | .privateHttp =>
    let endpointKey := textOr (pyStrip target.privateEndpointKey)
      (privateEndpointKeyFromTargets L failing)
    (RouteAuthority.validate
      { kind := .privateEndpoint
        targetKeys := ["private-endpoint:" ++ endpointKey]
        privateEndpointKey := endpointKey
        privateEndpointSha256 := textOr (pyLower (pyStrip target.privateEndpointMaterialSha256))
          (privateTargetDigest L failing) }).map fun authority => (authority, "")
  | .provider => do
    let (provider, providerCheck) ← providerParts L target.provider target.providerCheck failing
    (RouteAuthority.validate
      { kind := .provider
        targetKeys := ["provider:" ++ provider ++ ":" ++ providerCheck]
        provider, providerCheck }).map fun authority => (authority, "")
  | .tls =>
    match failing.head?.bind (·.tls), failing.head? with
    | some tls, some observation =>
      let missing := tls.routeBindingStatus = "missing"
      (RouteAuthority.validate
        { kind := if missing then .publicUrls else .routeBinding
          targetKeys := [if missing then canonicalMaterialUrl L observation.url
            else "tls-domain:" ++ tls.domainName]
          domainName := tls.domainName
          routeBindingStatus := tls.routeBindingStatus
          ingressProvider := tls.ingressProvider
          terminationKind := tls.terminationKind
          tlsOwner := tls.owner }).map fun authority => (authority, tls.status)
    | _, _ => .error "TLS material incident fingerprint requires TLS evidence"
  | .publicHttp =>
    (RouteAuthority.validate
      { kind := .publicUrls
        targetKeys := failing.map fun observation => canonicalMaterialUrl L observation.url }).map
      fun authority => (authority, "")

/-- The status a mismatch is recorded with. -/
def mismatchStatus : RuntimeIdentityStatus → MismatchStatus
  | .mismatch => .mismatch
  | .missing => .missing
  | .malformed => .malformed
  | _ => .unverifiable

/-- The names in what stands after the colon of a detail. -/
def detailFields (detail : String) : List String :=
  ((((detail.toList.dropWhile (· ≠ ':')).drop 1).splitOn ',').map fun cs =>
    pyStrip (String.ofList cs)).filter (· ≠ "")

/-- The first target with a wrong runtime identity. -/
def wrongIdentityTarget (targets : List TargetObservation) : Option TargetObservation :=
  targets.find? fun target => target.failureCode = some .wrongRuntimeIdentity

/-- `_runtime_mismatch`. -/
def runtimeMismatch (expected : Option RuntimeIdentity) (targets : List TargetObservation) :
    Except String (Option RuntimeMismatch) :=
  match wrongIdentityTarget targets with
  | none => .ok none
  | some target =>
    let status := mismatchStatus target.runtimeIdentityStatus
    (RuntimeMismatch.validate
      { status
        mismatchedFields := if status = .mismatch then detailFields target.runtimeIdentityDetail else []
        expectedRuntimeIdentity := expected.map materialRuntimeIdentity
        observedRuntimeIdentity := target.observedRuntimeIdentity.map materialRuntimeIdentity }).map some

/-- The code of a failing record. -/
def failingCode (record : ObservationRecord) : Except String FailureCode :=
  match record.status, record.failureCode with
  | .fail, some code => .ok code
  | _, _ => .error "material incident fingerprint requires a failing observation"

/-- The targets of a record that fail. -/
def failingTargets (record : ObservationRecord) : List TargetObservation :=
  record.targets.filter fun target => target.status = .fail

/-- `build_public_ingress_material_fingerprint`. -/
def buildMaterialFingerprint (record : ObservationRecord) (target : MonitorTarget) :
    Except String MaterialFingerprint := do
  let code ← failingCode record
  raiseIf (failingTargets record = []) "material incident fingerprint requires failing targets"
  let route ← routeAuthority L record.checkKind target (failingTargets record)
  let mismatch ← runtimeMismatch record.expectedRuntimeIdentity (failingTargets record)
  MaterialFingerprint.validate
    { checkKind := record.checkKind
      failureCode := code
      failureLayer := publicIngressFailureLayer code
      severity := publicIngressIncidentSeverity code
      affectedTargets := (failingTargets record).map (·.target)
      routeAuthority := route.1
      runtimeMismatch := mismatch
      tlsStatus := route.2 }

/-! ### The probe -/

/-- `PublicDnsObservation._validate_observation`. -/
def DnsObservation.validate (observation : DnsObservation) : Except String DnsObservation :=
  match L.publicDnsName observation.publicName, L.publicDnsAddresses observation.expectedAddresses,
    L.publicDnsAddresses observation.observedAddresses with
  | some publicName, some expectedAddresses, some observedAddresses => do
    raiseIf (observation.expectedAddresses.length < 1 ∨ 32 < observation.expectedAddresses.length)
      "addresses"
    raiseIf (observation.status = .unavailable ∧
        (observation.failureCode = none ∨ observedAddresses ≠ []))
      "Unavailable DNS evidence requires a failure and no answers"
    raiseIf (observation.status ≠ .unavailable ∧
        (observation.failureCode ≠ none ∨ observedAddresses = []))
      "DNS comparison requires successful public resolution"
    raiseIf (observation.status ≠ .unavailable ∧
        ¬(observedAddresses = expectedAddresses ↔ observation.status = .matched))
      "DNS comparison status disagrees with the observed answer set"
    return { observation with publicName, expectedAddresses, observedAddresses }
  | _, _, _ => .error "DNS expectations require public unicast IP addresses"

/-- The failure of a resolver. -/
def DestinationErrorCode.dnsFailureCode : DestinationErrorCode → DnsFailureCode
  | dnsFailure => .dnsFailure
  | invalidUrl => .invalidUrl
  | privateUrl => .privateUrl

/-- The addresses a resolver answers with. -/
def answeredAddresses : DnsAnswer → Except DnsFailureCode (List String)
  | .addresses values =>
    match L.publicDnsAddresses values with
    | none => .error .unknownError
    | some [] => .error .dnsFailure
    | some addresses => .ok addresses
  | .destinationError code => .error code.dnsFailureCode
  | .otherError => .error .unknownError

/-- `_observe_dns`. -/
def observeDns (answer : DnsAnswer) (expectation : DnsExpectedTarget) : Except String DnsObservation :=
  match answeredAddresses L answer with
  | .error code => DnsObservation.validate L
      { publicName := expectation.publicName, status := .unavailable
        expectedAddresses := expectation.addresses, failureCode := some code }
  | .ok addresses => DnsObservation.validate L
      { publicName := expectation.publicName
        status := if addresses = expectation.addresses then .matched else .mismatch
        expectedAddresses := expectation.addresses, observedAddresses := addresses }

/-- The expectation for the host of a URL, where the resolver is asked. -/
def dnsExpectation (P : Probe) (url : String) : Option DnsExpectedTarget :=
  if P.target.checkKind = .publicHttp ∧ P.target.resolutionFailureCode = none ∧
      (P.target.allowedHttpsHosts = [] ∨ P.customTransport = false) then
    P.target.expectedDnsTargets.find? fun item => some item.publicName = (L.urlsplit url).hostname
  else none

/-- An observation with what the resolver says. -/
def withDns (P : Probe) (url : String) (observation : TargetObservation) :
    Except String TargetObservation :=
  match dnsExpectation L P url with
  | none => .ok observation
  | some expectation =>
    (observeDns L (P.dnsGet url) expectation).map fun dns => { observation with dns := some dns }

/-- An observation with the custody its target is under. -/
def withCustody (target : MonitorTarget) (observation : TargetObservation) : TargetObservation :=
  if target.checkKind = .publicHttp ∧ target.externalCustodySha256 ≠ "" then
    { observation with externalCustodySha256 := target.externalCustodySha256 }
  else observation

/-- One round of the loop over the URLs of a target. -/
def observeUrl (P : Probe) (kind : TargetKind) (url : String) : Except String TargetObservation := do
  let observation ← checkUrl L P kind url
  let observation ← withDns L P url observation
  return withCustody P.target observation

/-- The record of a probe before its check. -/
def probeRecord (P : Probe) (observations : List TargetObservation) : ObservationRecord :=
  { schemaVersion := 2
    recordId := buildPublicIngressObservationId L P.target.product P.target.context
      P.target.instanceName P.checkedAt P.target.checkName
    product := P.target.product
    repository := P.target.repository
    driverId := P.target.driverId
    context := P.target.context
    instanceName := P.target.instanceName
    checkName := P.target.checkName
    checkKind := P.target.checkKind
    monitoringIntent := P.target.monitoringIntent
    observedAt := P.checkedAt
    status := (recordStatus observations).1
    failureCode := (recordStatus observations).2
    baseUrl := P.target.baseUrl
    healthUrl := P.target.healthUrl
    expectedRuntimeIdentity := P.target.expectedRuntimeIdentity
    targets := observations
    summary := recordSummary P.target (recordStatus observations).1 observations }

/-- `ProviderOperationAttentionReference.encode`. -/
def attentionReference (hold : ProviderTargetHold) (state : String) : String :=
  "provider-operation:attention:v1:" ++ hold.reservation.recordId ++ ":" ++ state

/-- The references of what a snapshot holds. -/
def snapshotReferences (snapshot : ProviderHoldSnapshot) : List String :=
  sortedSet ((snapshot.holds.map (·.reference)).filter (· ≠ "") ++
    (snapshot.holds.filter (·.reference = "")).flatMap
      (fun hold => ["held", "unverified"].map (attentionReference hold)) ++
    snapshot.unsettledReplacements.map (·.reference) ++ snapshot.unavailableReferences)

/-- A fingerprint that is routed by the references of a snapshot, too. -/
def withReferences (snapshot : Option ProviderHoldSnapshot) (fingerprint : MaterialFingerprint) :
    MaterialFingerprint :=
  match snapshot.map snapshotReferences with
  | none | some [] => fingerprint
  | some references => { fingerprint with
      routeAuthority := { fingerprint.routeAuthority with
        targetKeys := sortedSet (fingerprint.routeAuthority.targetKeys ++ references) } }

/-- A fingerprint as a target's record keeps it. -/
def keptFingerprint (target : MonitorTarget) (fingerprint : MaterialFingerprint) :
    MaterialFingerprint :=
  withReferences target.providerHoldSnapshot
    (if target.advisory then { fingerprint with severity := .warning } else fingerprint)

/-- A record with a fingerprint and its digest. -/
def withFingerprint (record : ObservationRecord) (fingerprint : MaterialFingerprint) :
    ObservationRecord :=
  { record with
    materialFingerprint := some fingerprint
    materialFingerprintSha256 := L.fingerprintSha256 fingerprint }

/-- The observations of the URLs of a target. -/
def observeUrls (P : Probe) : Except String (List TargetObservation) :=
  (targetUrls P.target).mapM fun item => observeUrl L P item.1 item.2

/-- `check_public_ingress_target`. -/
def checkPublicIngressTarget (P : Probe) : Except String ObservationRecord := do
  let observations ← observeUrls L P
  let record ← (probeRecord L P observations).validate L
  if record.status ≠ .fail then
    return record
  else
    let fingerprint ← buildMaterialFingerprint L record P.target
    return withFingerprint L record (keptFingerprint P.target fingerprint)

/-- `probe_targets`, one probe after the other. -/
def probeTargets (probes : List Probe) : Except String (List ObservationRecord) :=
  probes.mapM (checkPublicIngressTarget L)

end Launchplane.HealthProbe
