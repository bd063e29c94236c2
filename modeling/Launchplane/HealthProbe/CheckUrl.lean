import Launchplane.HealthProbe.Observations

/-!
# Launchplane.HealthProbe.CheckUrl

**What one URL of a health check shows.** The transport answers with a response or
fails in one of the ways the code catches, and `checkUrl` turns either into an
observation. Only a health URL is asked for the identity of the runtime behind it,
and reading an identity out of a text is the one step that can fail here.
-/

namespace Launchplane.HealthProbe

open PublicIngress

/-! ### What the code is run with -/

/-- How `json.loads` refuses a text: with `JSONDecodeError`, or with another exception, which nothing
catches. -/
inductive LoadError
  | decodeError
  | otherError (message : String)
  deriving Repr, DecidableEq

/-- The parts of a URL that `urlsplit` finds. -/
structure SplitUrl where
  scheme : String
  netloc : String
  hostname : Option String
  /-- Nothing where reading the port raises. -/
  port : Option Nat
  path : String
  deriving Repr, DecidableEq

/-- The error of `public_url_error`. -/
inductive PublicUrlError
  | invalidUrl | privateUrl
  deriving Repr, DecidableEq

/-- The libraries under the monitor: Python's characters, URLs, JSON and digests, the rules for
addresses and hosts, and the models a payload is read with. -/
structure Library where
  table : UnicodeTable
  urlsplit : String → SplitUrl
  sha256 : String → String
  urlsSha256 : List String → String
  fingerprintSha256 : MaterialFingerprint → String
  fingerprint_hex : ∀ fingerprint, isSha256 (fingerprintSha256 fingerprint) = true
  publicUrlError : String → Option PublicUrlError
  normalizedUrl : String → Option String
  requireHttpsCustody : String → List String → Bool
  publicDnsName : String → Option String
  publicDnsAddresses : List String → Option (List String)
  publicDnsAddresses_nil : publicDnsAddresses [] = some []
  publicDnsAddresses_idem : ∀ {values addresses},
    publicDnsAddresses values = some addresses → publicDnsAddresses addresses = some addresses
  loads : String → Except LoadError JsonValue
  /-- The text of a JSON string has two quotes more than the string. -/
  loads_shrinks : ∀ {text inner}, loads text = .ok (.string inner) → inner.length < text.length
  runtimeIdentity : List (String × JsonValue) → Option RuntimeIdentity
  syncCycle : List (String × JsonValue) → Option String
  timestamp : Int → String

variable (L : Library)

/-! ### What is monitored -/

/-- `PublicDnsExpectedTarget`. -/
structure DnsExpectedTarget where
  publicName : String
  addresses : List String
  deriving Repr, DecidableEq

/-- `LaunchplaneMutationReservationState`. -/
inductive ReservationState
  | running | completed | reconcileRequired
  deriving Repr, DecidableEq

/-- The value of a state. -/
def ReservationState.text : ReservationState → String
  | running => "running"
  | completed => "completed"
  | reconcileRequired => "reconcile_required"

/-- `LaunchplaneIdempotencyRecord`, whose check has parsed its times. -/
structure Reservation where
  recordId : String
  state : ReservationState
  attempt : Nat := 1
  leaseExpiresAt : Option Int := none
  providerEffectPhase : String := ""
  createdAt : Option Int := none
  updatedAt : Option Int := none
  deriving Repr, DecidableEq

/-- `ProviderTargetHold`. -/
structure ProviderTargetHold where
  reservation : Reservation
  hasOrigin : Bool
  reference : String := ""
  deriving Repr, DecidableEq

/-- `OdooStableTargetReplacementOperationRecord`, with the text of its reference. -/
structure Replacement where
  operationId : String
  updatedAt : String
  reference : String
  deriving Repr, DecidableEq

/-- `ProviderHoldLaneSnapshot`. -/
structure ProviderHoldSnapshot where
  holds : List ProviderTargetHold
  unavailableReferences : List String := []
  unsettledReplacements : List Replacement := []
  deriving Repr, DecidableEq

/-- `PublicIngressMonitorTarget`. -/
structure MonitorTarget where
  product : String
  repository : String := ""
  driverId : String := ""
  context : String
  instanceName : String
  baseUrl : String := ""
  healthUrl : String := ""
  checkName : String
  checkKind : CheckKind
  monitoringIntent : String := "prelaunch"
  expectedRuntimeIdentity : Option RuntimeIdentity := none
  requireRuntimeIdentity : Bool := false
  advisory : Bool := false
  dependencyExpectations : Option RuntimeDependencyExpectations := none
  dependencyMode : DependencyMode := .informational
  expectedDnsTargets : List DnsExpectedTarget := []
  provider : String := ""
  providerCheck : String := ""
  privateEndpointKey : String := ""
  privateEndpointMaterialSha256 : String := ""
  allowedHttpsHosts : List String := []
  externalCustodySha256 : String := ""
  resolutionFailureCode : Option FailureCode := none
  resolutionFailureSummary : String := ""
  tlsDomainName : String := ""
  deployFence : Option Reservation := none
  providerHoldSnapshot : Option ProviderHoldSnapshot := none
  previewFence : Bool := false
  testingReplacement : Option Replacement := none
  deriving Repr, DecidableEq

/-! ### Answers -/

/-- `HttpObservation`, of a status a server can send. -/
structure HttpObservation where
  statusCode : Nat
  finalUrl : String
  redirectCount : Nat := 0
  payload : JsonValue := .null
  visitedUrls : List String := []
  status_bounds : 100 ≤ statusCode ∧ statusCode ≤ 599

/-- `PublicHttpDestinationErrorCode`. -/
inductive DestinationErrorCode
  | dnsFailure | invalidUrl | privateUrl
  deriving Repr, DecidableEq

/-- The reason of a `URLError`, as far as the code tells reasons apart. -/
inductive UrlErrorReason
  | timeout | ssl | gaierror | other
  deriving Repr, DecidableEq

/-- What the transport does with a URL: it answers, or raises one of the exceptions that are
caught, in the order in which they are. -/
inductive Answer
  | response (observation : HttpObservation)
  | httpError (code : Nat) (url : String)
  | timeoutError
  | destinationError (code : DestinationErrorCode) (message : String)
  | urlError (reason : UrlErrorReason) (message : String)
  | sslError
  | runtimeError (message : String)
  | osError (message : String)

/-- What the resolver does with a URL. -/
inductive DnsAnswer
  | addresses (values : List String)
  | destinationError (code : DestinationErrorCode)
  | otherError

/-- One probe: what is monitored, when, and what answers. `get` asks with the hosts of a custody
check; `customTransport` says that `http_get` is not `fetch_public_ingress_url`. -/
structure Probe where
  target : MonitorTarget
  checkedAt : String
  instant : Int
  customTransport : Bool := false
  get : String → List String → Answer
  dnsGet : String → DnsAnswer := fun _ => .otherError
  checkTls : TargetKind → String → Except String TargetObservation := fun _ _ => .error ""

/-! ### Failures -/

/-- The value of a failure code. -/
def failureCodeText : FailureCode → String
  | .dependencyFailed => "dependency_failed"
  | .dependencyNotCovered => "dependency_not_covered"
  | .productionDeliveryFailed => "production_delivery_failed"
  | .testingDeliveryFailed => "testing_delivery_failed"
  | .connectionTimeout => "connection_timeout"
  | .deployFenceHeld => "deploy_fence_held"
  | .dnsFailure => "dns_failure"
  | .healthStatusError => "health_status_error"
  | .httpError => "http_error"
  | .invalidUrl => "invalid_url"
  | .privateEndpointDisabled => "private_endpoint_disabled"
  | .privateEndpointMismatch => "private_endpoint_mismatch"
  | .privateEndpointNotFound => "private_endpoint_not_found"
  | .privateUrl => "private_url"
  | .monitoringIntentChanged => "monitoring_intent_changed"
  | .monitorRunMissed => "monitor_run_missed"
  | .providerCheckUnavailable => "provider_check_unavailable"
  | .redirectLoop => "redirect_loop"
  | .selfRedirect => "self_redirect"
  | .tlsChainFailure => "tls_chain_failure"
  | .tlsExpired => "tls_expired"
  | .tlsExpiring => "tls_expiring"
  | .tlsFailure => "tls_failure"
  | .tlsHostnameMismatch => "tls_hostname_mismatch"
  | .tlsSelfSigned => "tls_self_signed"
  | .tlsUnsupported => "tls_unsupported"
  | .wrongRuntimeIdentity => "wrong_runtime_identity"
  | .unknownError => "unknown_error"

/-- `_failure_summary`. -/
def failureSummary (code : FailureCode) : String :=
  String.ofList ((failureCodeText code).toList.map fun c => if c = '_' then ' ' else c)

/-- `_failed_target`. -/
def failedTarget (kind : TargetKind) (url : String) (code : FailureCode) (summary : String := "") :
    Except String TargetObservation :=
  TargetObservation.validate
    { target := kind, url, status := .fail, failureCode := some code
      summary := if pyStrip summary ≠ "" then pyStrip summary else failureSummary code }

/-- The code of a URL that is no public one. -/
def PublicUrlError.failureCode : PublicUrlError → FailureCode
  | invalidUrl => .invalidUrl
  | privateUrl => .privateUrl

/-- The code of a destination the transport refuses. -/
def DestinationErrorCode.failureCode : DestinationErrorCode → FailureCode
  | dnsFailure => .dnsFailure
  | invalidUrl => .invalidUrl
  | privateUrl => .privateUrl

/-- The code of the reason of a `URLError`. -/
def UrlErrorReason.failureCode : UrlErrorReason → FailureCode
  | timeout => .connectionTimeout
  | ssl => .tlsFailure
  | gaierror => .dnsFailure
  | other => .unknownError

/-- `target_kind in {"health_url", "private_health_url"}`. -/
def TargetKind.isHealthUrl : TargetKind → Bool
  | healthUrl | privateHealthUrl => true
  | _ => false

/-- The code of a status that is no success. -/
def statusFailureCode (kind : TargetKind) : FailureCode :=
  if kind.isHealthUrl then .healthStatusError else .httpError

/-- `"self redirect" in message`, of a lower-case message. -/
def isSelfRedirect (message : String) : Bool :=
  (pyLower message).toList.tails.any fun rest => "self redirect".toList.isPrefixOf rest

/-! ### Runtime identities -/

/-- The object a text stands for, where the text of a text stands for what that text does. -/
def decodedObject (text : String) : Except String (Option (List (String × JsonValue))) :=
  if pyStrip text = "" then .ok none
  else
    match _ : L.loads (pyStrip text) with
    | .error .decodeError => .ok none
    | .error (.otherError message) => .error message
    | .ok (.string inner) => decodedObject inner
    | .ok (.object fields) => .ok (some fields)
    | .ok _ => .ok none
termination_by text.length
decreasing_by
  have hloads : L.loads (pyStrip text) = .ok (.string inner) := by assumption
  have hstrip : (pyStrip text).length ≤ text.length := by
    rw [pyStrip, ← String.length_toList, String.toList_ofList, ← String.length_toList]
    exact (stripWith_sublist isPySpace text.toList).length_le
  exact (L.loads_shrinks hloads).trans_le hstrip

/-- `parse_runtime_identity_payload`. -/
def parseRuntimeIdentityPayload : JsonValue → Except String (Option RuntimeIdentity)
  | .string text => (decodedObject L text).map fun fields => fields.bind L.runtimeIdentity
  | .object fields => .ok (L.runtimeIdentity fields)
  | _ => .ok none

/-- The keys under which a payload may have an identity. -/
def runtimeIdentityKeys : List String :=
  ["runtime_identity", "launchplane_runtime_identity", "launchplaneRuntimeIdentity",
    "LAUNCHPLANE_RUNTIME_IDENTITY_JSON"]

/-- The identity under the first of the keys that has one. -/
def firstRuntimeIdentity (payload : JsonValue) : List String → Except String (Option RuntimeIdentity)
  | [] => .ok none
  | key :: keys => do
    let identity ← parseRuntimeIdentityPayload L (payload.field key)
    match identity with
    | some identity => return some identity
    | none => firstRuntimeIdentity payload keys

/-- `runtime_identity_from_health_payload`. What is no object has no fields. -/
def runtimeIdentityFromHealthPayload (payload : JsonValue) : Except String (Option RuntimeIdentity) :=
  firstRuntimeIdentity L payload runtimeIdentityKeys

/-- `health_payload_has_runtime_identity_key`. -/
def healthPayloadHasRuntimeIdentityKey : JsonValue → Bool
  | .object fields => runtimeIdentityKeys.any fun key => fields.any fun field => field.1 = key
  | _ => false

/-- The verdict on a payload whose identity has been read. -/
def runtimeIdentityVerdict (expected : RuntimeIdentity) (payload : JsonValue)
    (observed : Option RuntimeIdentity) : RuntimeIdentityStatus × String :=
  if observed = none ∧ healthPayloadHasRuntimeIdentityKey payload then
    (.malformed, "Health endpoint returned runtime identity evidence that could not be parsed.")
  else compareRuntimeIdentity (some expected) observed

/-- `health_payload_runtime_identity_status`, of a payload that has been parsed. -/
def healthPayloadRuntimeIdentityStatus (expected : RuntimeIdentity) (payload : JsonValue) :
    Except String (RuntimeIdentityStatus × String × Option RuntimeIdentity) := do
  let observed ← runtimeIdentityFromHealthPayload L payload
  let verdict := runtimeIdentityVerdict expected payload observed
  return (verdict.1, verdict.2, observed)

theorem nonBlank_runtimeIdentityVerdict (expected : RuntimeIdentity) (payload : JsonValue)
    (observed : Option RuntimeIdentity) :
    NonBlank (runtimeIdentityVerdict expected payload observed).2 := by
  unfold runtimeIdentityVerdict
  split
  · decide +kernel
  · exact nonBlank_compareRuntimeIdentity _ _

/-- `sync_cycle_health_evidence_from_payload`. -/
def syncCycleHealthEvidenceFromPayload : JsonValue → Option SyncCycleHealthEvidence
  | .object fields =>
    match fields.find? (·.1 = "sync") with
    | none => none
    | some (_, .object reported) =>
      match L.syncCycle reported with
      | some cycle => some (.recorded cycle)
      | none => some .malformed
    | some _ => some .malformed
  | _ => none

/-! ### Deploy fences -/

/-- `DEPLOY_FENCE_RECONCILE_GRACE`, in seconds. -/
def deployFenceReconcileGrace : Int := 900

/-- `provider_hold_is_stuck`. -/
def providerHoldIsStuck (fence : Reservation) (observedAt : Int) : Bool :=
  match fence.state, fence.updatedAt with
  | .running, _ => fence.leaseExpiresAt.any (· ≤ observedAt)
  | _, none => true
  | _, some updated =>
    (fence.leaseExpiresAt.elim updated (min updated)) + deployFenceReconcileGrace ≤ observedAt

/-- The text of a time that may not be recorded. -/
def timeText (missing : String) (time : Option Int) : String := time.elim missing L.timestamp

/-- `text or other`. -/
def textOr (text other : String) : String := if text ≠ "" then text else other

/-- `_is_deploy_fence_target`. -/
def isDeployFenceTarget (target : MonitorTarget) : Bool :=
  target.provider = "launchplane" ∧ target.providerCheck = "launchplane-deploy-fence"

/-- `f"provider://{target.provider}/{target.provider_check}"`. -/
def providerUrl (target : MonitorTarget) : String :=
  "provider://" ++ target.provider ++ "/" ++ target.providerCheck

/-- An observation of the provider. -/
def providerObservation (target : MonitorTarget) (failure : Option FailureCode) (summary : String) :
    TargetObservation :=
  { target := .provider, url := providerUrl target
    status := if failure = none then .pass else .fail
    failureCode := failure, summary }

/-- What a snapshot with something to reconcile says. -/
def snapshotSummary (snapshot : ProviderHoldSnapshot) (stuck : List ProviderTargetHold)
    (unavailable : Bool) : String :=
  let detail := match stuck with
    | [] => ""
    | hold :: _ => " Operation " ++ hold.reservation.recordId ++ " remains "
        ++ hold.reservation.state.text ++ ", last phase "
        ++ textOr hold.reservation.providerEffectPhase "not recorded" ++ ", since "
        ++ timeText L "" hold.reservation.createdAt ++ "."
  let replaced := match snapshot.unsettledReplacements with
    | [] => ""
    | replacement :: _ => " Testing replacement " ++ replacement.operationId
        ++ " remains fenced; its exact typed operation has not reached a terminal state."
  toString snapshot.holds.length ++ " shared provider operations remain held for this lane; "
    ++ toString stuck.length ++ " require reconciliation." ++ detail ++ replaced
    ++ if unavailable then
      " Original operation or incarnation evidence is unavailable; settlement is unverified."
    else ""

/-- `_check_deploy_fence`. -/
def checkDeployFence (target : MonitorTarget) (checkedAt : Int) : Except String TargetObservation :=
  match target.testingReplacement, target.providerHoldSnapshot, target.deployFence with
  | some replacement, _, _ =>
    (providerObservation target (some .deployFenceHeld)
      ("Testing replacement " ++ replacement.operationId ++ " remains fenced since "
        ++ replacement.updatedAt ++ ". Launchplane cannot prove its provider effects "
        ++ "safe to release. Missing references, an active worker, running jobs or "
        ++ "unknown provider outcomes require further reconciliation; no effects are replayed.")).validate
  | none, some snapshot, _ =>
    let stuck := snapshot.holds.filter fun hold => providerHoldIsStuck hold.reservation checkedAt
    let unavailable := snapshot.unavailableReferences ≠ [] ∨
      snapshot.holds.any fun hold => !hold.hasOrigin
    if stuck ≠ [] ∨ unavailable ∨ snapshot.unsettledReplacements ≠ [] then
      (providerObservation target (some .deployFenceHeld)
        (snapshotSummary L snapshot stuck unavailable)).validate
    else
      (providerObservation target none
        ("No stuck shared provider operation is holding this lane. Completed operations do not "
          ++ "prove verification succeeded.")).validate
  | none, none, none =>
    (providerObservation target none "No unresolved deploy is holding this target.").validate
  | none, none, some fence =>
    if ¬providerHoldIsStuck fence checkedAt then
      (providerObservation target none "No unresolved deploy is holding this target.").validate
    else if target.previewFence then
      (providerObservation target (some .deployFenceHeld)
        ("Preview reservation " ++ fence.recordId ++ " remains held (" ++ fence.state.text
          ++ ", attempt " ++ toString fence.attempt ++ ", since " ++ timeText L "" fence.createdAt
          ++ "). Use the product preview-reservations classification read and original-intent "
          ++ "recovery; missing proof keeps the fence.")).validate
    else
      (providerObservation target (some .deployFenceHeld)
        ("Operation " ++ fence.recordId ++ " started at "
          ++ timeText L "an unknown time" fence.createdAt ++ " and holds this target ("
          ++ fence.state.text ++ ", last at "
          ++ textOr fence.providerEffectPhase "no provider effect" ++ ", since "
          ++ timeText L "an unknown time" fence.updatedAt
          ++ "). Every later deploy is refused until it is recovered with the generic-web deploy "
          ++ "recovery dry-run.")).validate

/-- `_provider_check_unavailable`. -/
def providerCheckUnavailable (target : MonitorTarget) : Except String TargetObservation :=
  (providerObservation target (some .providerCheckUnavailable)
    ("Provider health check " ++ target.provider ++ "/" ++ target.providerCheck
      ++ " is not wired to a monitor driver.")).validate

/-! ### One URL -/

/-- `custody_redirects_match`. -/
def custodyRedirectsMatch (url : String) (observation : HttpObservation) (hosts : List String) :
    Bool :=
  let chain := if observation.visitedUrls ≠ [] then observation.visitedUrls
    else if observation.redirectCount = 0 then [url] else []
  let same (a b : String) : Bool := (L.normalizedUrl a).isSome && L.normalizedUrl a = L.normalizedUrl b
  match chain.head?, chain.getLast? with
  | some first, some last =>
    chain.length = observation.redirectCount + 1 && same first url &&
      same last (textOr observation.finalUrl url) &&
      chain.all fun hop => L.requireHttpsCustody hop hosts
  | _, _ => false

/-- `_successful_target_summary`. -/
def successfulTargetSummary (target : MonitorTarget) : String :=
  match target.checkKind with
  | .tls => "Public TLS certificate is valid."
  | .privateHttp => "Private health check returned a successful response."
  | _ => "Public ingress returned a successful response."

/-- A failing identity: a wrong or malformed one, or none where one is required. -/
def hardRuntimeIdentityFailure (target : MonitorTarget) (status : RuntimeIdentityStatus) : Bool :=
  status = .malformed ∨ status = .mismatch ∨ (target.requireRuntimeIdentity ∧ status ≠ .matched)

/-- What the dependencies of a healthy answer add to it. -/
def dependencyFailure (evidence : Option RuntimeDependencyHealthEvidence) (summary : String) :
    Option FailureCode × String :=
  match evidence with
  | none => (none, summary)
  | some evidence =>
    match evidence.status, evidence.mode with
    | .fail, _ => (some .dependencyFailed, "A declared runtime dependency failed.")
    | .notCovered, .required =>
      (some .dependencyNotCovered, summary ++ " Dependency health: not covered.")
    | .notCovered, .informational => (none, summary ++ " Dependency health: not covered.")
    | _, _ => (none, summary)

/-- `_check_url`, once the transport has raised. -/
def checkException (kind : TargetKind) (url : String) : Answer → Except String TargetObservation
  | .response _ => .error "not an exception"
  | .httpError code finalUrl => TargetObservation.validate
      { target := kind, url, status := .fail, failureCode := some (statusFailureCode kind)
        httpStatus := some code, finalUrl, summary := "HTTP " ++ toString code }
  | .timeoutError => failedTarget kind url .connectionTimeout
  | .destinationError code message => failedTarget kind url code.failureCode message
  | .urlError reason message => failedTarget kind url reason.failureCode message
  | .sslError => failedTarget kind url .tlsFailure
  | .runtimeError message =>
      failedTarget kind url (if isSelfRedirect message then .selfRedirect else .redirectLoop) message
  | .osError message => failedTarget kind url .unknownError message

/-- `is_health_response`. -/
def isHealthResponse (target : MonitorTarget) (kind : TargetKind) (url : String) : Bool :=
  kind.isHealthUrl ∨ (kind = .baseUrl ∧ url = target.healthUrl)

/-- What an answer shows of the dependencies, where it is asked for them. -/
def dependencyEvidence (target : MonitorTarget) (kind : TargetKind) (url : String)
    (observation : HttpObservation) : Option RuntimeDependencyHealthEvidence :=
  if isHealthResponse target kind url then
    target.dependencyExpectations.map fun expectations =>
      runtimeDependencyHealthEvidence observation.payload expectations target.dependencyMode
  else none

/-- The observation of an answer, before anything but its status is known to be wrong with it. -/
def answeredObservation (target : MonitorTarget) (kind : TargetKind) (url : String)
    (observation : HttpObservation) : TargetObservation :=
  { target := kind, url, status := .fail, failureCode := some (statusFailureCode kind)
    httpStatus := some observation.statusCode
    finalUrl := observation.finalUrl, redirectCount := observation.redirectCount
    visitedUrls := observation.visitedUrls, summary := "HTTP " ++ toString observation.statusCode
    dependencyHealth := dependencyEvidence target kind url observation
    sync := if isHealthResponse target kind url then
      syncCycleHealthEvidenceFromPayload L observation.payload else none }

/-- An answer that passes, unless a dependency fails. -/
def succeededObservation (target : MonitorTarget) (answered : TargetObservation)
    (status : RuntimeIdentityStatus) (detail : String) (observed : Option RuntimeIdentity) :
    TargetObservation :=
  let failure := dependencyFailure answered.dependencyHealth (successfulTargetSummary target)
  { answered with
    status := if failure.1 = none then .pass else .fail
    failureCode := failure.1
    runtimeIdentityStatus := status
    runtimeIdentityDetail := detail
    observedRuntimeIdentity := observed
    summary := failure.2 }

/-- An answer of the wrong runtime. -/
def wrongIdentityObservation (answered : TargetObservation) (status : RuntimeIdentityStatus)
    (detail : String) (observed : Option RuntimeIdentity) (summary : String) : TargetObservation :=
  { answered with
    failureCode := some .wrongRuntimeIdentity
    runtimeIdentityStatus := status
    runtimeIdentityDetail := detail
    observedRuntimeIdentity := observed
    summary }

/-- The check of the identity in a successful answer of a health URL. -/
def checkIdentity (target : MonitorTarget) (answered : TargetObservation) (payload : JsonValue) :
    Except String TargetObservation :=
  match target.expectedRuntimeIdentity with
  | none =>
    if target.requireRuntimeIdentity then
      (wrongIdentityObservation answered .unverifiable
        "No expected runtime identity is recorded for this strict public health check." none
        "Expected runtime identity is unavailable.").validate
    else (succeededObservation target answered .unchecked "" none).validate
  | some expected => do
    let (status, detail, observed) ← healthPayloadRuntimeIdentityStatus L expected payload
    if hardRuntimeIdentityFailure target status then
      (wrongIdentityObservation answered status detail observed
        (textOr detail "Runtime identity did not match expected deployment.")).validate
    else (succeededObservation target answered status detail observed).validate

/-- `_check_url`, once the transport has answered. -/
def checkResponse (target : MonitorTarget) (kind : TargetKind) (url : String)
    (observation : HttpObservation) : Except String TargetObservation :=
  let answered := answeredObservation L target kind url observation
  if target.allowedHttpsHosts ≠ [] ∧
      custodyRedirectsMatch L url observation target.allowedHttpsHosts = false then
    failedTarget kind url .invalidUrl "Health redirects do not prove the recorded HTTPS custody."
  else if ¬(200 ≤ observation.statusCode ∧ observation.statusCode < 300) then answered.validate
  else if kind.isHealthUrl then checkIdentity L target answered observation.payload
  else (succeededObservation target answered .unchecked "" none).validate

/-- `_check_url`, of a URL that is asked. -/
def checkHttpUrl (P : Probe) (kind : TargetKind) (url : String) : Except String TargetObservation :=
  if P.target.allowedHttpsHosts ≠ [] ∧ P.customTransport then
    failedTarget kind url .invalidUrl
      "Custody checks require the default HTTPS transport; no request was sent."
  else
    match P.get url P.target.allowedHttpsHosts with
    | .response observation => checkResponse L P.target kind url observation
    | answer => checkException kind url answer

/-- The error of a URL that has to be public. -/
def publicUrlErrorOf (target : MonitorTarget) (url : String) : Option PublicUrlError :=
  if target.checkKind = .privateHttp then none else L.publicUrlError url

/-- `_check_url`. -/
def checkUrl (P : Probe) (kind : TargetKind) (url : String) : Except String TargetObservation :=
  match P.target.checkKind with
  | .tls => P.checkTls kind url
  | .provider =>
    if isDeployFenceTarget P.target then checkDeployFence L P.target P.instant
    else providerCheckUnavailable P.target
  | _ =>
    match P.target.resolutionFailureCode, publicUrlErrorOf L P.target url with
    | some code, _ => TargetObservation.validate
        { target := kind, url, status := .fail, failureCode := some code
          summary := textOr P.target.resolutionFailureSummary
            "Private health endpoint could not be resolved." }
    | none, some error => TargetObservation.validate
        { target := kind, url, status := .fail, failureCode := some error.failureCode
          summary := failureSummary error.failureCode }
    | none, none => checkHttpUrl L P kind url

end Launchplane.HealthProbe
