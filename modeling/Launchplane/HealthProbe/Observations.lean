import Launchplane.Json
import Launchplane.PublicIngress.Records
import Mathlib.Data.Finset.Sort
import Mathlib.Data.String.Basic

/-!
# Launchplane.HealthProbe.Observations

**What a health probe leaves behind**: an observation for each URL it asked, the
record of them all, and the fingerprint of a failing record. Each is checked when
it is built; the check strips its texts and refuses a combination of fields that
makes no sense (`validate`).
-/

namespace Launchplane.HealthProbe

open PublicIngress

/-! ### Texts -/

/-- A text that is not blank. -/
def NonBlank (s : String) : Prop := pyStrip s ≠ ""

instance (s : String) : Decidable (NonBlank s) := inferInstanceAs (Decidable (_ ≠ _))

theorem NonBlank.requireText {s : String} (h : NonBlank s) (message : String) :
    requireText s message = .ok (pyStrip s) := if_neg h

theorem requireText_blank {s : String} (h : ¬NonBlank s) (message : String) :
    requireText s message = .error message := if_pos (not_not.mp h)

theorem NonBlank.pyStrip {s : String} (h : NonBlank s) : NonBlank (pyStrip s) := by
  rwa [NonBlank, pyStrip_pyStrip]

theorem NonBlank.ne_empty {s : String} (h : NonBlank s) : s ≠ "" := by
  rintro rfl
  exact h rfl

/-- A text with a letter in it is not blank. -/
theorem nonBlank_of_mem {s : String} (c : Char) (hmem : c ∈ s.toList) (hc : isPySpace c = false) :
    NonBlank s := pyStrip_ne_empty hmem hc

/-- A text that starts with a character that is no blank, which is how a literal is seen to be
there. -/
theorem nonBlank_of_head {s : String} (h : (s.toList.head?.any fun c => !isPySpace c) = true) :
    NonBlank s := by
  cases hhead : s.toList.head? with
  | none =>
      rw [hhead] at h
      cases h
  | some c =>
      rw [hhead] at h
      exact nonBlank_of_mem c (List.mem_of_head? hhead) (by simpa using h)

theorem NonBlank.exists_mem {s : String} (h : NonBlank s) :
    ∃ c ∈ s.toList, isPySpace c = false := by
  by_contra hall
  push Not at hall
  refine h ?_
  have hnil : stripChars s.toList = [] := by
    rw [stripChars, stripWith, List.rdropWhile_eq_nil_iff]
    intro c hc
    simpa using hall c ((List.dropWhile_sublist _).subset hc)
  rw [Launchplane.pyStrip, hnil]

theorem NonBlank.append_left {s : String} (h : NonBlank s) (t : String) : NonBlank (s ++ t) := by
  obtain ⟨c, hmem, hc⟩ := h.exists_mem
  exact nonBlank_of_mem c (by simp [hmem]) hc

theorem NonBlank.append_right {t : String} (h : NonBlank t) (s : String) : NonBlank (s ++ t) := by
  obtain ⟨c, hmem, hc⟩ := h.exists_mem
  exact nonBlank_of_mem c (by simp [hmem]) hc

theorem NonBlank.pyLower {s : String} (h : NonBlank s) : NonBlank (pyLower s) := by
  obtain ⟨c, hmem, hc⟩ := h.exists_mem
  refine nonBlank_of_mem c.toLower ?_ ((isPySpace_toLower c).trans hc)
  rw [Launchplane.pyLower, String.toList_ofList]
  exact List.mem_map_of_mem hmem

/-- `tuple(sorted(set(values)))`. -/
def sortedSet (values : List String) : List String := values.toFinset.sort (· ≤ ·)

theorem mem_sortedSet {values : List String} {s : String} : s ∈ sortedSet values ↔ s ∈ values := by
  rw [sortedSet, Finset.mem_sort, List.mem_toFinset]

/-- `tuple(sorted({require_text(value, message) for value in values}))`. -/
def requireTexts (values : List String) (message : String) : Except String (List String) :=
  (values.mapM fun value => requireText value message).map sortedSet

theorem mapM_requireText {values : List String} {message : String} (h : ∀ value ∈ values, NonBlank value) :
    (values.mapM fun value => requireText value message) = .ok (values.map pyStrip) := by
  induction values with
  | nil => rfl
  | cons value rest ih =>
      rw [List.mapM_cons, (h value List.mem_cons_self).requireText,
        ih fun other hother => h other (List.mem_cons_of_mem _ hother)]
      rfl

theorem requireTexts_eq {values : List String} {message : String} (h : ∀ value ∈ values, NonBlank value) :
    requireTexts values message = .ok (sortedSet (values.map pyStrip)) := by
  rw [requireTexts, mapM_requireText h]
  rfl

/-! ### Runtime identities -/

/-- `RuntimeIdentityStatus`. -/
inductive RuntimeIdentityStatus
  | unchecked | matched | mismatch | missing | malformed | unverifiable
  deriving Repr, DecidableEq

/-- `RuntimeIdentity`. -/
structure RuntimeIdentity where
  product : String := ""
  context : String
  instanceName : String
  environmentKind : String := "stable"
  deploymentRecordId : String
  artifactId : String
  sourceGitRef : String
  previewId : String := ""
  previewGenerationId : String := ""
  slot : String := ""
  releaseId : String := ""
  imageDigest : String := ""
  databaseUuid : String := ""
  deriving Repr, DecidableEq

/-- The fields `compare_runtime_identity` compares, with their names. -/
def comparedFields : List (String × (RuntimeIdentity → String)) :=
  [("product", (·.product)), ("context", (·.context)), ("instance", (·.instanceName)),
    ("environment_kind", (·.environmentKind)), ("deployment_record_id", (·.deploymentRecordId)),
    ("artifact_id", (·.artifactId)), ("source_git_ref", (·.sourceGitRef)),
    ("preview_id", (·.previewId)), ("preview_generation_id", (·.previewGenerationId)),
    ("slot", (·.slot)), ("release_id", (·.releaseId)), ("image_digest", (·.imageDigest)),
    ("database_uuid", (·.databaseUuid))]

/-- `compare_runtime_identity`. -/
def compareRuntimeIdentity (expected observed : Option RuntimeIdentity) :
    RuntimeIdentityStatus × String :=
  match expected, observed with
  | none, _ => (.unchecked, "Runtime identity verification was not requested.")
  | some _, none => (.missing, "Runtime identity was not reported by the health endpoint.")
  | some expected, some observed =>
    let mismatches :=
      (comparedFields.filter fun f => f.2 expected ≠ "" ∧ f.2 observed ≠ f.2 expected).map Prod.fst
    if mismatches = [] then
      (.matched, "Runtime identity matches the expected deployment record.")
    else (.mismatch, "Runtime identity mismatched fields: " ++ ", ".intercalate mismatches)

/-- Every verdict says something. -/
theorem nonBlank_compareRuntimeIdentity (expected observed : Option RuntimeIdentity) :
    NonBlank (compareRuntimeIdentity expected observed).2 := by
  unfold compareRuntimeIdentity
  split
  · exact nonBlank_of_head rfl
  · exact nonBlank_of_head rfl
  · dsimp only
    split
    · exact nonBlank_of_head rfl
    · exact NonBlank.append_left (nonBlank_of_head rfl) _

/-! ### Evidence -/

/-- `RuntimeDependency`. -/
inductive RuntimeDependency
  | database | email | cache
  deriving Repr, DecidableEq

/-- The name of a dependency in a health payload. -/
def RuntimeDependency.text : RuntimeDependency → String
  | database => "database"
  | email => "email"
  | cache => "cache"

/-- `DependencyResult`. -/
inductive DependencyResult
  | pass | fail | notCovered
  deriving Repr, DecidableEq

/-- The status of `RuntimeDependencyHealthEvidence`. -/
inductive DependencyStatus
  | pass | fail | notCovered | none
  deriving Repr, DecidableEq

/-- The source of `RuntimeDependencyExpectations`. -/
inductive DependencySource
  | derived | override | unavailable
  deriving Repr, DecidableEq

/-- The mode of `RuntimeDependencyHealthPolicy`. -/
inductive DependencyMode
  | informational | required
  deriving Repr, DecidableEq

/-- `RuntimeDependencyExpectations`. -/
structure RuntimeDependencyExpectations where
  dependencies : List RuntimeDependency := []
  source : DependencySource := .derived
  deriving Repr, DecidableEq

/-- `RuntimeDependencyHealthEvidence`. -/
structure RuntimeDependencyHealthEvidence where
  status : DependencyStatus
  results : List (RuntimeDependency × DependencyResult)
  source : DependencySource
  mode : DependencyMode
  deriving Repr, DecidableEq

/-- `runtime_dependency_health_evidence`. -/
def runtimeDependencyHealthEvidence (payload : JsonValue)
    (expectations : RuntimeDependencyExpectations) (mode : DependencyMode) :
    RuntimeDependencyHealthEvidence :=
  let reported := payload.field "dependencies"
  let results := expectations.dependencies.map fun dependency =>
    let value := reported.field dependency.text
    (dependency, if value.isText "pass" then DependencyResult.pass
      else if value.isText "fail" then .fail else .notCovered)
  let values := results.map Prod.snd
  { status :=
      if .fail ∈ values then .fail
      else if expectations.source = .unavailable ∨ .notCovered ∈ values then .notCovered
      else if results ≠ [] then .pass else .none
    results, source := expectations.source, mode }

/-- `SyncCycleHealthEvidence`, with the facts of a recorded cycle as canonical JSON. -/
inductive SyncCycleHealthEvidence
  | recorded (cycle : String)
  | malformed
  deriving Repr, DecidableEq

/-- The certificate `PublicIngressTlsObservation` is about, as far as a fingerprint reads it. -/
structure TlsObservation where
  status : String
  routeBindingStatus : String
  domainName : String
  ingressProvider : String
  terminationKind : String
  owner : String
  deriving Repr, DecidableEq

/-- The status of `PublicDnsObservation`. -/
inductive DnsStatus
  | matched | mismatch | unavailable
  deriving Repr, DecidableEq

/-- The failure code of `PublicDnsObservation`. -/
inductive DnsFailureCode
  | dnsFailure | invalidUrl | privateUrl | unknownError
  deriving Repr, DecidableEq

/-- `PublicDnsObservation`. -/
structure DnsObservation where
  publicName : String
  status : DnsStatus
  expectedAddresses : List String
  observedAddresses : List String := []
  failureCode : Option DnsFailureCode := none
  deriving Repr, DecidableEq

/-! ### The observation of a URL -/

/-- `PublicIngressTargetKind`, in the order of its values. -/
inductive TargetKind
  | baseUrl | healthUrl | monitoringIntent | privateHealthUrl | provider | tlsDomain
  deriving Repr, DecidableEq

/-- The kinds, sorted by their values. -/
def TargetKind.sorted : List TargetKind :=
  [.baseUrl, .healthUrl, .monitoringIntent, .privateHealthUrl, .provider, .tlsDomain]

theorem TargetKind.mem_sorted (kind : TargetKind) : kind ∈ TargetKind.sorted := by
  cases kind <;> decide

/-- `tuple(sorted(set(kinds)))`. -/
def sortedKinds (kinds : List TargetKind) : List TargetKind :=
  TargetKind.sorted.filter (· ∈ kinds)

@[simp] theorem mem_sortedKinds {kinds : List TargetKind} {kind : TargetKind} :
    kind ∈ sortedKinds kinds ↔ kind ∈ kinds := by
  simp [sortedKinds, TargetKind.mem_sorted]

@[simp] theorem sortedKinds_sortedKinds (kinds : List TargetKind) :
    sortedKinds (sortedKinds kinds) = sortedKinds kinds := by
  simp only [sortedKinds, List.mem_filter, TargetKind.mem_sorted, true_and, decide_eq_true_eq]

/-- `PublicIngressTargetObservation`. -/
structure TargetObservation where
  target : TargetKind
  url : String
  status : ObservationStatus
  failureCode : Option FailureCode := none
  httpStatus : Option Nat := none
  finalUrl : String := ""
  redirectCount : Nat := 0
  externalCustodySha256 : String := ""
  visitedUrls : List String := []
  runtimeIdentityStatus : RuntimeIdentityStatus := .unchecked
  runtimeIdentityDetail : String := ""
  observedRuntimeIdentity : Option RuntimeIdentity := none
  tls : Option TlsObservation := none
  dns : Option DnsObservation := none
  summary : String
  dependencyHealth : Option RuntimeDependencyHealthEvidence := none
  sync : Option SyncCycleHealthEvidence := none
  deriving Repr, DecidableEq

/-- The failure codes something skipped may have. -/
def skippable : Option FailureCode → Bool
  | none | some .monitoringIntentChanged | some .privateUrl | some .tlsUnsupported => true
  | _ => false

/-- `PublicIngressTargetObservation._validate_observation`, with the bound of the field. -/
def TargetObservation.validate (observation : TargetObservation) :
    Except String TargetObservation := do
  raiseIf (∃ code ∈ observation.httpStatus, code < 100 ∨ 599 < code) "http_status"
  let url ← requireText observation.url "public ingress target observation requires url"
  raiseIf (observation.dns.isSome ∧ observation.target ≠ .baseUrl ∧ observation.target ≠ .healthUrl)
    "DNS diagnostics require a public HTTP target"
  let summary ← requireText observation.summary "public ingress target observation requires summary"
  raiseIf (observation.status = .pass ∧ observation.failureCode ≠ none)
    "passing public ingress target cannot include failure_code"
  raiseIf (observation.status = .fail ∧ observation.failureCode = none)
    "failing public ingress target requires failure_code"
  raiseIf (observation.status = .skipped ∧ ¬skippable observation.failureCode)
    "skipped public ingress target has an unsupported failure_code"
  raiseIf (observation.target = .tlsDomain ∧ observation.tls = none)
    "TLS public ingress target requires TLS evidence"
  raiseIf (observation.target ≠ .tlsDomain ∧ observation.tls ≠ none)
    "non-TLS public ingress targets cannot include TLS evidence"
  return { observation with url, finalUrl := pyStrip observation.finalUrl, summary }

/-- A status no server sends is refused. -/
theorem TargetObservation.validate_refused {observation : TargetObservation} {code : Nat}
    (hcode : observation.httpStatus = some code) (h : ¬(100 ≤ code ∧ code ≤ 599)) :
    observation.validate = .error "http_status" := by
  have hbad : ∃ code ∈ observation.httpStatus, code < 100 ∨ 599 < code :=
    ⟨code, hcode, by omega⟩
  rw [validate, raiseIf, if_pos hbad]
  rfl

/-- What the check of an observation asks for, of one that passes or fails on a URL. -/
structure TargetObservation.Checked (observation : TargetObservation) : Prop where
  httpStatus : ∀ code ∈ observation.httpStatus, 100 ≤ code ∧ code ≤ 599
  url : NonBlank observation.url
  summary : NonBlank observation.summary
  dns : observation.dns = none
  status : (observation.status = .pass ∧ observation.failureCode = none) ∨
    (observation.status = .fail ∧ observation.failureCode ≠ none)
  target : observation.target ≠ .tlsDomain
  tls : observation.tls = none

/-- The observation as its check leaves it. -/
def TargetObservation.stripped (observation : TargetObservation) : TargetObservation :=
  { observation with
    url := pyStrip observation.url
    finalUrl := pyStrip observation.finalUrl
    summary := pyStrip observation.summary }

theorem TargetObservation.Checked.validate_eq {observation : TargetObservation}
    (h : observation.Checked) : observation.validate = .ok observation.stripped := by
  have hcode : ¬∃ code ∈ observation.httpStatus, code < 100 ∨ 599 < code := by
    rintro ⟨code, hmem, hbad⟩
    have := h.httpStatus code hmem
    omega
  have hpass : ¬(observation.status = .pass ∧ observation.failureCode ≠ none) := by
    rintro ⟨hpass, hsome⟩
    obtain ⟨-, hnone⟩ | ⟨hfail, -⟩ := h.status
    · exact hsome hnone
    · simp [hpass] at hfail
  have hfail : ¬(observation.status = .fail ∧ observation.failureCode = none) := by
    rintro ⟨hfail, hnone⟩
    obtain ⟨hpass, -⟩ | ⟨-, hsome⟩ := h.status
    · simp [hpass] at hfail
    · exact hsome hnone
  have hskipped : ¬(observation.status = .skipped ∧ ¬skippable observation.failureCode) := by
    rintro ⟨hskipped, -⟩
    obtain ⟨hpass, -⟩ | ⟨hfail, -⟩ := h.status
    · simp [hpass] at hskipped
    · simp [hfail] at hskipped
  rw [validate, raiseIf_of_not hcode, raiseIf_of_not (by simp [h.dns]), raiseIf_of_not hpass,
    raiseIf_of_not hfail, raiseIf_of_not hskipped, raiseIf_of_not (by simp [h.target]),
    raiseIf_of_not (by simp [h.tls]), h.url.requireText, h.summary.requireText]
  rfl

/-! ### Fingerprints -/

/-- The kind of `PublicIngressIncidentRouteAuthority`. -/
inductive RouteAuthorityKind
  | publicUrls | privateEndpoint | provider | routeBinding
  deriving Repr, DecidableEq

/-- `PublicIngressIncidentRouteAuthority`. -/
structure RouteAuthority where
  kind : RouteAuthorityKind
  targetKeys : List String := []
  privateEndpointKey : String := ""
  privateEndpointSha256 : String := ""
  provider : String := ""
  providerCheck : String := ""
  domainName : String := ""
  routeBindingStatus : String := ""
  ingressProvider : String := ""
  terminationKind : String := ""
  tlsOwner : String := ""
  deriving Repr, DecidableEq

/-- `value.rstrip(".")`. -/
def rstripDots (value : String) : String := String.ofList (value.toList.rdropWhile (· = '.'))

/-- `PublicIngressIncidentRouteAuthority._validate_route_authority`. -/
def RouteAuthority.validate (authority : RouteAuthority) : Except String RouteAuthority := do
  let targetKeys ← requireTexts authority.targetKeys
    "public ingress material route authority target keys must be non-empty"
  let normal := { authority with
    targetKeys
    privateEndpointKey := pyStrip authority.privateEndpointKey
    privateEndpointSha256 := pyLower (pyStrip authority.privateEndpointSha256)
    provider := pyLower (pyStrip authority.provider)
    providerCheck := pyLower (pyStrip authority.providerCheck)
    domainName := rstripDots (pyLower (pyStrip authority.domainName))
    ingressProvider := pyLower (pyStrip authority.ingressProvider) }
  raiseIf (normal.kind = .publicUrls ∧ normal.targetKeys = [])
    "public URL route authority requires target_keys"
  raiseIf (normal.kind = .privateEndpoint ∧ normal.privateEndpointKey = "")
    "private endpoint route authority requires private_endpoint_key"
  raiseIf (normal.kind = .provider ∧ (normal.provider = "" ∨ normal.providerCheck = ""))
    "provider route authority requires provider and provider_check"
  raiseIf (normal.kind = .routeBinding ∧ normal.domainName = "")
    "route binding authority requires domain_name"
  return normal

/-- What a fingerprint keeps of a runtime identity. -/
structure MaterialRuntimeIdentity where
  product : String
  context : String
  instanceName : String
  environmentKind : String
  deploymentRecordId : String
  artifactId : String
  sourceGitRef : String
  deriving Repr, DecidableEq

/-- `_material_runtime_identity`. -/
def materialRuntimeIdentity (identity : RuntimeIdentity) : MaterialRuntimeIdentity :=
  { product := identity.product
    context := identity.context
    instanceName := identity.instanceName
    environmentKind := identity.environmentKind
    deploymentRecordId := identity.deploymentRecordId
    artifactId := identity.artifactId
    sourceGitRef := identity.sourceGitRef }

/-- The status of `PublicIngressIncidentRuntimeMismatch`. -/
inductive MismatchStatus
  | mismatch | missing | malformed | unverifiable
  deriving Repr, DecidableEq

/-- `PublicIngressIncidentRuntimeMismatch`. -/
structure RuntimeMismatch where
  status : MismatchStatus
  mismatchedFields : List String := []
  expectedRuntimeIdentity : Option MaterialRuntimeIdentity := none
  observedRuntimeIdentity : Option MaterialRuntimeIdentity := none
  deriving Repr, DecidableEq

/-- `PublicIngressIncidentRuntimeMismatch._validate_runtime_mismatch`. -/
def RuntimeMismatch.validate (mismatch : RuntimeMismatch) : Except String RuntimeMismatch := do
  let mismatchedFields ← requireTexts mismatch.mismatchedFields
    "public ingress runtime mismatch fields must be non-empty"
  return { mismatch with mismatchedFields }

/-- `PublicIngressIncidentMaterialFingerprint`. -/
structure MaterialFingerprint where
  checkKind : CheckKind
  failureCode : FailureCode
  failureLayer : FailureLayer
  severity : Severity
  affectedTargets : List TargetKind
  routeAuthority : RouteAuthority
  runtimeMismatch : Option RuntimeMismatch := none
  tlsStatus : String := ""
  deriving Repr, DecidableEq

/-- `PublicIngressIncidentMaterialFingerprint._validate_material_fingerprint`. -/
def MaterialFingerprint.validate (fingerprint : MaterialFingerprint) :
    Except String MaterialFingerprint := do
  let affectedTargets := sortedKinds fingerprint.affectedTargets
  raiseIf (affectedTargets = []) "public ingress material fingerprint requires affected_targets"
  raiseIf (fingerprint.failureCode = .wrongRuntimeIdentity ∧ fingerprint.runtimeMismatch = none)
    "runtime identity failure requires typed mismatch evidence"
  raiseIf (fingerprint.failureCode ≠ .wrongRuntimeIdentity ∧ fingerprint.runtimeMismatch ≠ none)
    "only runtime identity failures can include mismatch evidence"
  raiseIf (fingerprint.checkKind = .tls ∧ fingerprint.tlsStatus = "")
    "TLS material fingerprint requires tls_status"
  raiseIf (fingerprint.checkKind ≠ .tls ∧ fingerprint.tlsStatus ≠ "")
    "non-TLS material fingerprint cannot include tls_status"
  return { fingerprint with affectedTargets }

/-- The check of a fingerprint that is about no certificate: some target is affected, and there is
evidence of a mismatch exactly for a wrong runtime identity. -/
theorem MaterialFingerprint.validate_eq {fingerprint : MaterialFingerprint}
    (htargets : fingerprint.affectedTargets ≠ [])
    (hmismatch : fingerprint.failureCode = .wrongRuntimeIdentity ↔ fingerprint.runtimeMismatch ≠ none)
    (htls : fingerprint.checkKind ≠ .tls) (hstatus : fingerprint.tlsStatus = "") :
    fingerprint.validate =
      .ok { fingerprint with affectedTargets := sortedKinds fingerprint.affectedTargets } := by
  have hsorted : sortedKinds fingerprint.affectedTargets ≠ [] := by
    obtain ⟨kind, hkind⟩ := List.exists_mem_of_ne_nil _ htargets
    exact List.ne_nil_of_mem (mem_sortedKinds.mpr hkind)
  rw [validate, raiseIf_of_not hsorted, raiseIf_of_not (by tauto), raiseIf_of_not (by tauto),
    raiseIf_of_not (by tauto), raiseIf_of_not (by tauto)]
  rfl

/-- Evidence of a mismatch is refused for any other failure. -/
theorem MaterialFingerprint.validate_ne_ok {fingerprint checked : MaterialFingerprint}
    (hcode : fingerprint.failureCode ≠ .wrongRuntimeIdentity)
    (hmismatch : fingerprint.runtimeMismatch ≠ none) : fingerprint.validate ≠ .ok checked := by
  intro h
  rw [validate] at h
  simp only [guard_eq_ok, raiseIf_eq_ok] at h
  exact h.2.2.1 ⟨hcode, hmismatch⟩

/-! ### The record of a probe -/

/-- `PublicIngressObservationRecord`. -/
structure ObservationRecord where
  schemaVersion : Nat := 1
  recordId : String
  product : String
  repository : String := ""
  driverId : String := ""
  context : String
  instanceName : String
  checkName : String := "public-ingress"
  checkKind : CheckKind := .publicHttp
  purpose : ObservationPurpose := .probe
  monitoringIntent : String := "legacy"
  observedAt : String
  status : ObservationStatus
  failureCode : Option FailureCode := none
  baseUrl : String := ""
  healthUrl : String := ""
  expectedRuntimeIdentity : Option RuntimeIdentity := none
  targets : List TargetObservation := []
  incidentId : String := ""
  incidentEventId : String := ""
  materialFingerprint : Option MaterialFingerprint := none
  materialFingerprintSha256 : String := ""
  notificationKey : String := ""
  notificationSent : Bool := false
  summary : String
  deriving Repr, DecidableEq

end Launchplane.HealthProbe
