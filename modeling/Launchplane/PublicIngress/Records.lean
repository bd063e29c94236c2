import Launchplane.Dict
import Launchplane.Secrets.Slug

/-!
# Launchplane.PublicIngress.Records

**Observations, incidents and their events.** An incident record is checked
whenever it is read back (`validate`), and is a fixed point of the check when its
texts are stripped and its fields agree (`Valid`). An event's id is made from the
event before it, so the events of an incident form a chain.
-/

namespace Launchplane.PublicIngress

/-- `PublicIngressCheckKind`. -/
inductive CheckKind
  | publicHttp | privateHttp | provider | tls
  deriving Repr, DecidableEq

/-- `PublicIngressFailureCode`. -/
inductive FailureCode
  | dependencyFailed | dependencyNotCovered | productionDeliveryFailed | testingDeliveryFailed
  | connectionTimeout | deployFenceHeld | dnsFailure | healthStatusError | httpError | invalidUrl
  | privateEndpointDisabled | privateEndpointMismatch | privateEndpointNotFound | privateUrl
  | monitoringIntentChanged | monitorRunMissed | providerCheckUnavailable | redirectLoop
  | selfRedirect | tlsChainFailure | tlsExpired | tlsExpiring | tlsFailure | tlsHostnameMismatch
  | tlsSelfSigned | tlsUnsupported | wrongRuntimeIdentity | unknownError
  deriving Repr, DecidableEq

/-- `PublicIngressFailureLayer`. -/
inductive FailureLayer
  | configuration | dns | network | redirect | http | tls | runtimeIdentity | provider | unknown
  deriving Repr, DecidableEq

/-- `PublicIngressIncidentSeverity`. -/
inductive Severity
  | warning | critical
  deriving Repr, DecidableEq

/-- `PublicIngressObservationStatus`. -/
inductive ObservationStatus
  | pass | fail | skipped
  deriving Repr, DecidableEq

/-- `PublicIngressObservationPurpose`. -/
inductive ObservationPurpose
  | probe | reconciliation
  deriving Repr, DecidableEq

/-- `PublicIngressIncidentStatus`. -/
inductive IncidentStatus
  | opened | resolved
  deriving Repr, DecidableEq

/-- `PublicIngressIncidentResolutionReason`. -/
inductive ResolutionReason
  | recovered | monitoringIntentChanged | duplicateReconciled | requestRefused
  deriving Repr, DecidableEq

/-- `PublicIngressIncidentEventKind`. -/
inductive EventKind
  | opened | updated | reminder | resolved | baseline
  deriving Repr, DecidableEq

/-- `PublicIngressIncidentEventReason`. -/
inductive EventReason
  | incidentOpened | materialChange | reminderDue | recovered | monitoringIntentChanged
  | migrationBaseline | duplicateReconciled | requestRefused
  deriving Repr, DecidableEq

/-- The reason of the event that resolves an incident. -/
def ResolutionReason.eventReason : ResolutionReason → EventReason
  | recovered => .recovered
  | monitoringIntentChanged => .monitoringIntentChanged
  | duplicateReconciled => .duplicateReconciled
  | requestRefused => .requestRefused

/-- `PublicIngressIncidentNotificationState`. -/
inductive NotificationState
  | active | acknowledged | silenced
  deriving Repr, DecidableEq

/-- `PublicIngressIncidentEventSuppressionReason`. -/
inductive SuppressionReason
  | acknowledged | silenced | migrationReconciliation
  deriving Repr, DecidableEq

/-- `PublicIngressIncidentMaterialFingerprint`, with the fields that are not compared one by one as
their canonical JSON. -/
structure MaterialFingerprint where
  checkKind : CheckKind
  failureCode : FailureCode
  failureLayer : FailureLayer
  severity : Severity
  evidence : String
  deriving Repr, DecidableEq

/-- `PublicIngressObservationRecord`. -/
structure ObservationRecord where
  recordId : String
  product : String
  repository : String := ""
  driverId : String := ""
  context : String
  instanceName : String
  checkName : String := "public-ingress"
  checkKind : CheckKind := .publicHttp
  purpose : ObservationPurpose := .probe
  observedAt : String
  status : ObservationStatus
  failureCode : Option FailureCode := none
  incidentId : String := ""
  incidentEventId : String := ""
  materialFingerprint : Option MaterialFingerprint := none
  materialFingerprintSha256 : String := ""
  summary : String
  deriving Repr, DecidableEq

/-- `PublicIngressIncidentRecord`. No reason and no event are empty texts. -/
structure IncidentRecord where
  schemaVersion : Nat := 1
  incidentId : String
  product : String
  repository : String := ""
  driverId : String := ""
  context : String
  instanceName : String
  checkName : String := "public-ingress"
  checkKind : CheckKind := .publicHttp
  status : IncidentStatus
  openedAt : String
  openedObservationId : String
  latestObservationId : String
  latestObservedAt : String
  failureCode : FailureCode
  resolvedAt : String := ""
  resolvedObservationId : String := ""
  resolutionReason : Option ResolutionReason := none
  stateVersion : Nat := 0
  severity : Severity := .critical
  materialFingerprint : Option MaterialFingerprint := none
  materialFingerprintSha256 : String := ""
  materialFingerprintComplete : Bool := false
  latestMaterialEventId : String := ""
  latestMaterialEvent : Option EventKind := none
  latestMaterialEventAt : String := ""
  notificationState : NotificationState := .active
  notificationStateChangedAt : String := ""
  notificationStateReason : String := ""
  silencedUntil : String := ""
  recoveryObservationThreshold : Nat := 1
  consecutiveRecoveryObservations : Nat := 0
  latestRecoveryObservationId : String := ""
  summary : String
  deriving Repr, DecidableEq

/-- `PublicIngressIncidentEventRecord`, of the kinds that are no reminder. -/
structure EventRecord where
  eventId : String
  incidentId : String
  event : EventKind
  reason : EventReason
  occurredAt : String
  observationId : String
  materialFingerprintSha256 : String
  previousMaterialFingerprintSha256 : String := ""
  severity : Severity
  deliveryEligible : Bool := true
  suppressionReason : Option SuppressionReason := none
  summary : String
  deriving Repr, DecidableEq

/-! ### Texts -/

/-- A text that is not empty, with no white space at its ends. -/
def IsText (s : String) : Prop :=
  s ≠ "" ∧ (∀ c ∈ s.toList.head?, isPySpace c = false) ∧
    ∀ c ∈ s.toList.getLast?, isPySpace c = false

instance (s : String) : Decidable (IsText s) :=
  have (o : Option Char) : Decidable (∀ c ∈ o, isPySpace c = false) := o.decidableForallMem
  inferInstanceAs (Decidable (_ ∧ _ ∧ _))

/-- A text that may be empty, with no white space at its ends. -/
def Stripped (s : String) : Prop := pyStrip s = s

theorem IsText.stripped {s : String} (h : IsText s) : Stripped s := by
  have hne : s.toList ≠ [] := by simpa using h.1
  rw [Stripped, pyStrip, stripChars, ← List.append_nil s.toList,
    stripWith_append h.2.1 h.2.2 hne (by simp), String.ofList_toList]

theorem stripped_empty : Stripped "" := rfl

theorem requireText_of_isText {s : String} (h : IsText s) (message : String) :
    requireText s message = .ok s := by
  rw [requireText, h.stripped, if_neg h.1]

theorem isText_of_noSpace {s : String} (hne : s ≠ "")
    (h : ∀ c ∈ s.toList, isPySpace c = false) : IsText s :=
  ⟨hne, fun c hc => h c (List.mem_of_mem_head? hc), fun c hc => h c (List.mem_of_getLast? hc)⟩

/-- What stands between two texts does not matter. -/
theorem IsText.append {s t : String} (hs : IsText s) (ht : IsText t) (middle : String) :
    IsText (s ++ middle ++ t) := by
  have hs' : s.toList ≠ [] := by simpa using hs.1
  have ht' : t.toList ≠ [] := by simpa using ht.1
  refine ⟨fun h => ht' ?_, ?_, ?_⟩
  · have := congrArg String.toList h
    simp only [String.toList_append, String.toList_empty, List.append_eq_nil_iff] at this
    exact this.2
  · intro c hc
    refine hs.2.1 c ?_
    simpa [String.toList_append, List.head?_append_of_ne_nil _ hs', List.append_assoc] using hc
  · intro c hc
    refine ht.2.2 c ?_
    simpa [String.toList_append, ht.1, List.getLast?_append_of_ne_nil _ ht', List.append_assoc] using hc

/-- The characters Python's texts are made of. -/
structure UnicodeTable extends Secrets.CharacterTable where
  ascii : ∀ c, c.toNat < 128 → isAlnum c = c.isAlphanum ∧ lower c = [c.toLower]
  noSpace : ∀ c, isAlnum c = true → isPySpace c = false

theorem ascii_ascii (c : Char) (_ : c.toNat < 128) :
    Secrets.CharacterTable.ascii.isAlnum c = c.isAlphanum ∧
      Secrets.CharacterTable.ascii.lower c = [c.toLower] := ⟨rfl, rfl⟩

theorem noSpace_of_isAlphanum (c : Char) (h : c.isAlphanum = true) : isPySpace c = false := by
  delta Char.isAlphanum Char.isAlpha Char.isUpper Char.isLower Char.isDigit at h
  simp only [Bool.or_eq_true, Bool.and_eq_true, decide_eq_true_eq, ge_iff_le,
    UInt32.le_iff_toNat_le] at h
  have hval : c.val.toNat = c.toNat := rfl
  simp only [hval, show 'A'.val.toNat = 65 from rfl, show 'Z'.val.toNat = 90 from rfl,
    show 'a'.val.toNat = 97 from rfl, show 'z'.val.toNat = 122 from rfl,
    show '0'.val.toNat = 48 from rfl, show '9'.val.toNat = 57 from rfl] at h
  simp only [isPySpace, Bool.or_eq_false_iff, Bool.and_eq_false_iff, decide_eq_false_iff_not,
    beq_eq_false_iff_ne]
  omega

/-- `health_check_record_token`. -/
def recordToken (T : UnicodeTable) (value : String) : List Char :=
  stripWith (· = '-')
    (((stripChars value.toList).flatMap T.lower).map fun c => if T.isAlnum c then c else '-')

/-- `canonical_health_check_record_token`. -/
def canonicalHealthCheckRecordToken (T : UnicodeTable) (checkName : String) : List Char :=
  if recordToken T checkName = "public-ingress".toList then [] else recordToken T checkName

/-- `"-".join(_record_token(value) for value in values if _record_token(value))`. -/
def joinTokens (T : UnicodeTable) (values : List String) : String :=
  String.ofList (Secrets.joinDash ((values.map (recordToken T)).filter (· ≠ [])))

theorem mem_stripWith_of_ne {p : Char → Bool} {cs : List Char} {c : Char} (hc : c ∈ cs)
    (hp : p c = false) : stripWith p cs ≠ [] := by
  intro hnil
  rw [stripWith, List.rdropWhile_eq_nil_iff] at hnil
  rw [← List.takeWhile_append_dropWhile (p := p) (l := cs), List.mem_append] at hc
  obtain hleft | hrest := hc
  · simp [List.mem_takeWhile_imp hleft] at hp
  · simp [hnil c hrest] at hp

/-- A text with an alphanumeric character has a token. -/
theorem recordToken_ne_nil {T : UnicodeTable} {value : String} {c : Char}
    (hmem : c ∈ (stripChars value.toList).flatMap T.lower) (hc : T.isAlnum c = true)
    (hdash : c ≠ '-') : recordToken T value ≠ [] :=
  mem_stripWith_of_ne (List.mem_map.mpr ⟨c, hmem, if_pos hc⟩) (by simpa using hdash)

/-- So has one with a letter of ASCII. -/
theorem recordToken_ne_nil_of_ascii {T : UnicodeTable} {value : String} {c : Char}
    (hmem : c ∈ stripChars value.toList) (hascii : c.toNat < 128) (halnum : c.isAlphanum = true)
    (hlower : c.toLower = c) (hdash : c ≠ '-') : recordToken T value ≠ [] := by
  obtain ⟨hsame, hto⟩ := T.ascii c hascii
  refine recordToken_ne_nil (List.mem_flatMap.mpr ⟨c, hmem, ?_⟩) (hsame.trans halnum) hdash
  simp [hto, hlower]

theorem noSpace_recordToken {T : UnicodeTable} {value : String} {c : Char}
    (h : c ∈ recordToken T value) : isPySpace c = false := by
  obtain ⟨d, -, rfl⟩ := List.mem_map.mp ((stripWith_sublist _ _).subset h)
  by_cases hd : T.isAlnum d = true
  · rw [if_pos hd]
    exact T.noSpace d hd
  · rw [if_neg hd]
    decide

theorem noSpace_joinDash {words : List (List Char)}
    (h : ∀ word ∈ words, ∀ c ∈ word, isPySpace c = false) :
    ∀ c ∈ Secrets.joinDash words, isPySpace c = false := by
  induction words with
  | nil => simp [Secrets.joinDash]
  | cons word rest ih =>
    have hword := h word List.mem_cons_self
    have hrest := ih fun other hother => h other (List.mem_cons_of_mem _ hother)
    by_cases hne : rest = []
    · subst hne
      simpa [Secrets.joinDash] using hword
    · intro c hc
      rw [Secrets.joinDash_cons word hne, List.mem_append, List.mem_cons] at hc
      obtain hc | rfl | hc := hc
      · exact hword c hc
      · decide
      · exact hrest c hc

/-- Tokens joined with dashes are a text, if one of the values has a token. -/
theorem isText_joinTokens {T : UnicodeTable} {values : List String}
    (h : ∃ value ∈ values, recordToken T value ≠ []) : IsText (joinTokens T values) := by
  obtain ⟨value, hmem, hne⟩ := h
  have hword : recordToken T value ∈ (values.map (recordToken T)).filter (· ≠ []) :=
    List.mem_filter.mpr ⟨List.mem_map_of_mem hmem, by simpa using hne⟩
  refine isText_of_noSpace ?_ ?_
  · intro hempty
    have hnil : Secrets.joinDash ((values.map (recordToken T)).filter (· ≠ [])) = [] := by
      simpa [joinTokens] using congrArg String.toList hempty
    generalize (values.map (recordToken T)).filter (· ≠ []) = words at hnil hword
    cases words with
    | nil => simp at hword
    | cons word rest =>
      by_cases hrest : rest = []
      · subst hrest
        obtain rfl : recordToken T value = word := by simpa using hword
        exact hne (by simpa [Secrets.joinDash] using hnil)
      · rw [Secrets.joinDash_cons word hrest] at hnil
        simp at hnil
  · intro c hc
    rw [joinTokens, String.toList_ofList] at hc
    refine noSpace_joinDash (fun word hword c hc => ?_) c hc
    obtain ⟨value, -, rfl⟩ := List.mem_map.mp (List.mem_filter.mp hword).1
    exact noSpace_recordToken hc

/-! ### Digests and ids -/

/-- What the id of a material event is a digest of. -/
structure EventIdentity where
  incidentId : String
  event : EventKind
  materialFingerprintSha256 : String
  previousEventId : String
  deriving Repr, DecidableEq

/-- What the monitor is run with: Python's characters, the SHA-256 digests of canonical JSON, and
its timestamps. -/
structure Runtime where
  table : UnicodeTable
  fingerprintSha256 : MaterialFingerprint → String
  eventSha256 : EventIdentity → String
  incidentSha256 : IncidentRecord → String
  parseUtcTimestamp : String → Option Int
  fingerprint_hex : ∀ fingerprint, isSha256 (fingerprintSha256 fingerprint) = true
  event_hex : ∀ identity, isSha256 (eventSha256 identity) = true

variable (R : Runtime)

/-- `build_public_ingress_incident_id`. -/
def buildPublicIngressIncidentId (product context instanceName checkName openedAt : String) :
    String :=
  joinTokens R.table ["public-ingress-incident", product, context, instanceName,
    String.ofList (canonicalHealthCheckRecordToken R.table checkName), openedAt]

/-- The value of an event kind. -/
def EventKind.text : EventKind → String
  | opened => "opened"
  | updated => "updated"
  | reminder => "reminder"
  | resolved => "resolved"
  | baseline => "baseline"

/-- `build_public_ingress_incident_event_id`, for an event that is no reminder. -/
def buildPublicIngressIncidentEventId (incidentId : String) (event : EventKind)
    (materialFingerprintSha256 : String) (previousEventId : String := "") : String :=
  let digest := R.eventSha256
    { incidentId := pyStrip incidentId
      event
      materialFingerprintSha256 := pyLower (pyStrip materialFingerprintSha256)
      previousEventId := pyStrip previousEventId }
  joinTokens R.table ["public-ingress-event", incidentId, event.text,
    String.ofList (digest.toList.take 20)]

theorem isText_incidentId (product context instanceName checkName openedAt : String) :
    IsText (buildPublicIngressIncidentId R product context instanceName checkName openedAt) :=
  isText_joinTokens ⟨_, List.mem_cons_self, recordToken_ne_nil_of_ascii
    (show 'p' ∈ _ by decide +kernel) (by decide) (by decide) (by decide) (by decide)⟩

theorem isText_eventId (incidentId : String) (event : EventKind) (sha previous : String) :
    IsText (buildPublicIngressIncidentEventId R incidentId event sha previous) :=
  isText_joinTokens ⟨_, List.mem_cons_self, recordToken_ne_nil_of_ascii
    (show 'p' ∈ _ by decide +kernel) (by decide) (by decide) (by decide) (by decide)⟩

theorem normal_fingerprintSha256 (fingerprint : MaterialFingerprint) :
    pyLower (pyStrip (R.fingerprintSha256 fingerprint)) = R.fingerprintSha256 fingerprint :=
  normal_of_isSha256 (R.fingerprint_hex fingerprint)

theorem fingerprintSha256_ne_empty (fingerprint : MaterialFingerprint) :
    R.fingerprintSha256 fingerprint ≠ "" := by
  intro h
  have := R.fingerprint_hex fingerprint
  rw [h] at this
  exact absurd this (by decide)

/-! ### The checks -/

/-- What the check of an observation ensures of the fields a transition reads. -/
structure ObservationRecord.Valid (record : ObservationRecord) : Prop where
  recordId : IsText record.recordId
  product : IsText record.product
  context : IsText record.context
  instanceName : IsText record.instanceName
  checkName : IsText record.checkName
  observedAt : IsText record.observedAt
  summary : IsText record.summary
  repository : Stripped record.repository
  driverId : Stripped record.driverId
  failed : record.status = .fail → record.failureCode ≠ none
  reconciled : record.purpose = .reconciliation → record.status = .skipped

/-- `PublicIngressIncidentRecord._validate_incident`, with the bounds of the fields. -/
def IncidentRecord.validate (incident : IncidentRecord) : Except String IncidentRecord := do
  raiseIf (incident.schemaVersion < 1) "schema_version"
  raiseIf (incident.recoveryObservationThreshold < 1 ∨ 10 < incident.recoveryObservationThreshold)
    "recovery_observation_threshold"
  let incidentId ← requireText incident.incidentId "public ingress incident requires incident_id"
  let product ← requireText incident.product "public ingress incident requires product"
  let context ← requireText incident.context "public ingress incident requires context"
  let instanceName ← requireText incident.instanceName "public ingress incident requires instance"
  let openedAt ← requireText incident.openedAt "public ingress incident requires opened_at"
  let openedObservationId ← requireText incident.openedObservationId
    "public ingress incident requires opened_observation_id"
  let latestObservationId ← requireText incident.latestObservationId
    "public ingress incident requires latest_observation_id"
  let latestObservedAt ← requireText incident.latestObservedAt
    "public ingress incident requires latest_observed_at"
  let checkName ← requireText incident.checkName "public ingress incident requires check_name"
  let summary ← requireText incident.summary "public ingress incident requires summary"
  let normal := { incident with
    incidentId, product, context, instanceName, openedAt, openedObservationId,
    latestObservationId, latestObservedAt, checkName, summary
    repository := pyStrip incident.repository
    driverId := pyStrip incident.driverId
    resolvedAt := pyStrip incident.resolvedAt
    resolvedObservationId := pyStrip incident.resolvedObservationId
    materialFingerprintSha256 := pyLower (pyStrip incident.materialFingerprintSha256)
    latestMaterialEventId := pyStrip incident.latestMaterialEventId
    latestMaterialEventAt := pyStrip incident.latestMaterialEventAt
    notificationStateChangedAt := pyStrip incident.notificationStateChangedAt
    notificationStateReason := pyStrip incident.notificationStateReason
    silencedUntil := pyStrip incident.silencedUntil
    latestRecoveryObservationId := pyStrip incident.latestRecoveryObservationId }
  if 2 ≤ normal.schemaVersion then
    raiseIf (normal.stateVersion < 1) "public ingress incident schema v2 requires state_version"
    raiseIf (normal.materialFingerprint = none ∨ normal.materialFingerprintSha256 = "")
      "public ingress incident schema v2 requires material fingerprint"
    raiseIf (normal.latestMaterialEventId = "" ∨ normal.latestMaterialEventAt = "")
      "public ingress incident schema v2 requires latest material event"
    raiseIf (normal.latestMaterialEvent = none)
      "public ingress incident schema v2 requires latest event kind"
  match normal.materialFingerprint with
  | some fingerprint =>
    raiseIf (normal.materialFingerprintSha256 ≠ R.fingerprintSha256 fingerprint)
      "public ingress incident material fingerprint digest mismatch"
    raiseIf (normal.severity ≠ fingerprint.severity)
      "public ingress incident severity must match material fingerprint"
  | none => pure ()
  raiseIf (normal.notificationState = .silenced ∧ normal.silencedUntil = "")
    "silenced public ingress incident requires silenced_until"
  raiseIf (normal.notificationState ≠ .silenced ∧ normal.silencedUntil ≠ "")
    "only silenced public ingress incidents can include silenced_until"
  raiseIf (normal.recoveryObservationThreshold < normal.consecutiveRecoveryObservations)
    "public ingress incident recovery count exceeds threshold"
  if normal.status = .resolved then
    raiseIf (normal.resolvedAt = "") "resolved public ingress incident requires resolved_at"
    raiseIf (normal.resolvedObservationId = "")
      "resolved public ingress incident requires resolved_observation_id"
  raiseIf (normal.status = .opened ∧ (normal.resolvedAt ≠ "" ∨
      normal.resolvedObservationId ≠ "" ∨ normal.resolutionReason ≠ none))
    "open public ingress incident cannot include resolution fields"
  return { normal with
    resolutionReason :=
      if normal.status = .resolved ∧ normal.resolutionReason = none then some .recovered
      else normal.resolutionReason }

/-- The record of an incident of schema 2 is as its check leaves it. -/
structure IncidentRecord.Valid (incident : IncidentRecord) : Prop where
  schema : 2 ≤ incident.schemaVersion
  threshold : 1 ≤ incident.recoveryObservationThreshold ∧ incident.recoveryObservationThreshold ≤ 10
  incidentId : IsText incident.incidentId
  product : IsText incident.product
  context : IsText incident.context
  instanceName : IsText incident.instanceName
  openedAt : IsText incident.openedAt
  openedObservationId : IsText incident.openedObservationId
  latestObservationId : IsText incident.latestObservationId
  latestObservedAt : IsText incident.latestObservedAt
  checkName : IsText incident.checkName
  summary : IsText incident.summary
  repository : Stripped incident.repository
  driverId : Stripped incident.driverId
  stateVersion : 1 ≤ incident.stateVersion
  /-- Its fingerprint has the digest and the severity that stand beside it. -/
  fingerprint : ∃ fingerprint, incident.materialFingerprint = some fingerprint ∧
    incident.materialFingerprintSha256 = R.fingerprintSha256 fingerprint ∧
    incident.severity = fingerprint.severity
  latestMaterialEventId : IsText incident.latestMaterialEventId
  latestMaterialEventAt : IsText incident.latestMaterialEventAt
  latestMaterialEvent : incident.latestMaterialEvent ≠ none
  notificationStateChangedAt : Stripped incident.notificationStateChangedAt
  notificationStateReason : Stripped incident.notificationStateReason
  silenced : (incident.notificationState = .silenced ∧ IsText incident.silencedUntil) ∨
    (incident.notificationState ≠ .silenced ∧ incident.silencedUntil = "")
  latestRecoveryObservationId : Stripped incident.latestRecoveryObservationId
  recoveries : incident.consecutiveRecoveryObservations ≤ incident.recoveryObservationThreshold
  resolution :
    (incident.status = .resolved ∧ IsText incident.resolvedAt ∧
      IsText incident.resolvedObservationId ∧ incident.resolutionReason ≠ none) ∨
    (incident.status = .opened ∧ incident.resolvedAt = "" ∧ incident.resolvedObservationId = "" ∧
      incident.resolutionReason = none)

theorem raiseIf_of_not {ε : Type} {condition : Prop} [Decidable condition] {error : ε}
    (h : ¬condition) : raiseIf condition error = .ok () := if_neg h

/-- The check leaves such a record alone. -/
theorem IncidentRecord.Valid.validate_eq {incident : IncidentRecord} (h : incident.Valid R) :
    incident.validate R = .ok incident := by
  obtain ⟨fingerprint, hsome, hsha, hseverity⟩ := h.fingerprint
  have hsha' : pyLower (pyStrip incident.materialFingerprintSha256) =
      incident.materialFingerprintSha256 := by
    rw [hsha]
    exact normal_fingerprintSha256 R fingerprint
  have hne : incident.materialFingerprintSha256 ≠ "" := by
    rw [hsha]
    exact fingerprintSha256_ne_empty R fingerprint
  have hsilenced : Stripped incident.silencedUntil := by
    obtain ⟨-, h⟩ | ⟨-, h⟩ := h.silenced
    · exact h.stripped
    · rw [h]
      exact stripped_empty
  have hresolution : Stripped incident.resolvedAt ∧ Stripped incident.resolvedObservationId ∧
      (incident.status = .resolved → incident.resolvedAt ≠ "" ∧
        incident.resolvedObservationId ≠ "" ∧ incident.resolutionReason ≠ none) ∧
      (incident.status = .opened → incident.resolvedAt = "" ∧
        incident.resolvedObservationId = "" ∧ incident.resolutionReason = none) := by
    obtain ⟨hstatus, hat, hby, hreason⟩ | ⟨hstatus, hat, hby, hreason⟩ := h.resolution
    · exact ⟨hat.stripped, hby.stripped, fun _ => ⟨hat.1, hby.1, hreason⟩,
        fun hopened => by simp [hstatus] at hopened⟩
    · rw [hat, hby]
      exact ⟨stripped_empty, stripped_empty, fun hresolved => by simp [hstatus] at hresolved,
        fun _ => ⟨rfl, rfl, hreason⟩⟩
  have hquiet : ¬(incident.notificationState = .silenced ∧ incident.silencedUntil = "") ∧
      ¬(incident.notificationState ≠ .silenced ∧ incident.silencedUntil ≠ "") := by
    obtain ⟨hstate, huntil⟩ | ⟨hstate, huntil⟩ := h.silenced
    · simp [hstate, huntil.1]
    · simp [hstate, huntil]
  have htext {value : String} (htext : IsText value) (message : String) :=
    requireText_of_isText htext message
  obtain ⟨hat, hby, hresolved, hopened⟩ := hresolution
  unfold Stripped at *
  unfold IncidentRecord.validate
  rw [raiseIf_of_not (by have := h.schema; omega), raiseIf_of_not (by have := h.threshold; omega),
    htext h.incidentId, htext h.product, htext h.context, htext h.instanceName, htext h.openedAt,
    htext h.openedObservationId, htext h.latestObservationId, htext h.latestObservedAt,
    htext h.checkName, htext h.summary, h.repository, h.driverId, hat, hby, hsha',
    h.latestMaterialEventId.stripped, h.latestMaterialEventAt.stripped,
    h.notificationStateChangedAt, h.notificationStateReason, hsilenced,
    h.latestRecoveryObservationId]
  have hstate : ¬incident.stateVersion < 1 := by
    have := h.stateVersion
    omega
  have hcount := Nat.not_lt.mpr h.recoveries
  cases hstatus : incident.status with
  | resolved =>
    obtain ⟨hatne, hbyne, hreason⟩ := hresolved hstatus
    simp [bind, Except.bind, raiseIf, pure, Except.pure, h.schema, hstate, hsome, ← hsha, hne,
      h.latestMaterialEventId.1, h.latestMaterialEventAt.1, h.latestMaterialEvent, hseverity,
      hquiet, hcount, hatne, hbyne, hreason]
    rw [← hstatus, ← hseverity, ← hsome]
  | opened =>
    obtain ⟨hat, hby, hreason⟩ := hopened hstatus
    simp [bind, Except.bind, raiseIf, pure, Except.pure, h.schema, hstate, hsome, ← hsha, hne,
      h.latestMaterialEventId.1, h.latestMaterialEventAt.1, h.latestMaterialEvent, hseverity,
      hquiet, hcount, hat, hby, hreason]
    cases incident
    simp_all

end Launchplane.PublicIngress
