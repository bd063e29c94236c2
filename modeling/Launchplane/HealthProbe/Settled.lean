import Launchplane.HealthProbe.Observed

/-!
# Launchplane.HealthProbe.Settled

**When a probe ends with a record.** The check of a record refuses a blank context,
the check of an observation a status that no server sends, reading an identity can
raise, and the check of a fingerprint refuses the evidence of one URL under the
failure code of another. Nothing else stands between a probe and its record
(`Settled.observed`), and each of the four does (`settled_of_checkPublicIngressTarget`).
-/

namespace Launchplane.HealthProbe

open PublicIngress

variable {L : Library}

/-! ### The URLs of a target -/

/-- The successful answer of the URL that is asked for an identity. -/
def healthAnswer (L : Library) (P : Probe) : Option HttpObservation :=
  match P.target.checkKind with
  | .publicHttp =>
    if P.target.healthUrl ≠ "" ∧ P.target.healthUrl ≠ P.target.baseUrl then
      answeredWell L P P.target.healthUrl
    else none
  | .privateHttp => if P.target.healthUrl ≠ "" then answeredWell L P P.target.healthUrl else none
  | _ => none

/-- The two URLs of a site fail, and in two ways: the base URL is not answered well, and the health
URL is answered by the wrong runtime. -/
def FailsTwice (L : Library) (P : Probe) : Prop :=
  P.target.checkKind = .publicHttp ∧ P.target.baseUrl ≠ "" ∧
    answeredWell L P P.target.baseUrl = none ∧
    ∃ observation ∈ healthAnswer L P, IdentityWrong L P.target observation

/-- One of the URLs raises an `HTTPError` with a status that no observation may have. -/
def SomeStatusRefused (L : Library) (P : Probe) : Prop :=
  P.target.checkKind ≠ .provider ∧ ∃ asked ∈ targetUrls P.target, StatusRefused L P asked.2

theorem someStatusRefused_single {P : Probe} {kind : TargetKind} {url : String}
    (hurls : targetUrls P.target = [(kind, url)]) :
    SomeStatusRefused L P ↔ P.target.checkKind ≠ .provider ∧ StatusRefused L P url := by
  simp [SomeStatusRefused, hurls]

/-- The first failure is a wrong identity if one of them is. -/
def WrongFirst (observations : List TargetObservation) : Prop :=
  ∀ observation ∈ observations, observation.failureCode = some .wrongRuntimeIdentity →
    ∀ failing ∈ firstFailing observations, failing.failureCode = some .wrongRuntimeIdentity

/-- Observations a record can be made of. -/
structure SoundAll (observations : List TargetObservation) : Prop where
  ne_nil : observations ≠ []
  sound : ∀ observation ∈ observations, ∃ kind, Sound kind observation ∧ kind ≠ .monitoringIntent

theorem wrongFirst_single (observation : TargetObservation) : WrongFirst [observation] := by
  intro other hother hcode failing hfailing
  obtain rfl := List.mem_singleton.mp hother
  obtain rfl := List.mem_singleton.mp (List.mem_of_find?_eq_some hfailing)
  exact hcode

/-- Of two URLs, of which the first is never of the wrong runtime. -/
theorem wrongFirst_pair {base health : TargetObservation} {kind : TargetKind}
    (hbase : base.failureCode ≠ some .wrongRuntimeIdentity) (hsound : Sound kind base)
    (hfail : health.failureCode = some .wrongRuntimeIdentity → health.status = .fail) :
    WrongFirst [base, health] ↔
      ¬(base.failureCode ≠ none ∧ health.failureCode = some .wrongRuntimeIdentity) := by
  have hstatus : base.status = .fail ↔ base.failureCode ≠ none := by
    obtain ⟨hpass, hnone⟩ | ⟨hfail, hsome⟩ := hsound.status
    · simp [hpass, hnone]
    · simp [hfail, hsome]
  constructor
  · rintro hfirst ⟨hsome, hwrong⟩
    exact hbase (hfirst health (by simp) hwrong base (by simp [firstFailing, hstatus.mpr hsome]))
  · intro hnot other hother hcode failing hfailing
    obtain rfl | rfl : other = base ∨ other = health := by simpa using hother
    · exact absurd hcode hbase
    · have hpass : base.status ≠ .fail := fun h => hnot ⟨hstatus.mp h, hcode⟩
      have hfirst : firstFailing [base, other] = some other := by
        simp [firstFailing, hpass, hfail hcode]
      rw [hfirst] at hfailing
      obtain rfl := Option.some.inj hfailing
      exact hcode

theorem observeUrls_single {P : Probe} {kind : TargetKind} {url : String}
    {code : Option FailureCode} (hurls : targetUrls P.target = [(kind, url)])
    (hintent : kind ≠ .monitoringIntent) (h : Yields (observeUrl L P kind url) kind code) :
    ∃ observations, observeUrls L P = .ok observations ∧ SoundAll observations ∧
      WrongFirst observations := by
  obtain ⟨observation, hok, hsound, -⟩ := h
  refine ⟨[observation], ?_, ⟨by simp, fun other hother => ?_⟩, wrongFirst_single observation⟩
  · rw [observeUrls, hurls, List.mapM_cons, hok]
    rfl
  · obtain rfl := List.mem_singleton.mp hother
    exact ⟨kind, hsound, hintent⟩

theorem observeUrls_single_error {P : Probe} {kind : TargetKind} {url message : String}
    (hurls : targetUrls P.target = [(kind, url)])
    (h : observeUrl L P kind url = .error message) : observeUrls L P = .error message := by
  rw [observeUrls, hurls, List.mapM_cons, h]
  rfl

/-- One URL raises where its status is refused or its identity cannot be read, and is observed
elsewhere. -/
theorem observeUrls_healthUrl {P : Probe} {kind : TargetKind} {url : String}
    (hP : Discovered L P.target) (hprovider : P.target.checkKind ≠ .provider)
    (hkind : kind.isHealthUrl = true) (hurls : targetUrls P.target = [(kind, url)])
    (hurl : NonBlank url) (hanswer : healthAnswer L P = answeredWell L P url)
    (htwice : ¬FailsTwice L P) :
    ((SomeStatusRefused L P ∨
        ∃ observation ∈ healthAnswer L P, IdentityUnread L P.target observation) →
      ∃ message, observeUrls L P = .error message) ∧
    (¬SomeStatusRefused L P →
      (∀ observation ∈ healthAnswer L P, ¬IdentityUnread L P.target observation) →
      ∃ observations, observeUrls L P = .ok observations ∧ SoundAll observations ∧
        (WrongFirst observations ↔ ¬FailsTwice L P)) := by
  have hintent : kind ≠ .monitoringIntent := by
    rintro rfl
    cases hkind
  obtain ⟨hunread, hread⟩ := observe_healthUrl hP hprovider hkind hurl
  rw [← hanswer] at hunread hread
  rw [someStatusRefused_single hurls]
  constructor
  · rintro (⟨-, hrefused⟩ | h)
    · obtain ⟨message, herror⟩ := @observeUrl_refused L kind url P hP hprovider hrefused
      exact ⟨message, observeUrls_single_error hurls herror⟩
    · obtain ⟨message, herror⟩ := hunread h
      exact ⟨message, observeUrls_single_error hurls herror⟩
  · intro hrefused h
    obtain ⟨code, hyields, -⟩ := hread (fun hstatus => hrefused ⟨hprovider, hstatus⟩) h
    obtain ⟨observations, hok, hsound, hwrong⟩ := observeUrls_single hurls hintent hyields
    exact ⟨observations, hok, hsound, iff_of_true hwrong htwice⟩

/-- The observations of a target: there are some unless a status is refused or an identity cannot be
read, and they are of one mind unless both URLs fail in two ways. -/
theorem observeUrls_spec {P : Probe} (hP : Discovered L P.target) :
    ((SomeStatusRefused L P ∨
        ∃ observation ∈ healthAnswer L P, IdentityUnread L P.target observation) →
      ∃ message, observeUrls L P = .error message) ∧
    (¬SomeStatusRefused L P →
      (∀ observation ∈ healthAnswer L P, ¬IdentityUnread L P.target observation) →
      ∃ observations, observeUrls L P = .ok observations ∧ SoundAll observations ∧
        (WrongFirst observations ↔ ¬FailsTwice L P)) := by
  cases hkind : P.target.checkKind with
  | tls => exact absurd hkind hP.notTls
  | provider =>
    obtain ⟨code, -, hyields⟩ :=
      @yields_provider L .provider (providerUrl P.target) P hkind
    obtain ⟨observations, hok, hsound, hwrong⟩ := observeUrls_single
      (show targetUrls P.target = [(.provider, providerUrl P.target)] by rw [targetUrls, hkind])
      (by decide) (hyields.observeUrl hP)
    refine ⟨?_, fun _ _ => ⟨observations, hok, hsound, ?_⟩⟩
    · rintro (⟨hprovider, -⟩ | ⟨observation, hmem, -⟩)
      · exact absurd hkind hprovider
      · simp [healthAnswer, hkind] at hmem
    · exact iff_of_true hwrong fun h => absurd (hkind.symm.trans h.1) (by decide)
  | privateHttp =>
    have hprovider : P.target.checkKind ≠ .provider := by simp [hkind]
    have htwice : ¬FailsTwice L P := fun h => absurd (hkind.symm.trans h.1) (by decide)
    by_cases hhealth : P.target.healthUrl = ""
    · obtain ⟨hkey, hurl⟩ := hP.privateUrl hkind
      have hresolution : P.target.resolutionFailureCode ≠ none := hurl.resolve_left (· hhealth)
      have hurls : targetUrls P.target =
          [(.privateHealthUrl, "private-endpoint://" ++ P.target.privateEndpointKey)] := by
        simp [targetUrls, hkind, hhealth, hresolution]
      refine observeUrls_healthUrl hP hprovider rfl hurls
        (NonBlank.append_left (by decide +kernel) _) ?_ htwice
      simp [healthAnswer, hkind, hhealth, answeredWell, Asked, hresolution]
    · exact observeUrls_healthUrl hP hprovider rfl
        (show targetUrls P.target = [(.privateHealthUrl, P.target.healthUrl)] by
          simp [targetUrls, hkind, hhealth]) (hP.healthUrl hhealth)
        (by simp [healthAnswer, hkind, hhealth]) htwice
  | publicHttp =>
    have hprovider : P.target.checkKind ≠ .provider := by simp [hkind]
    by_cases htwo : P.target.healthUrl ≠ "" ∧ P.target.healthUrl ≠ P.target.baseUrl
    · have hanswer : healthAnswer L P = answeredWell L P P.target.healthUrl := by
        simp [healthAnswer, hkind, htwo]
      by_cases hbase : P.target.baseUrl = ""
      · exact observeUrls_healthUrl hP hprovider rfl
          (show targetUrls P.target = [(.healthUrl, P.target.healthUrl)] by
            simp [targetUrls, hkind, htwo, hbase]) (hP.healthUrl htwo.1) hanswer
          fun h => h.2.1 hbase
      obtain ⟨hunread, hread⟩ := @observe_healthUrl L .healthUrl P.target.healthUrl P hP hprovider rfl
        (hP.healthUrl htwo.1)
      rw [← hanswer] at hunread hread
      have hurls : targetUrls P.target =
          [(.baseUrl, P.target.baseUrl), (.healthUrl, P.target.healthUrl)] := by
        simp [targetUrls, hkind, htwo, hbase]
      by_cases hbaseRefused : StatusRefused L P P.target.baseUrl
      · -- the first URL raises already
        obtain ⟨message, herror⟩ := @observeUrl_refused L .baseUrl P.target.baseUrl P hP hprovider
          hbaseRefused
        refine ⟨fun _ => ⟨message, ?_⟩, fun hnone => absurd ⟨hprovider,
          (.baseUrl, P.target.baseUrl), ?_, hbaseRefused⟩ hnone⟩
        · rw [observeUrls, hurls, List.mapM_cons, herror]
          rfl
        · rw [hurls]
          exact List.mem_cons_self
      obtain ⟨code, ⟨base, hok, hsound, hcode⟩, hnot, hiff⟩ :=
        @observe_baseUrl L P.target.baseUrl P hP hprovider (hP.baseUrl hbase) hbaseRefused
      have hsecond {message : String}
          (herror : observeUrl L P .healthUrl P.target.healthUrl = .error message) :
          observeUrls L P = .error message := by
        rw [observeUrls, hurls, List.mapM_cons, hok, List.mapM_cons, herror]
        rfl
      have hrefused : SomeStatusRefused L P ↔ StatusRefused L P P.target.healthUrl := by
        simp [SomeStatusRefused, hurls, hprovider, hbaseRefused]
      rw [hrefused]
      constructor
      · rintro (hstatus | h)
        · obtain ⟨message, herror⟩ := @observeUrl_refused L .healthUrl P.target.healthUrl P hP
            hprovider hstatus
          exact ⟨message, hsecond herror⟩
        · obtain ⟨message, herror⟩ := hunread h
          exact ⟨message, hsecond herror⟩
      · intro hstatus h
        obtain ⟨code', ⟨health, hok', hsound', hcode'⟩, hwrong⟩ := hread hstatus h
        refine ⟨[base, health], ?_, ⟨by simp, fun other hother => ?_⟩, ?_⟩
        · rw [observeUrls, hurls, List.mapM_cons, hok, List.mapM_cons, hok']
          rfl
        · obtain rfl | rfl : other = base ∨ other = health := by simpa using hother
          · exact ⟨_, hsound, by decide⟩
          · exact ⟨_, hsound', by decide⟩
        · rw [wrongFirst_pair (hcode ▸ hnot) hsound fun h => hsound'.fail_of_code h, hcode, hcode',
            hwrong, FailsTwice, ne_eq, hiff (Ne.symm htwo.2), not_not]
          simp [hkind, hbase]
    · have hanswer : healthAnswer L P = none := by
        rw [healthAnswer, hkind]
        exact if_neg htwo
      have hbase : P.target.baseUrl ≠ "" := by
        intro hbase
        obtain hurl | hurl := hP.publicUrl hkind
        · exact hurl hbase
        · exact htwo ⟨hurl, hbase ▸ hurl⟩
      have hurls : targetUrls P.target = [(.baseUrl, P.target.baseUrl)] := by
        simp [targetUrls, hkind, hbase, htwo]
      rw [someStatusRefused_single hurls]
      constructor
      · rintro (⟨-, hstatus⟩ | ⟨observation, hmem, -⟩)
        · obtain ⟨message, herror⟩ := @observeUrl_refused L .baseUrl P.target.baseUrl P hP hprovider
            hstatus
          exact ⟨message, observeUrls_single_error hurls herror⟩
        · simp [hanswer] at hmem
      · intro hstatus _
        obtain ⟨code, hyields, -⟩ := @observe_baseUrl L P.target.baseUrl P hP hprovider
          (hP.baseUrl hbase) fun h => hstatus ⟨hprovider, h⟩
        obtain ⟨observations, hok, hsound, hwrong⟩ := observeUrls_single hurls (by decide) hyields
        refine ⟨observations, hok, hsound, iff_of_true hwrong ?_⟩
        rintro ⟨-, -, -, observation, hmem, -⟩
        simp [hanswer] at hmem

/-! ### Records -/

/-- What the check of a record asks for, of the record of a probe. -/
structure ObservationRecord.Checked (L : Library) (record : ObservationRecord) : Prop where
  schemaVersion : 1 ≤ record.schemaVersion
  recordId : NonBlank record.recordId
  product : NonBlank record.product
  context : NonBlank record.context
  instanceName : NonBlank record.instanceName
  observedAt : NonBlank record.observedAt
  checkName : NonBlank record.checkName
  summary : NonBlank record.summary
  purpose : record.purpose = .probe
  targets : record.targets ≠ []
  kinds : ∀ target ∈ record.targets, target.target ≠ .monitoringIntent
  status : (record.status = .pass ∧ record.failureCode = none ∧
      ∀ target ∈ record.targets, target.status = .pass) ∨
    (record.status = .fail ∧ record.failureCode ≠ none ∧
      ∃ target ∈ record.targets, target.status = .fail)
  fingerprint : ∀ fingerprint ∈ record.materialFingerprint,
    pyLower (pyStrip record.materialFingerprintSha256) = L.fingerprintSha256 fingerprint

/-- The record as its check leaves it. -/
def ObservationRecord.stripped (record : ObservationRecord) : ObservationRecord :=
  { record with
    recordId := pyStrip record.recordId
    product := pyStrip record.product
    context := pyStrip record.context
    instanceName := pyStrip record.instanceName
    observedAt := pyStrip record.observedAt
    checkName := pyStrip record.checkName
    summary := pyStrip record.summary
    repository := pyStrip record.repository
    driverId := pyStrip record.driverId
    baseUrl := pyStrip record.baseUrl
    healthUrl := pyStrip record.healthUrl
    incidentId := pyStrip record.incidentId
    incidentEventId := pyStrip record.incidentEventId
    materialFingerprintSha256 := pyLower (pyStrip record.materialFingerprintSha256)
    notificationKey := pyStrip record.notificationKey }

@[simp] theorem ObservationRecord.stripped_stripped (record : ObservationRecord) :
    record.stripped.stripped = record.stripped := by
  simp [stripped]

theorem ObservationRecord.Checked.validate_eq {record : ObservationRecord} (h : record.Checked L) :
    record.validate L = .ok record.stripped := by
  have hpass : ¬(record.status = .pass ∧ record.failureCode ≠ none) := by
    rintro ⟨hpass, hsome⟩
    obtain ⟨-, hnone, -⟩ | ⟨hfail, -⟩ := h.status
    · exact hsome hnone
    · simp [hpass] at hfail
  have hfail : ¬(record.status = .fail ∧ record.failureCode = none) := by
    rintro ⟨hfail, hnone⟩
    obtain ⟨hpass, -⟩ | ⟨-, hsome, -⟩ := h.status
    · simp [hfail] at hpass
    · exact hsome hnone
  have hskipped : ¬(record.status = .skipped ∧ ¬skippable record.failureCode) := by
    rintro ⟨hskipped, -⟩
    obtain ⟨hpass, -⟩ | ⟨hfail, -⟩ := h.status
    · simp [hskipped] at hpass
    · simp [hskipped] at hfail
  have hfingerprint : ¬∃ fingerprint ∈ record.materialFingerprint,
      pyLower (pyStrip record.materialFingerprintSha256) ≠ L.fingerprintSha256 fingerprint := by
    rintro ⟨fingerprint, hmem, hne⟩
    exact hne (h.fingerprint fingerprint hmem)
  have hallPass : ¬(record.status = .pass ∧ ∃ target ∈ record.targets, target.status ≠ .pass) := by
    rintro ⟨hpass, target, hmem, hne⟩
    obtain ⟨-, -, hall⟩ | ⟨hfail, -⟩ := h.status
    · exact hne (hall target hmem)
    · simp [hpass] at hfail
  have hsomeFail : ¬(record.status = .fail ∧ ¬∃ target ∈ record.targets, target.status = .fail) := by
    rintro ⟨hfail, hnot⟩
    obtain ⟨hpass, -⟩ | ⟨-, -, hsome⟩ := h.status
    · simp [hfail] at hpass
    · exact hnot hsome
  have hkinds : ¬(record.purpose ≠ .reconciliation ∧
      ∃ target ∈ record.targets, target.target = .monitoringIntent) := by
    rintro ⟨-, target, hmem, hkind⟩
    exact h.kinds target hmem hkind
  have hpurpose : record.purpose ≠ .reconciliation := by simp [h.purpose]
  rw [validate, raiseIf_of_not (by have := h.schemaVersion; omega), h.recordId.requireText,
    h.product.requireText, h.context.requireText, h.instanceName.requireText,
    h.observedAt.requireText, h.checkName.requireText, h.summary.requireText]
  simp only [bind, Except.bind]
  rw [raiseIf_of_not hpass, raiseIf_of_not hfail, raiseIf_of_not hskipped,
    raiseIf_of_not (by simp [h.targets]), raiseIf_of_not hfingerprint, raiseIf_of_not hallPass,
    raiseIf_of_not hsomeFail, raiseIf_of_not (by simp [hpurpose]), raiseIf_of_not (by simp [hpurpose]),
    raiseIf_of_not hkinds]
  rfl

/-- A record without a context is refused. -/
theorem ObservationRecord.validate_blank {record : ObservationRecord}
    (hid : NonBlank record.recordId) (hproduct : NonBlank record.product)
    (hblank : ¬NonBlank record.context) : ∃ message, record.validate L = .error message := by
  by_cases hschema : record.schemaVersion < 1
  · rw [validate, raiseIf, if_pos hschema]
    exact ⟨_, rfl⟩
  · rw [validate, raiseIf_of_not hschema, hid.requireText, hproduct.requireText,
      requireText_blank hblank]
    exact ⟨_, rfl⟩

theorem nonBlank_observationId (product context instanceName observedAt checkName : String) :
    NonBlank (buildPublicIngressObservationId L product context instanceName observedAt checkName) := by
  have htext : IsText
      (buildPublicIngressObservationId L product context instanceName observedAt checkName) :=
    isText_joinTokens ⟨_, List.mem_cons_self, recordToken_ne_nil_of_ascii
      (show 'p' ∈ _ by decide +kernel) (by decide) (by decide) (by decide) (by decide)⟩
  rw [NonBlank, htext.stripped]
  exact htext.1

theorem nonBlank_checkLabel (target : MonitorTarget) : NonBlank (checkLabel target) := by
  unfold checkLabel
  split
  · decide +kernel
  · decide +kernel
  · split
    · decide +kernel
    · split <;> decide +kernel

theorem nonBlank_recordSummary (target : MonitorTarget) (status : ObservationStatus)
    (observations : List TargetObservation) :
    NonBlank (recordSummary target status observations) := by
  unfold recordSummary
  dsimp only
  split
  · split
    · simp only [String.append_assoc]
      exact NonBlank.append_left (by decide +kernel) _
    · simp only [String.append_assoc]
      exact (nonBlank_checkLabel target).append_left _
  · split
    · simp only [String.append_assoc]
      exact (nonBlank_checkLabel target).append_left _
    · simp only [String.append_assoc]
      exact (nonBlank_checkLabel target).append_left _

/-- The status of sound observations: they pass, or the first failure gives the code. -/
theorem recordStatus_spec {observations : List TargetObservation} (h : SoundAll observations) :
    (firstFailing observations = none ∧ recordStatus observations = (.pass, none) ∧
      ∀ observation ∈ observations, observation.status = .pass) ∨
    ∃ failing code, firstFailing observations = some failing ∧ failing.failureCode = some code ∧
      recordStatus observations = (.fail, some code) ∧
      failing ∈ observations ∧ failing.status = .fail := by
  cases hfirst : firstFailing observations with
  | none =>
    left
    have hpass : ∀ observation ∈ observations, observation.status = .pass := by
      intro observation hmem
      obtain ⟨kind, hsound, -⟩ := h.sound observation hmem
      obtain ⟨hpass, -⟩ | ⟨hfail, -⟩ := hsound.status
      · exact hpass
      · exact absurd hfail (by simpa using List.find?_eq_none.mp hfirst observation hmem)
    refine ⟨rfl, ?_, hpass⟩
    obtain ⟨observation, hmem⟩ := List.exists_mem_of_ne_nil _ h.ne_nil
    rw [recordStatus, hfirst]
    refine if_neg fun hall => ?_
    exact absurd ((hpass observation hmem).symm.trans (hall observation hmem)) (by decide)
  | some failing =>
    right
    have hmem := List.mem_of_find?_eq_some hfirst
    have hfail : failing.status = .fail := by simpa using List.find?_some hfirst
    obtain ⟨kind, hsound, -⟩ := h.sound failing hmem
    obtain ⟨hpass, -⟩ | ⟨-, hcode⟩ := hsound.status
    · simp [hfail] at hpass
    · obtain ⟨code, hcode⟩ := Option.ne_none_iff_exists'.mp hcode
      exact ⟨failing, code, rfl, hcode, by rw [recordStatus, hfirst, ← hcode], hmem, hfail⟩

/-- A probe of a target of discovery, at a time. -/
structure Ready (L : Library) (P : Probe) : Prop where
  target : Discovered L P.target
  checkedAt : NonBlank P.checkedAt

theorem checked_probeRecord {P : Probe} (hP : Ready L P) (hcontext : NonBlank P.target.context)
    {observations : List TargetObservation} (h : SoundAll observations) :
    (probeRecord L P observations).Checked L where
  schemaVersion := by simp [probeRecord]
  recordId := nonBlank_observationId _ _ _ _ _
  product := hP.target.product
  context := hcontext
  instanceName := hP.target.instanceName
  observedAt := hP.checkedAt
  checkName := hP.target.checkName
  summary := nonBlank_recordSummary _ _ _
  purpose := rfl
  targets := h.ne_nil
  kinds := by
    intro target hmem
    obtain ⟨kind, hsound, hkind⟩ := h.sound target hmem
    rw [hsound.target]
    exact hkind
  status := by
    obtain ⟨-, hstatus, hpass⟩ | ⟨failing, code, -, -, hstatus, hmem, hfail⟩ := recordStatus_spec h
    · exact .inl ⟨by simp [probeRecord, hstatus], by simp [probeRecord, hstatus], hpass⟩
    · exact .inr ⟨by simp [probeRecord, hstatus], by simp [probeRecord, hstatus],
        failing, hmem, hfail⟩
  fingerprint := by simp [probeRecord]

/-! ### Fingerprints -/

theorem RouteAuthority.validate_ok {authority : RouteAuthority}
    (hkeys : ∀ key ∈ authority.targetKeys, NonBlank key) (hne : authority.targetKeys ≠ [])
    (hendpoint : authority.kind = .privateEndpoint → NonBlank authority.privateEndpointKey)
    (hprovider : authority.kind = .provider →
      NonBlank authority.provider ∧ NonBlank authority.providerCheck)
    (hroute : authority.kind ≠ .routeBinding) : ∃ checked, authority.validate = .ok checked := by
  have hsorted : sortedSet (authority.targetKeys.map pyStrip) ≠ [] := by
    obtain ⟨key, hkey⟩ := List.exists_mem_of_ne_nil _ hne
    exact List.ne_nil_of_mem (mem_sortedSet.mpr (List.mem_map_of_mem hkey))
  have hendpoint' : ¬(authority.kind = .privateEndpoint ∧ pyStrip authority.privateEndpointKey = "") :=
    fun ⟨hkind, hempty⟩ => hendpoint hkind hempty
  have hprovider' : ¬(authority.kind = .provider ∧
      (pyLower (pyStrip authority.provider) = "" ∨ pyLower (pyStrip authority.providerCheck) = "")) := by
    rintro ⟨hkind, hempty | hempty⟩
    · exact (hprovider hkind).1.pyStrip.pyLower.ne_empty hempty
    · exact (hprovider hkind).2.pyStrip.pyLower.ne_empty hempty
  rw [validate, requireTexts_eq hkeys]
  simp only [bind, Except.bind]
  rw [raiseIf_of_not (by simp [hsorted]), raiseIf_of_not hendpoint', raiseIf_of_not hprovider',
    raiseIf_of_not (by simp [hroute])]
  exact ⟨_, rfl⟩

theorem nonBlank_canonicalMaterialUrl (url : String) : NonBlank (canonicalMaterialUrl L url) := by
  unfold canonicalMaterialUrl
  dsimp only
  split
  · exact NonBlank.append_left (by decide +kernel) _
  · exact (NonBlank.append_right (by decide +kernel) _).append_left _

/-- A failing probe can be routed. -/
theorem routeAuthority_ok {target : MonitorTarget} (h : Discovered L target)
    {failing : List TargetObservation} (hne : failing ≠ []) :
    ∃ authority, routeAuthority L target.checkKind target failing = .ok (authority, "") := by
  cases hkind : target.checkKind with
  | tls => exact absurd hkind h.notTls
  | privateHttp =>
    have hkey : NonBlank (textOr (pyStrip target.privateEndpointKey)
        (privateEndpointKeyFromTargets L failing)) := by
      have hne : pyStrip target.privateEndpointKey ≠ "" := (h.privateUrl hkind).1
      rw [textOr, if_pos hne]
      exact (h.privateUrl hkind).1.pyStrip
    obtain ⟨checked, hok⟩ := @RouteAuthority.validate_ok
      { kind := .privateEndpoint
        targetKeys := ["private-endpoint:" ++ textOr (pyStrip target.privateEndpointKey)
          (privateEndpointKeyFromTargets L failing)]
        privateEndpointKey := textOr (pyStrip target.privateEndpointKey)
          (privateEndpointKeyFromTargets L failing)
        privateEndpointSha256 := textOr (pyLower (pyStrip target.privateEndpointMaterialSha256))
          (privateTargetDigest L failing) }
      (by simpa using hkey.append_right _) (by simp) (fun _ => hkey) (by simp) (by simp)
    refine ⟨checked, ?_⟩
    rw [routeAuthority, hok]
    rfl
  | provider =>
    obtain ⟨hprovider, hcheck⟩ := h.provider hkind
    have hparts : providerParts L target.provider target.providerCheck failing =
        .ok (pyLower (pyStrip target.provider), pyLower (pyStrip target.providerCheck)) :=
      if_pos ⟨hprovider.pyStrip.pyLower.ne_empty, hcheck.pyStrip.pyLower.ne_empty⟩
    obtain ⟨checked, hok⟩ := @RouteAuthority.validate_ok
      { kind := .provider
        targetKeys := ["provider:" ++ pyLower (pyStrip target.provider) ++ ":" ++
          pyLower (pyStrip target.providerCheck)]
        provider := pyLower (pyStrip target.provider)
        providerCheck := pyLower (pyStrip target.providerCheck) }
      (by simpa using hcheck.pyStrip.pyLower.append_right _) (by simp) (by simp)
      (fun _ => ⟨hprovider.pyStrip.pyLower, hcheck.pyStrip.pyLower⟩) (by simp)
    refine ⟨checked, ?_⟩
    rw [routeAuthority, hparts]
    simp only [bind, Except.bind]
    rw [hok]
    rfl
  | publicHttp =>
    obtain ⟨checked, hok⟩ := @RouteAuthority.validate_ok
      { kind := .publicUrls
        targetKeys := failing.map fun observation => canonicalMaterialUrl L observation.url }
      (by
        intro key hkey
        obtain ⟨observation, -, rfl⟩ := List.mem_map.mp hkey
        exact nonBlank_canonicalMaterialUrl _)
      (by simpa using hne) (by simp) (by simp) (by simp)
    refine ⟨checked, ?_⟩
    rw [routeAuthority, hok]
    rfl

/-- There is evidence of a mismatch if some URL shows one. -/
theorem runtimeMismatch_ok (expected : Option RuntimeIdentity) (failing : List TargetObservation) :
    ∃ mismatch, runtimeMismatch expected failing = .ok mismatch ∧ (mismatch ≠ none ↔
      ∃ target ∈ failing, target.failureCode = some .wrongRuntimeIdentity) := by
  unfold runtimeMismatch
  cases hwrong : wrongIdentityTarget failing with
  | none =>
    refine ⟨none, rfl, iff_of_false (by simp) ?_⟩
    rintro ⟨target, hmem, hcode⟩
    exact absurd hcode (by simpa using List.find?_eq_none.mp hwrong target hmem)
  | some target =>
    have hfields : ∀ name ∈ (if mismatchStatus target.runtimeIdentityStatus = .mismatch then
        detailFields target.runtimeIdentityDetail else []), NonBlank name := by
      intro name hname
      split at hname
      · obtain ⟨hmem, hne⟩ := List.mem_filter.mp hname
        obtain ⟨cs, -, rfl⟩ := List.mem_map.mp hmem
        have hne : pyStrip (String.ofList cs) ≠ "" := by simpa using hne
        exact NonBlank.pyStrip hne
      · simp at hname
    have hmem := List.mem_of_find?_eq_some hwrong
    have hcode : target.failureCode = some .wrongRuntimeIdentity := by
      simpa using List.find?_some hwrong
    dsimp only
    rw [RuntimeMismatch.validate, requireTexts_eq hfields]
    exact ⟨_, rfl, iff_of_true (by simp) ⟨target, hmem, hcode⟩⟩

/-- What the fingerprint of a failing record comes to. -/
structure FingerprintOf (record : ObservationRecord) (code : FailureCode)
    (fingerprint : MaterialFingerprint) : Prop where
  failureCode : fingerprint.failureCode = code
  affectedTargets : fingerprint.affectedTargets = (failingTargets record).map (·.target)
  mismatch : fingerprint.runtimeMismatch ≠ none ↔
    ∃ target ∈ failingTargets record, target.failureCode = some .wrongRuntimeIdentity
  notTls : fingerprint.checkKind ≠ .tls
  tlsStatus : fingerprint.tlsStatus = ""

theorem buildMaterialFingerprint_eq {record : ObservationRecord} {target : MonitorTarget}
    (h : Discovered L target) (hkind : record.checkKind = target.checkKind) {code : FailureCode}
    (hstatus : record.status = .fail) (hcode : record.failureCode = some code)
    (hne : failingTargets record ≠ []) :
    ∃ fingerprint, FingerprintOf record code fingerprint ∧
      buildMaterialFingerprint L record target = fingerprint.validate := by
  obtain ⟨authority, hroute⟩ := routeAuthority_ok h hne
  obtain ⟨mismatch, hmismatch, hiff⟩ :=
    runtimeMismatch_ok record.expectedRuntimeIdentity (failingTargets record)
  have hfailing : failingCode record = .ok code := by rw [failingCode, hstatus, hcode]
  refine ⟨{ checkKind := record.checkKind
            failureCode := code
            failureLayer := publicIngressFailureLayer code
            severity := publicIngressIncidentSeverity code
            affectedTargets := (failingTargets record).map (·.target)
            routeAuthority := authority
            runtimeMismatch := mismatch
            tlsStatus := "" }, ⟨rfl, rfl, hiff, hkind ▸ h.notTls, rfl⟩, ?_⟩
  rw [buildMaterialFingerprint, hfailing, hkind, raiseIf_of_not hne, hroute, hmismatch]
  rfl

/-- What a record keeps differs from a fingerprint in what its check does not read. -/
theorem keptFingerprint_spec (target : MonitorTarget) (fingerprint : MaterialFingerprint) :
    ∃ severity authority, keptFingerprint target fingerprint =
      { fingerprint with severity := severity, routeAuthority := authority } := by
  unfold keptFingerprint withReferences
  split <;> split <;> exact ⟨_, _, rfl⟩

/-! ### Probes -/

/-- A record that passes its own check, and if it fails has a fingerprint that passes its own and
names the targets that fail. -/
structure Observed (L : Library) (record : ObservationRecord) : Prop where
  valid : record.validate L = .ok record
  fingerprint : record.status = .fail → ∃ fingerprint, record.materialFingerprint = some fingerprint ∧
    fingerprint.validate = .ok fingerprint ∧ ∀ kind, kind ∈ fingerprint.affectedTargets ↔
      ∃ target ∈ record.targets, target.status = .fail ∧ target.target = kind

/-- The context of the target is not blank, no status is refused, the identity in an answer can be
read, and the two URLs do not fail in two ways. -/
structure Settled (L : Library) (P : Probe) : Prop where
  context : NonBlank P.target.context
  status : ¬SomeStatusRefused L P
  read : ∀ observation ∈ healthAnswer L P, ¬IdentityUnread L P.target observation
  agree : ¬FailsTwice L P

theorem ObservationRecord.Checked.stripped {record : ObservationRecord} (h : record.Checked L) :
    record.stripped.Checked L where
  schemaVersion := h.schemaVersion
  recordId := h.recordId.pyStrip
  product := h.product.pyStrip
  context := h.context.pyStrip
  instanceName := h.instanceName.pyStrip
  observedAt := h.observedAt.pyStrip
  checkName := h.checkName.pyStrip
  summary := h.summary.pyStrip
  purpose := h.purpose
  targets := h.targets
  kinds := h.kinds
  status := h.status
  fingerprint := by
    intro fingerprint hmem
    rw [← h.fingerprint fingerprint hmem]
    simp [ObservationRecord.stripped]

/-- A record stays checked when it gets its fingerprint. -/
theorem ObservationRecord.Checked.validate_withFingerprint {record : ObservationRecord}
    (h : record.Checked L) (fingerprint : MaterialFingerprint) :
    (withFingerprint L record.stripped fingerprint).validate L =
      .ok (withFingerprint L record.stripped fingerprint) := by
  have hstripped := h.stripped
  have hchecked : (withFingerprint L record.stripped fingerprint).Checked L :=
    { hstripped with
      fingerprint := by
        rintro _ ⟨⟩
        exact normal_of_isSha256 (L.fingerprint_hex fingerprint) }
  rw [hchecked.validate_eq]
  simp [withFingerprint, ObservationRecord.stripped, normal_of_isSha256 (L.fingerprint_hex fingerprint)]

theorem MaterialFingerprint.validate_self {fingerprint : MaterialFingerprint}
    (htargets : fingerprint.affectedTargets ≠ [])
    (hsorted : sortedKinds fingerprint.affectedTargets = fingerprint.affectedTargets)
    (hmismatch : fingerprint.failureCode = .wrongRuntimeIdentity ↔ fingerprint.runtimeMismatch ≠ none)
    (htls : fingerprint.checkKind ≠ .tls) (hstatus : fingerprint.tlsStatus = "") :
    fingerprint.validate = .ok fingerprint := by
  rw [validate_eq htargets hmismatch htls hstatus, hsorted]

/-- The fingerprint of a record whose failures are of one mind passes its check, and again as it is
kept. -/
theorem FingerprintOf.kept {record : ObservationRecord} {code : FailureCode}
    {fingerprint : MaterialFingerprint} (h : FingerprintOf record code fingerprint)
    (hne : failingTargets record ≠ [])
    (hcode : code = .wrongRuntimeIdentity ↔
      ∃ target ∈ failingTargets record, target.failureCode = some .wrongRuntimeIdentity)
    (target : MonitorTarget) :
    ∃ checked, fingerprint.validate = .ok checked ∧
      (keptFingerprint target checked).validate = .ok (keptFingerprint target checked) ∧
      ∀ kind, kind ∈ (keptFingerprint target checked).affectedTargets ↔
        ∃ failing ∈ failingTargets record, failing.target = kind := by
  have htargets : fingerprint.affectedTargets ≠ [] := by
    rw [h.affectedTargets]
    simpa using hne
  have hmismatch : fingerprint.failureCode = .wrongRuntimeIdentity ↔
      fingerprint.runtimeMismatch ≠ none := by
    rw [h.failureCode, hcode, h.mismatch]
  obtain ⟨severity, authority, hkept⟩ := keptFingerprint_spec target
    { fingerprint with affectedTargets := sortedKinds fingerprint.affectedTargets }
  have hsorted : sortedKinds fingerprint.affectedTargets ≠ [] := by
    obtain ⟨kind, hkind⟩ := List.exists_mem_of_ne_nil _ htargets
    exact List.ne_nil_of_mem (mem_sortedKinds.mpr hkind)
  refine ⟨_, MaterialFingerprint.validate_eq htargets hmismatch h.notTls h.tlsStatus, ?_, ?_⟩
  · rw [hkept]
    exact MaterialFingerprint.validate_self hsorted (sortedKinds_sortedKinds _) hmismatch h.notTls
      h.tlsStatus
  · intro kind
    rw [hkept, mem_sortedKinds, h.affectedTargets]
    simp

theorem mem_failingTargets {P : Probe} {observations : List TargetObservation}
    {target : TargetObservation} :
    target ∈ failingTargets (probeRecord L P observations).stripped ↔
      target ∈ observations ∧ target.status = .fail := by
  simp [failingTargets, ObservationRecord.stripped, probeRecord]

theorem buildMaterialFingerprint_probeRecord {P : Probe} (hP : Ready L P)
    {observations : List TargetObservation} {code : FailureCode}
    (hstatus : recordStatus observations = (.fail, some code)) {failing : TargetObservation}
    (hmem : failing ∈ observations) (hfail : failing.status = .fail) :
    ∃ fingerprint, FingerprintOf (probeRecord L P observations).stripped code fingerprint ∧
      buildMaterialFingerprint L (probeRecord L P observations).stripped P.target =
        fingerprint.validate :=
  buildMaterialFingerprint_eq hP.target rfl
    (by simp [ObservationRecord.stripped, probeRecord, hstatus])
    (by simp [ObservationRecord.stripped, probeRecord, hstatus])
    (List.ne_nil_of_mem (mem_failingTargets.mpr ⟨hmem, hfail⟩))

/-- What is left of a probe once its URLs are checked and its context is there. -/
theorem checkPublicIngressTarget_eq {P : Probe} (hP : Ready L P) (hcontext : NonBlank P.target.context)
    {observations : List TargetObservation} (hurls : observeUrls L P = .ok observations)
    (hsound : SoundAll observations) :
    checkPublicIngressTarget L P =
      if (recordStatus observations).1 ≠ .fail then .ok (probeRecord L P observations).stripped
      else (buildMaterialFingerprint L (probeRecord L P observations).stripped P.target).map
        fun fingerprint => withFingerprint L (probeRecord L P observations).stripped
          (keptFingerprint P.target fingerprint) := by
  have hstatus : (probeRecord L P observations).stripped.status = (recordStatus observations).1 := rfl
  rw [checkPublicIngressTarget, hurls]
  simp only [bind, Except.bind]
  rw [(checked_probeRecord hP hcontext hsound).validate_eq]
  dsimp only
  rw [hstatus]
  by_cases hfail : (recordStatus observations).1 ≠ .fail
  · rw [if_pos hfail, if_pos hfail]
    rfl
  · rw [if_neg hfail, if_neg hfail]
    cases buildMaterialFingerprint L (probeRecord L P observations).stripped P.target with
    | error message => rfl
    | ok fingerprint => rfl

/-- A probe that is settled ends with a record. -/
theorem Settled.observed {P : Probe} (h : Settled L P) (hP : Ready L P) :
    ∃ record, checkPublicIngressTarget L P = .ok record ∧ Observed L record := by
  obtain ⟨observations, hurls, hsound, hfirst⟩ := (observeUrls_spec hP.target).2 h.status h.read
  have hwrong : WrongFirst observations := hfirst.mpr h.agree
  have hchecked := checked_probeRecord hP h.context hsound
  rw [checkPublicIngressTarget_eq hP h.context hurls hsound]
  obtain ⟨-, hstatus, -⟩ | ⟨failing, code, hfailing, hcode, hstatus, hmem, hfail⟩ :=
    recordStatus_spec hsound
  · have hpass : (probeRecord L P observations).stripped.status = .pass := by
      simp [ObservationRecord.stripped, probeRecord, hstatus]
    rw [if_pos (by simp [hstatus])]
    refine ⟨_, rfl, ?_, fun h => by simp [hpass] at h⟩
    rw [hchecked.stripped.validate_eq, ObservationRecord.stripped_stripped]
  · obtain ⟨fingerprint, hfingerprint, hbuild⟩ :=
      buildMaterialFingerprint_probeRecord hP hstatus hmem hfail
    -- The code is the first failure's, so evidence anywhere means a wrong identity first.
    have hiff : code = .wrongRuntimeIdentity ↔
        ∃ target ∈ failingTargets (probeRecord L P observations).stripped,
          target.failureCode = some .wrongRuntimeIdentity := by
      constructor
      · rintro rfl
        exact ⟨failing, mem_failingTargets.mpr ⟨hmem, hfail⟩, hcode⟩
      · rintro ⟨target, htarget, hidentity⟩
        have := hwrong target (mem_failingTargets.mp htarget).1 hidentity failing hfailing
        simpa [hcode] using this
    obtain ⟨checked, hok, hkept, hkinds⟩ := hfingerprint.kept
      (List.ne_nil_of_mem (mem_failingTargets.mpr ⟨hmem, hfail⟩)) hiff P.target
    rw [if_neg (by simp [hstatus]), hbuild, hok]
    refine ⟨_, rfl, hchecked.validate_withFingerprint _, fun _ => ⟨_, rfl, hkept, fun kind => ?_⟩⟩
    rw [hkinds]
    simp only [mem_failingTargets, and_assoc]
    rfl

/-- A probe that ends with a record was settled. -/
theorem settled_of_checkPublicIngressTarget {P : Probe} (hP : Ready L P) {record : ObservationRecord}
    (h : checkPublicIngressTarget L P = .ok record) : Settled L P := by
  obtain ⟨hraises, hread⟩ := observeUrls_spec hP.target
  have hquiet : ¬(SomeStatusRefused L P ∨
      ∃ observation ∈ healthAnswer L P, IdentityUnread L P.target observation) := by
    intro hbad
    obtain ⟨message, herror⟩ := hraises hbad
    rw [checkPublicIngressTarget, herror] at h
    cases h
  rw [not_or] at hquiet
  have hidentity : ∀ observation ∈ healthAnswer L P, ¬IdentityUnread L P.target observation :=
    fun observation hmem hbad => hquiet.2 ⟨observation, hmem, hbad⟩
  obtain ⟨observations, hurls, hsound, hfirst⟩ := hread hquiet.1 hidentity
  have hcontext : NonBlank P.target.context := by
    by_contra hblank
    obtain ⟨message, hrefused⟩ := @ObservationRecord.validate_blank L (probeRecord L P observations)
      (nonBlank_observationId _ _ _ _ _) hP.target.product hblank
    rw [checkPublicIngressTarget, hurls] at h
    simp only [bind, Except.bind] at h
    rw [hrefused] at h
    cases h
  refine ⟨hcontext, hquiet.1, hidentity, hfirst.mp ?_⟩
  intro target htarget hwrong failing hfailing
  obtain ⟨hnone, -⟩ | ⟨failing', code, hfailing', hcode, hstatus, hmem, hfail⟩ :=
    recordStatus_spec hsound
  · simp [hnone] at hfailing
  obtain rfl : failing' = failing := Option.some.inj (hfailing'.symm.trans hfailing)
  by_contra hother
  -- The evidence is the target's and the code is the first failure's: the check refuses it.
  obtain ⟨kind, htargetSound, -⟩ := hsound.sound target htarget
  obtain ⟨fingerprint, hfingerprint, hbuild⟩ :=
    @buildMaterialFingerprint_probeRecord L P hP observations code hstatus failing' hmem hfail
  rw [checkPublicIngressTarget_eq hP hcontext hurls hsound, if_neg (by simp [hstatus]), hbuild,
    map_eq_ok] at h
  obtain ⟨checked, hchecked, -⟩ := h
  refine MaterialFingerprint.validate_ne_ok ?_ (hfingerprint.mismatch.mpr
    ⟨target, mem_failingTargets.mpr ⟨htarget, htargetSound.fail_of_code hwrong⟩, hwrong⟩) hchecked
  rw [hfingerprint.failureCode]
  rintro rfl
  exact hother hcode

/-! ### Passes -/

/-- A pass over targets stops at the first probe that raises. -/
theorem probeTargets_eq_ok {probes : List Probe} {records : List ObservationRecord} :
    probeTargets L probes = .ok records ↔
      List.Forall₂ (fun P record => checkPublicIngressTarget L P = .ok record) probes records := by
  induction probes generalizing records with
  | nil =>
    cases records with
    | nil => exact iff_of_true rfl .nil
    | cons record rest => exact iff_of_false (by rintro ⟨⟩) (by rintro ⟨⟩)
  | cons P rest ih =>
    rw [probeTargets, List.mapM_cons, bind_eq_ok]
    constructor
    · rintro ⟨record, hrecord, h⟩
      obtain ⟨others, hothers, h⟩ := bind_eq_ok.mp h
      obtain rfl := Except.ok.inj h
      exact .cons hrecord (ih.mp hothers)
    · intro h
      cases h with
      | cons hrecord hothers =>
        exact ⟨_, hrecord, bind_eq_ok.mpr ⟨_, ih.mpr hothers, rfl⟩⟩

theorem exists_forall₂_iff {α β : Type} {R : α → β → Prop} {l : List α} :
    (∃ l', List.Forall₂ R l l') ↔ ∀ a ∈ l, ∃ b, R a b := by
  constructor
  · rintro ⟨l', hall⟩
    induction hall with
    | nil => simp
    | cons hab _ ih => exact List.forall_mem_cons.mpr ⟨⟨_, hab⟩, ih⟩
  · intro h
    induction l with
    | nil => exact ⟨[], .nil⟩
    | cons a rest ih =>
      obtain ⟨b, hb⟩ := h a List.mem_cons_self
      obtain ⟨rest', hall⟩ := ih fun other hother => h other (List.mem_cons_of_mem _ hother)
      exact ⟨b :: rest', .cons hb hall⟩

/-- Every probe of a pass ends with a record of its own exactly when every one of them is
settled. -/
theorem probes_observed_iff (L : Library) (probes : List Probe) (h : ∀ P ∈ probes, Ready L P) :
    (∃ records, probeTargets L probes = .ok records ∧
      List.Forall₂ (fun P record => checkPublicIngressTarget L P = .ok record ∧ Observed L record)
        probes records) ↔ ∀ P ∈ probes, Settled L P := by
  constructor
  · rintro ⟨records, -, hall⟩ P hP
    obtain ⟨record, hcheck, -⟩ := exists_forall₂_iff.mp ⟨records, hall⟩ P hP
    exact settled_of_checkPublicIngressTarget (h P hP) hcheck
  · intro hsettled
    obtain ⟨records, hall⟩ := exists_forall₂_iff.mpr fun P hP => (hsettled P hP).observed (h P hP)
    exact ⟨records, probeTargets_eq_ok.mpr (hall.imp fun _ _ h => h.1), hall⟩

/-! ### A site with two URLs -/

/-- Libraries for ASCII texts, under which every URL is a public one of one host. -/
def sampleLibrary : Library where
  table := { Secrets.CharacterTable.ascii with
    ascii := ascii_ascii
    noSpace := noSpace_of_isAlphanum }
  urlsplit url :=
    { scheme := "https", netloc := "shop.example", hostname := some "shop.example", port := none
      path := url }
  sha256 _ := "4e07408562bedb8b60ce05c1decfe3ad16b72230967de01f640b7e4729b49fce"
  urlsSha256 _ := "4b227777d4dd1fc61c6f884f48641d02b4d121d3fd328cb08b5531fcacdabf8a"
  fingerprintSha256 _ := "ef2d127de37b942baad06145e54b0c619a1f22327b2ebbcfbec78f5564afe39d"
  fingerprint_hex _ := by decide +kernel
  publicUrlError _ := none
  normalizedUrl := some
  requireHttpsCustody _ _ := true
  publicDnsName := some
  publicDnsAddresses := some
  publicDnsAddresses_nil := rfl
  publicDnsAddresses_idem _ := rfl
  loads _ := .error .decodeError
  loads_shrinks h := by cases h
  runtimeIdentity _ := none
  syncCycle _ := none
  timestamp _ := "2026-01-01T00:00:00Z"

/-- A site whose health URL has to show which runtime answers. -/
def sampleSite : MonitorTarget :=
  { product := "shop"
    context := "production"
    instanceName := "web"
    baseUrl := "https://shop.example"
    healthUrl := "https://shop.example/health"
    checkName := "public-ingress"
    checkKind := .publicHttp
    requireRuntimeIdentity := true }

/-- A probe of the site, whose base URL answers with a status and whose health URL with a success
and no identity. -/
def sampleProbe (status : Nat) (bounds : 100 ≤ status ∧ status ≤ 599) : Probe :=
  { target := sampleSite
    checkedAt := "2026-01-01T00:00:00Z"
    instant := 0
    get := fun url _ =>
      if url = "https://shop.example" then
        .response { statusCode := status, finalUrl := url, status_bounds := bounds }
      else .response { statusCode := 200, finalUrl := url, status_bounds := by decide } }

theorem discovered_sampleSite : Discovered sampleLibrary sampleSite where
  product := by decide +kernel
  instanceName := by decide +kernel
  checkName := by decide +kernel
  notTls := by simp [sampleSite]
  publicUrl := by simp [sampleSite]
  privateUrl := by simp [sampleSite]
  provider := by simp [sampleSite]
  baseUrl := fun _ => by decide +kernel
  healthUrl := fun _ => by decide +kernel
  resolutionFailure := by simp [sampleSite]
  resolutionSummary := by simp [sampleSite]
  dns := by simp [sampleSite]

theorem ready_sampleProbe (status : Nat) (bounds : 100 ≤ status ∧ status ≤ 599) :
    Ready sampleLibrary (sampleProbe status bounds) :=
  ⟨discovered_sampleSite, show NonBlank "2026-01-01T00:00:00Z" by decide +kernel⟩

theorem answeredWell_base (status : Nat) (bounds : 100 ≤ status ∧ status ≤ 599) :
    answeredWell sampleLibrary (sampleProbe status bounds) sampleSite.baseUrl =
      if 200 ≤ status ∧ status < 300 then
        some { statusCode := status, finalUrl := sampleSite.baseUrl, status_bounds := bounds }
      else none := by
  simp [answeredWell, Asked, sampleProbe, sampleSite, publicUrlErrorOf, sampleLibrary]

theorem healthAnswer_sampleProbe (status : Nat) (bounds : 100 ≤ status ∧ status ≤ 599) :
    healthAnswer sampleLibrary (sampleProbe status bounds) =
      some { statusCode := 200, finalUrl := sampleSite.healthUrl, status_bounds := by decide } := by
  simp [healthAnswer, answeredWell, Asked, sampleProbe, sampleSite, publicUrlErrorOf, sampleLibrary]

/-- A probe of the site while it is down: both URLs are answered with an `HTTPError`. -/
def downProbe : Probe :=
  { target := sampleSite
    checkedAt := "2026-01-01T00:00:00Z"
    instant := 0
    get := fun url _ => .httpError 503 url }

theorem settled_sampleProbe : Settled sampleLibrary (sampleProbe 200 (by decide)) := by
  refine ⟨by decide +kernel, ?_, ?_, ?_⟩
  · rintro ⟨-, asked, -, -, code, finalUrl, hanswer, -⟩
    simp only [sampleProbe] at hanswer
    split at hanswer <;> cases hanswer
  · rintro observation - ⟨hexpected, -⟩
    simp [sampleProbe, sampleSite] at hexpected
  · rintro ⟨-, -, hbase, -⟩
    have hwell := answeredWell_base 200 (by decide)
    rw [if_pos (by decide)] at hwell
    exact absurd (hwell.symm.trans hbase) (by simp)

theorem settled_downProbe : Settled sampleLibrary downProbe := by
  have hanswer (url : String) : answeredWell sampleLibrary downProbe url = none := by
    unfold answeredWell
    split <;> rfl
  have hhealth : healthAnswer sampleLibrary downProbe = none := hanswer sampleSite.healthUrl
  refine ⟨by decide +kernel, ?_, by simp [hhealth], ?_⟩
  · rintro ⟨-, asked, -, -, code, finalUrl, hraised, hrange⟩
    cases hraised
    exact hrange (by decide)
  · rintro ⟨-, -, -, observation, hmem, -⟩
    simp [hhealth] at hmem

/-- With a base URL that works, the wrong identity is observed, and so is a site that is down. -/
theorem probes_observed_shop :
    ∃ records, probeTargets sampleLibrary [sampleProbe 200 (by decide), downProbe] = .ok records ∧
      List.Forall₂ (fun P record => checkPublicIngressTarget sampleLibrary P = .ok record ∧
        Observed sampleLibrary record) [sampleProbe 200 (by decide), downProbe] records :=
  (probes_observed_iff sampleLibrary [sampleProbe 200 (by decide), downProbe] (by
    intro P hP
    obtain rfl | rfl : P = sampleProbe 200 (by decide) ∨ P = downProbe := by simpa using hP
    · exact ready_sampleProbe 200 (by decide)
    · exact ⟨discovered_sampleSite, show NonBlank "2026-01-01T00:00:00Z" by decide +kernel⟩)).mpr (by
    intro P hP
    obtain rfl | rfl : P = sampleProbe 200 (by decide) ∨ P = downProbe := by simpa using hP
    · exact settled_sampleProbe
    · exact settled_downProbe)

/-- With a base URL that does not, the probe raises. -/
theorem probe_raises : Ready sampleLibrary (sampleProbe 500 (by decide)) ∧
    ∀ record, checkPublicIngressTarget sampleLibrary (sampleProbe 500 (by decide)) ≠ .ok record := by
  refine ⟨ready_sampleProbe 500 (by decide), fun record h => ?_⟩
  refine (settled_of_checkPublicIngressTarget (ready_sampleProbe 500 (by decide)) h).agree ?_
  refine ⟨rfl, by decide, ?_, _, healthAnswer_sampleProbe 500 (by decide), ?_⟩
  · exact (answeredWell_base 500 (by decide)).trans (if_neg (by decide))
  · simp [IdentityWrong, sampleProbe, sampleSite]

end Launchplane.HealthProbe
