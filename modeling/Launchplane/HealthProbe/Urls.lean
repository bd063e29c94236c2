import Launchplane.HealthProbe.Monitor

/-!
# Launchplane.HealthProbe.Urls

**What a check of one URL can come to.** A URL that is not answered well fails with
a code of its own; one that is answered well shows what its kind is asked for. Only
a health URL can show a wrong runtime identity, and only a text in its answer can
make the check raise.
-/

namespace Launchplane.HealthProbe

open PublicIngress

variable (L : Library)

/-! ### What discovery ensures -/

/-- A target as the product profiles and the route bindings give it, of a check that asks no
certificate. Only the context of a preview can be blank. -/
structure Discovered (target : MonitorTarget) : Prop where
  product : NonBlank target.product
  instanceName : NonBlank target.instanceName
  checkName : NonBlank target.checkName
  notTls : target.checkKind ≠ .tls
  publicUrl : target.checkKind = .publicHttp → target.baseUrl ≠ "" ∨ target.healthUrl ≠ ""
  privateUrl : target.checkKind = .privateHttp → NonBlank target.privateEndpointKey ∧
    (target.healthUrl ≠ "" ∨ target.resolutionFailureCode ≠ none)
  provider : target.checkKind = .provider →
    NonBlank target.provider ∧ NonBlank target.providerCheck
  baseUrl : target.baseUrl ≠ "" → NonBlank target.baseUrl
  healthUrl : target.healthUrl ≠ "" → NonBlank target.healthUrl
  resolutionFailure : ∀ code ∈ target.resolutionFailureCode, code ∈
    [FailureCode.invalidUrl, .privateEndpointNotFound, .privateEndpointDisabled,
      .privateEndpointMismatch]
  resolutionSummary : target.resolutionFailureSummary ≠ "" →
    NonBlank target.resolutionFailureSummary
  dns : ∀ item ∈ target.expectedDnsTargets, L.publicDnsName item.publicName = some item.publicName ∧
    L.publicDnsAddresses item.addresses = some item.addresses ∧
    1 ≤ item.addresses.length ∧ item.addresses.length ≤ 32

/-! ### Answers -/

/-- A request is sent to a URL. -/
def Asked (P : Probe) (url : String) : Prop :=
  P.target.resolutionFailureCode = none ∧ publicUrlErrorOf L P.target url = none ∧
    ¬(P.target.allowedHttpsHosts ≠ [] ∧ P.customTransport)

instance (P : Probe) (url : String) : Decidable (Asked L P url) :=
  inferInstanceAs (Decidable (_ ∧ _))

/-- The answer to a URL that is asked and answered with a success, over the hosts of its custody. -/
def answeredWell (P : Probe) (url : String) : Option HttpObservation :=
  if Asked L P url then
    match P.get url P.target.allowedHttpsHosts with
    | .response observation =>
      if (P.target.allowedHttpsHosts = [] ∨
          custodyRedirectsMatch L url observation P.target.allowedHttpsHosts = true) ∧
          200 ≤ observation.statusCode ∧ observation.statusCode < 300 then
        some observation
      else none
    | _ => none
  else none

/-- The transport raises an `HTTPError` with a status that no observation may have. -/
def StatusRefused (P : Probe) (url : String) : Prop :=
  Asked L P url ∧ ∃ code finalUrl,
    P.get url P.target.allowedHttpsHosts = .httpError code finalUrl ∧ ¬(100 ≤ code ∧ code ≤ 599)

/-- An identity is looked for in an answer, and reading it raises. -/
def IdentityUnread (target : MonitorTarget) (observation : HttpObservation) : Prop :=
  target.expectedRuntimeIdentity ≠ none ∧
    ∃ message, runtimeIdentityFromHealthPayload L observation.payload = .error message

/-- An answer shows another runtime than the one expected, or none where one is required. -/
def IdentityWrong (target : MonitorTarget) (observation : HttpObservation) : Prop :=
  match target.expectedRuntimeIdentity with
  | none => target.requireRuntimeIdentity = true
  | some expected => ∃ observed, runtimeIdentityFromHealthPayload L observation.payload = .ok observed ∧
      hardRuntimeIdentityFailure target
        (runtimeIdentityVerdict expected observation.payload observed).1 = true

/-! ### Observations -/

/-- An observation that has passed its check. -/
structure Sound (kind : TargetKind) (observation : TargetObservation) : Prop where
  target : observation.target = kind
  url : NonBlank observation.url
  summary : NonBlank observation.summary
  status : (observation.status = .pass ∧ observation.failureCode = none) ∨
    (observation.status = .fail ∧ observation.failureCode ≠ none)

theorem Sound.fail_of_code {kind : TargetKind} {observation : TargetObservation} {code : FailureCode}
    (h : Sound kind observation) (hcode : observation.failureCode = some code) :
    observation.status = .fail := by
  obtain ⟨-, hnone⟩ | ⟨hfail, -⟩ := h.status
  · simp [hnone] at hcode
  · exact hfail

/-- A check yields a sound observation with a status and a failure code. -/
def Yields (x : Except String TargetObservation) (kind : TargetKind) (code : Option FailureCode) :
    Prop :=
  ∃ observation, x = .ok observation ∧ Sound kind observation ∧ observation.failureCode = code

variable {L} {kind : TargetKind} {url : String}

theorem TargetObservation.Checked.yields {observation : TargetObservation} (h : observation.Checked) :
    Yields observation.validate observation.target observation.failureCode :=
  ⟨observation.stripped, h.validate_eq, ⟨rfl, h.url.pyStrip, h.summary.pyStrip, h.status⟩, rfl⟩

theorem nonBlank_failureSummary (code : FailureCode) : NonBlank (failureSummary code) := by
  cases code <;> exact nonBlank_of_head rfl

theorem yields_failedTarget (hkind : kind ≠ .tlsDomain) (hurl : NonBlank url) (code : FailureCode)
    (summary : String) : Yields (failedTarget kind url code summary) kind (some code) := by
  refine TargetObservation.Checked.yields
    { httpStatus := by simp, url := hurl, dns := rfl, tls := rfl, target := hkind
      status := .inr ⟨rfl, by simp⟩, summary := ?_ }
  dsimp only
  split
  · rename_i hsummary
    exact NonBlank.pyStrip hsummary
  · exact nonBlank_failureSummary code

theorem nonBlank_textOr {text other : String} (h : text ≠ "" → NonBlank text) (hother : NonBlank other) :
    NonBlank (textOr text other) := by
  unfold textOr
  split
  · rename_i hne
    exact h hne
  · exact hother

theorem destinationCode_ne (code : DestinationErrorCode) :
    code.failureCode ≠ .wrongRuntimeIdentity := by
  cases code <;> decide

theorem urlErrorCode_ne (reason : UrlErrorReason) : reason.failureCode ≠ .wrongRuntimeIdentity := by
  cases reason <;> decide

theorem statusFailureCode_ne (kind : TargetKind) : statusFailureCode kind ≠ .wrongRuntimeIdentity := by
  cases kind <;> decide

/-! ### A URL that is not answered well -/

/-- The check fails with a code that says nothing of a runtime identity. -/
def YieldsFailure (x : Except String TargetObservation) (kind : TargetKind) : Prop :=
  ∃ code, code ≠ FailureCode.wrongRuntimeIdentity ∧ Yields x kind (some code)

theorem yieldsFailure_checkException (hkind : kind ≠ .tlsDomain) (hurl : NonBlank url) {answer : Answer}
    (h : ∀ observation, answer ≠ .response observation)
    (hstatus : ∀ code finalUrl, answer = .httpError code finalUrl → 100 ≤ code ∧ code ≤ 599) :
    YieldsFailure (checkException kind url answer) kind := by
  cases answer with
  | response observation => exact absurd rfl (h observation)
  | httpError code finalUrl =>
    refine ⟨statusFailureCode kind, statusFailureCode_ne kind, TargetObservation.Checked.yields
      { httpStatus := ?_, url := hurl, dns := rfl, tls := rfl, target := hkind
        status := .inr ⟨rfl, by simp⟩, summary := NonBlank.append_left (nonBlank_of_head rfl) _ }⟩
    rintro _ ⟨⟩
    exact hstatus code finalUrl rfl
  | timeoutError => exact ⟨_, by decide, yields_failedTarget hkind hurl _ _⟩
  | destinationError code message =>
    exact ⟨_, destinationCode_ne code, yields_failedTarget hkind hurl _ _⟩
  | urlError reason message => exact ⟨_, urlErrorCode_ne reason, yields_failedTarget hkind hurl _ _⟩
  | sslError => exact ⟨_, by decide, yields_failedTarget hkind hurl _ _⟩
  | runtimeError message =>
    refine ⟨if isSelfRedirect message then .selfRedirect else .redirectLoop, ?_,
      yields_failedTarget hkind hurl _ _⟩
    split <;> decide
  | osError message => exact ⟨_, by decide, yields_failedTarget hkind hurl _ _⟩

theorem checked_answeredObservation (hkind : kind ≠ .tlsDomain) (hurl : NonBlank url)
    (target : MonitorTarget) (observation : HttpObservation) :
    (answeredObservation L target kind url observation).Checked where
  httpStatus := by
    rintro _ ⟨⟩
    exact observation.status_bounds
  url := hurl
  summary := NonBlank.append_left (nonBlank_of_head rfl) _
  dns := rfl
  status := .inr ⟨rfl, by simp [answeredObservation]⟩
  target := hkind
  tls := rfl

/-- A response that is no success, or does not keep the custody. -/
theorem yieldsFailure_checkResponse (hkind : kind ≠ .tlsDomain) (hurl : NonBlank url)
    {target : MonitorTarget} {observation : HttpObservation}
    (h : ¬((target.allowedHttpsHosts = [] ∨
      custodyRedirectsMatch L url observation target.allowedHttpsHosts = true) ∧
        200 ≤ observation.statusCode ∧ observation.statusCode < 300)) :
    YieldsFailure (checkResponse L target kind url observation) kind := by
  unfold checkResponse
  by_cases hcustody : target.allowedHttpsHosts ≠ [] ∧
      custodyRedirectsMatch L url observation target.allowedHttpsHosts = false
  · rw [if_pos hcustody]
    exact ⟨_, by decide, yields_failedTarget hkind hurl _ _⟩
  · rw [if_neg hcustody]
    have hstatus : ¬(200 ≤ observation.statusCode ∧ observation.statusCode < 300) := by
      intro hstatus
      refine h ⟨?_, hstatus⟩
      by_cases hhosts : target.allowedHttpsHosts = []
      · exact .inl hhosts
      · exact .inr (by simpa [hhosts] using hcustody)
    rw [if_pos hstatus]
    exact ⟨statusFailureCode kind, statusFailureCode_ne kind,
      (checked_answeredObservation hkind hurl target observation).yields⟩

/-- `_check_url` of a URL that is asked. -/
theorem checkUrl_asked {P : Probe} (hP : Discovered L P.target)
    (hprovider : P.target.checkKind ≠ .provider) (h : Asked L P url) :
    checkUrl L P kind url = checkHttpUrl L P kind url := by
  obtain ⟨hresolution, hpublic, -⟩ := h
  unfold checkUrl
  cases hk : P.target.checkKind with
  | tls => exact absurd hk hP.notTls
  | provider => exact absurd hk hprovider
  | publicHttp => simp only [hresolution, hpublic]
  | privateHttp => simp only [hresolution, hpublic]

/-- `_check_url` raises on a status that no observation may have. -/
theorem checkUrl_refused {P : Probe} (hP : Discovered L P.target)
    (hprovider : P.target.checkKind ≠ .provider) (h : StatusRefused L P url) :
    checkUrl L P kind url = .error "http_status" := by
  obtain ⟨hasked, code, finalUrl, hanswer, hrange⟩ := h
  rw [checkUrl_asked hP hprovider hasked, checkHttpUrl, if_neg hasked.2.2, hanswer]
  exact TargetObservation.validate_refused rfl hrange

/-- `_check_url` of a URL that is not answered well. -/
theorem yieldsFailure_checkUrl {P : Probe} (hP : Discovered L P.target)
    (hprovider : P.target.checkKind ≠ .provider) (hkind : kind ≠ .tlsDomain) (hurl : NonBlank url)
    (hstatus : ¬StatusRefused L P url) (h : answeredWell L P url = none) : YieldsFailure (checkUrl L P kind url) kind := by
  have hhttp : P.target.checkKind = .publicHttp ∨ P.target.checkKind = .privateHttp := by
    cases hk : P.target.checkKind with
    | tls => exact absurd hk hP.notTls
    | provider => exact absurd hk hprovider
    | publicHttp => exact .inl rfl
    | privateHttp => exact .inr rfl
  cases hresolution : P.target.resolutionFailureCode with
  | some code =>
    have hcheck : checkUrl L P kind url = TargetObservation.validate
        { target := kind, url, status := .fail, failureCode := some code
          summary := textOr P.target.resolutionFailureSummary
            "Private health endpoint could not be resolved." } := by
      unfold checkUrl
      rcases hhttp with hk | hk <;> simp only [hk, hresolution]
    rw [hcheck]
    have hcode := hP.resolutionFailure code (by simp [hresolution])
    refine ⟨code, ?_, TargetObservation.Checked.yields
      { httpStatus := by simp, url := hurl, dns := rfl, tls := rfl, target := hkind
        status := .inr ⟨rfl, by simp⟩
        summary := nonBlank_textOr hP.resolutionSummary (nonBlank_of_head rfl) }⟩
    rintro rfl
    simp at hcode
  | none =>
    cases hpublic : publicUrlErrorOf L P.target url with
    | some error =>
      have hcheck : checkUrl L P kind url = TargetObservation.validate
          { target := kind, url, status := .fail, failureCode := some error.failureCode
            summary := failureSummary error.failureCode } := by
        unfold checkUrl
        rcases hhttp with hk | hk <;> simp only [hk, hresolution, hpublic]
      rw [hcheck]
      refine ⟨error.failureCode, by cases error <;> decide, TargetObservation.Checked.yields
        { httpStatus := by simp, url := hurl, dns := rfl, tls := rfl, target := hkind
          status := .inr ⟨rfl, by simp⟩, summary := nonBlank_failureSummary _ }⟩
    | none =>
      by_cases hcustom : P.target.allowedHttpsHosts ≠ [] ∧ P.customTransport = true
      · have hcheck : checkUrl L P kind url = failedTarget kind url .invalidUrl
            "Custody checks require the default HTTPS transport; no request was sent." := by
          unfold checkUrl
          rcases hhttp with hk | hk <;>
            simp only [hk, hresolution, hpublic, checkHttpUrl, if_pos hcustom]
        rw [hcheck]
        exact ⟨_, by decide, yields_failedTarget hkind hurl _ _⟩
      · have hasked : Asked L P url := ⟨hresolution, hpublic, hcustom⟩
        rw [checkUrl_asked hP hprovider hasked, checkHttpUrl, if_neg hcustom]
        rw [answeredWell, if_pos hasked] at h
        cases hanswer : P.get url P.target.allowedHttpsHosts with
        | response observation =>
          refine yieldsFailure_checkResponse hkind hurl fun hwell => ?_
          rw [hanswer] at h
          dsimp only at h
          rw [if_pos hwell] at h
          cases h
        | httpError code finalUrl =>
          refine yieldsFailure_checkException hkind hurl (by simp) ?_
          rintro _ _ ⟨⟩
          by_contra hrange
          exact hstatus ⟨hasked, code, finalUrl, hanswer, hrange⟩
        | _ => exact yieldsFailure_checkException hkind hurl (by simp) (by simp)

/-! ### A URL that is answered well -/

theorem dependencyFailure_spec (evidence : Option RuntimeDependencyHealthEvidence) {summary : String}
    (h : NonBlank summary) :
    NonBlank (dependencyFailure evidence summary).2 ∧
      (dependencyFailure evidence summary).1 ≠ some .wrongRuntimeIdentity := by
  unfold dependencyFailure
  split
  · exact ⟨h, by simp⟩
  · split
    · exact ⟨nonBlank_of_head rfl, by simp⟩
    · exact ⟨h.append_left _, by simp⟩
    · exact ⟨h.append_left _, by simp⟩
    · exact ⟨h, by simp⟩

theorem nonBlank_successfulTargetSummary (target : MonitorTarget) :
    NonBlank (successfulTargetSummary target) := by
  unfold successfulTargetSummary
  split <;> exact nonBlank_of_head rfl

section Answered

variable {target : MonitorTarget} {answered : TargetObservation}

theorem yields_succeeded (h : answered.Checked) (status : RuntimeIdentityStatus) (detail : String)
    (observed : Option RuntimeIdentity) :
    Yields (succeededObservation target answered status detail observed).validate answered.target
      (dependencyFailure answered.dependencyHealth (successfulTargetSummary target)).1 := by
  have hspec := dependencyFailure_spec answered.dependencyHealth
    (nonBlank_successfulTargetSummary target)
  refine @TargetObservation.Checked.yields
    (succeededObservation target answered status detail observed)
    { httpStatus := h.httpStatus, url := h.url, dns := h.dns, tls := h.tls, target := h.target
      summary := hspec.1, status := ?_ }
  by_cases hnone : (dependencyFailure answered.dependencyHealth
      (successfulTargetSummary target)).1 = none
  · exact .inl ⟨if_pos hnone, hnone⟩
  · exact .inr ⟨if_neg hnone, hnone⟩

theorem yields_wrongIdentity (h : answered.Checked) (hfail : answered.status = .fail)
    (status : RuntimeIdentityStatus) (detail : String) (observed : Option RuntimeIdentity)
    {summary : String} (hsummary : NonBlank summary) :
    Yields (wrongIdentityObservation answered status detail observed summary).validate
      answered.target (some .wrongRuntimeIdentity) :=
  @TargetObservation.Checked.yields
    (wrongIdentityObservation answered status detail observed summary)
    { httpStatus := h.httpStatus, url := h.url, dns := h.dns, tls := h.tls, target := h.target
      summary := hsummary, status := .inr ⟨hfail, by simp [wrongIdentityObservation]⟩ }

/-- The check of an identity raises where it cannot be read. -/
theorem checkIdentity_unread {observation : HttpObservation} (h : IdentityUnread L target observation) :
    ∃ message, checkIdentity L target answered observation.payload = .error message := by
  obtain ⟨hexpected, message, hread⟩ := h
  obtain ⟨expected, hsome⟩ := Option.ne_none_iff_exists'.mp hexpected
  refine ⟨message, ?_⟩
  unfold checkIdentity
  rw [hsome]
  show healthPayloadRuntimeIdentityStatus L expected observation.payload >>= _ = _
  rw [healthPayloadRuntimeIdentityStatus, hread]
  rfl

/-- Elsewhere it fails with a wrong identity exactly for one. -/
theorem checkIdentity_read (h : answered.Checked) (hfail : answered.status = .fail)
    {observation : HttpObservation} (hread : ¬IdentityUnread L target observation) :
    ∃ code, Yields (checkIdentity L target answered observation.payload) answered.target code ∧
      (code = some .wrongRuntimeIdentity ↔ IdentityWrong L target observation) := by
  have hspec := (dependencyFailure_spec answered.dependencyHealth
    (nonBlank_successfulTargetSummary target)).2
  unfold checkIdentity IdentityWrong
  cases hexpected : target.expectedRuntimeIdentity with
  | none =>
    dsimp only
    by_cases hrequire : target.requireRuntimeIdentity = true
    · rw [if_pos hrequire]
      exact ⟨_, yields_wrongIdentity h hfail _ _ _ (nonBlank_of_head rfl), by simp [hrequire]⟩
    · rw [if_neg hrequire]
      exact ⟨_, yields_succeeded h _ _ _, by simp [hspec, hrequire]⟩
  | some expected =>
    cases hidentity : runtimeIdentityFromHealthPayload L observation.payload with
    | error message => exact absurd ⟨by simp [hexpected], message, hidentity⟩ hread
    | ok observed =>
      have hverdict := nonBlank_runtimeIdentityVerdict expected observation.payload observed
      have hstatus : healthPayloadRuntimeIdentityStatus L expected observation.payload =
          .ok ((runtimeIdentityVerdict expected observation.payload observed).1,
            (runtimeIdentityVerdict expected observation.payload observed).2, observed) := by
        rw [healthPayloadRuntimeIdentityStatus, hidentity]
        rfl
      dsimp only
      rw [hstatus]
      by_cases hhard : hardRuntimeIdentityFailure target
          (runtimeIdentityVerdict expected observation.payload observed).1 = true
      · refine ⟨some .wrongRuntimeIdentity, ?_, by simp [hhard]⟩
        show Yields (if _ then _ else _) _ _
        rw [if_pos hhard]
        exact yields_wrongIdentity h hfail _ _ _ (nonBlank_textOr (fun _ => hverdict) (nonBlank_of_head rfl))
      · refine ⟨_, ?_, iff_of_false hspec (by simp [hhard])⟩
        show Yields (if _ then _ else _) _ _
        rw [if_neg hhard]
        exact yields_succeeded h _ _ _

end Answered

/-- `_check_url` of a URL that is answered well reads the answer. -/
theorem checkUrl_answered {P : Probe} (hP : Discovered L P.target)
    (hprovider : P.target.checkKind ≠ .provider) {observation : HttpObservation}
    (h : answeredWell L P url = some observation) :
    checkUrl L P kind url =
      if kind.isHealthUrl then
        checkIdentity L P.target (answeredObservation L P.target kind url observation)
          observation.payload
      else (succeededObservation P.target (answeredObservation L P.target kind url observation)
        .unchecked "" none).validate := by
  unfold answeredWell at h
  by_cases hasked : Asked L P url
  · rw [if_pos hasked] at h
    rw [checkUrl_asked hP hprovider hasked, checkHttpUrl, if_neg hasked.2.2]
    cases hanswer : P.get url P.target.allowedHttpsHosts with
    | response answer =>
      rw [hanswer] at h
      dsimp only at h
      by_cases hwell : (P.target.allowedHttpsHosts = [] ∨
          custodyRedirectsMatch L url answer P.target.allowedHttpsHosts = true) ∧
          200 ≤ answer.statusCode ∧ answer.statusCode < 300
      · rw [if_pos hwell] at h
        obtain rfl := Option.some.inj h
        have hcustody : ¬(P.target.allowedHttpsHosts ≠ [] ∧
            custodyRedirectsMatch L url answer P.target.allowedHttpsHosts = false) := by
          rintro ⟨hhosts, hfalse⟩
          obtain hnil | htrue := hwell.1
          · exact hhosts hnil
          · simp [hfalse] at htrue
        dsimp only
        rw [checkResponse, if_neg hcustody, if_neg (not_not.mpr hwell.2)]
      · rw [if_neg hwell] at h
        cases h
    | _ => simp [hanswer] at h
  · rw [if_neg hasked] at h
    cases h

end Launchplane.HealthProbe
