import Launchplane.HealthProbe.Urls

/-!
# Launchplane.HealthProbe.Observed

**The rounds of a probe.** After the check of a URL its host is looked up and its
custody noted, and neither can fail or touch what the record reads. A provider's
check shows nothing of a runtime identity; of the two URLs of a site the health URL
alone does.
-/

namespace Launchplane.HealthProbe

open PublicIngress

variable {L : Library} {kind : TargetKind} {url : String}

/-! ### Providers -/

theorem checked_providerObservation (target : MonitorTarget) (failure : Option FailureCode)
    {summary : String} (h : NonBlank summary) :
    (providerObservation target failure summary).Checked where
  httpStatus := by simp [providerObservation]
  url := by
    rw [providerObservation, providerUrl, String.append_assoc, String.append_assoc]
    exact NonBlank.append_left (nonBlank_of_head rfl) _
  summary := h
  dns := rfl
  status := by
    by_cases hnone : failure = none
    · exact .inl ⟨if_pos hnone, hnone⟩
    · exact .inr ⟨if_neg hnone, hnone⟩
  target := by simp [providerObservation]
  tls := rfl

theorem nonBlank_snapshotSummary (snapshot : ProviderHoldSnapshot) (stuck : List ProviderTargetHold)
    (unavailable : Bool) : NonBlank (snapshotSummary L snapshot stuck unavailable) := by
  simp only [snapshotSummary, String.append_assoc]
  exact (NonBlank.append_left (nonBlank_of_mem 's' (by decide) (by decide)) _).append_right _

/-- A provider's check shows nothing of a runtime identity. -/
theorem yields_checkDeployFence (target : MonitorTarget) (checkedAt : Int) :
    ∃ code, code ≠ some .wrongRuntimeIdentity ∧
      Yields (checkDeployFence L target checkedAt) .provider code := by
  have hyields (failure : Option FailureCode) {summary : String} (h : NonBlank summary) :
      Yields (providerObservation target failure summary).validate .provider failure :=
    (checked_providerObservation target failure h).yields
  unfold checkDeployFence
  split
  · refine ⟨_, by simp, hyields (some .deployFenceHeld) ?_⟩
    simp only [String.append_assoc]
    exact NonBlank.append_left (nonBlank_of_head rfl) _
  · dsimp only
    split
    · exact ⟨_, by simp, hyields (some .deployFenceHeld) (nonBlank_snapshotSummary _ _ _)⟩
    · exact ⟨_, by simp, hyields none (by decide +kernel)⟩
  · exact ⟨_, by simp, hyields none (by exact nonBlank_of_head rfl)⟩
  · split
    · exact ⟨_, by simp, hyields none (by exact nonBlank_of_head rfl)⟩
    · split
      · refine ⟨_, by simp, hyields (some .deployFenceHeld) ?_⟩
        simp only [String.append_assoc]
        exact NonBlank.append_left (nonBlank_of_head rfl) _
      · refine ⟨_, by simp, hyields (some .deployFenceHeld) ?_⟩
        simp only [String.append_assoc]
        exact NonBlank.append_left (nonBlank_of_head rfl) _

theorem yields_provider {P : Probe} (h : P.target.checkKind = .provider) :
    ∃ code, code ≠ some .wrongRuntimeIdentity ∧ Yields (checkUrl L P kind url) .provider code := by
  unfold checkUrl
  rw [h]
  dsimp only
  split
  · exact yields_checkDeployFence _ _
  · refine ⟨some .providerCheckUnavailable, by simp,
      (checked_providerObservation P.target (some .providerCheckUnavailable) ?_).yields⟩
    simp only [String.append_assoc]
    exact NonBlank.append_left (nonBlank_of_head rfl) _

/-! ### Resolvers -/

theorem answeredAddresses_ok {answer : DnsAnswer} {addresses : List String}
    (h : answeredAddresses L answer = .ok addresses) :
    addresses ≠ [] ∧ L.publicDnsAddresses addresses = some addresses := by
  cases answer with
  | addresses values =>
    rw [answeredAddresses] at h
    cases hvalues : L.publicDnsAddresses values with
    | none => simp [hvalues] at h
    | some found =>
      cases found with
      | nil => simp [hvalues] at h
      | cons first rest =>
        simp only [hvalues, Except.ok.injEq] at h
        subst h
        exact ⟨by simp, L.publicDnsAddresses_idem hvalues⟩
  | destinationError code => cases h
  | otherError => cases h

/-- Whatever a resolver does, it is observed. -/
theorem observeDns_ok {answer : DnsAnswer} {item : DnsExpectedTarget}
    (hname : L.publicDnsName item.publicName = some item.publicName)
    (haddresses : L.publicDnsAddresses item.addresses = some item.addresses)
    (hlength : 1 ≤ item.addresses.length ∧ item.addresses.length ≤ 32) :
    ∃ dns, observeDns L answer item = .ok dns := by
  have hbounds : ¬(item.addresses.length < 1 ∨ 32 < item.addresses.length) := by omega
  unfold observeDns
  cases hanswer : answeredAddresses L answer with
  | error code =>
    refine ⟨{ publicName := item.publicName, status := .unavailable
              expectedAddresses := item.addresses, failureCode := some code }, ?_⟩
    simp only [DnsObservation.validate, hname, haddresses, L.publicDnsAddresses_nil]
    rw [raiseIf_of_not hbounds, raiseIf_of_not (by simp), raiseIf_of_not (by simp),
      raiseIf_of_not (by simp)]
    rfl
  | ok addresses =>
    obtain ⟨hne, hself⟩ := answeredAddresses_ok hanswer
    refine ⟨{ publicName := item.publicName
              status := if addresses = item.addresses then .matched else .mismatch
              expectedAddresses := item.addresses, observedAddresses := addresses }, ?_⟩
    simp only [DnsObservation.validate, hname, haddresses, hself]
    by_cases hsame : addresses = item.addresses
    · rw [raiseIf_of_not hbounds, raiseIf_of_not (by simp [hsame]), raiseIf_of_not (by simp [hne]),
        raiseIf_of_not (by simp [hsame])]
      rfl
    · rw [raiseIf_of_not hbounds, raiseIf_of_not (by simp [hsame]), raiseIf_of_not (by simp [hne]),
        raiseIf_of_not (by simp [hsame])]
      rfl

/-- What the record reads of an observation is as the check of the URL has left it. -/
theorem Yields.observeUrl {P : Probe} (hP : Discovered L P.target) {code : Option FailureCode}
    {shown : TargetKind} (h : Yields (checkUrl L P kind url) shown code) :
    Yields (observeUrl L P kind url) shown code := by
  obtain ⟨observation, hcheck, hsound, hcode⟩ := h
  have hdns : ∃ observed, withDns L P url observation = .ok observed ∧ Sound shown observed ∧
      observed.failureCode = code := by
    unfold withDns
    cases hitem : dnsExpectation L P url with
    | none => exact ⟨observation, rfl, hsound, hcode⟩
    | some item =>
      have hmem : item ∈ P.target.expectedDnsTargets := by
        unfold dnsExpectation at hitem
        split at hitem
        · exact List.mem_of_find?_eq_some hitem
        · cases hitem
      obtain ⟨hname, haddresses, hlength⟩ := hP.dns item hmem
      obtain ⟨dns, hok⟩ := @observeDns_ok L (P.dnsGet url) item hname haddresses hlength
      dsimp only
      rw [hok]
      exact ⟨{ observation with dns := some dns }, rfl,
        ⟨hsound.target, hsound.url, hsound.summary, hsound.status⟩, hcode⟩
  obtain ⟨observed, hok, hsound', hcode'⟩ := hdns
  refine ⟨withCustody P.target observed, ?_, ?_, ?_⟩
  · rw [HealthProbe.observeUrl, hcheck]
    show withDns L P url observation >>= _ = _
    rw [hok]
    rfl
  · unfold withCustody
    split
    · exact ⟨hsound'.target, hsound'.url, hsound'.summary, hsound'.status⟩
    · exact hsound'
  · unfold withCustody
    split <;> exact hcode'

theorem observeUrl_error {P : Probe} {message : String}
    (h : checkUrl L P kind url = .error message) : observeUrl L P kind url = .error message := by
  rw [observeUrl, h]
  rfl

/-! ### The URLs of a target -/

theorem observeUrl_refused {P : Probe} (hP : Discovered L P.target)
    (hprovider : P.target.checkKind ≠ .provider) (h : StatusRefused L P url) :
    ∃ message, observeUrl L P kind url = .error message :=
  ⟨_, observeUrl_error (checkUrl_refused hP hprovider h)⟩

/-- A base URL never shows a wrong identity, and fails exactly when it is not answered well, unless
it is the health URL at once. -/
theorem observe_baseUrl {P : Probe} (hP : Discovered L P.target)
    (hprovider : P.target.checkKind ≠ .provider) (hurl : NonBlank url)
    (hstatus : ¬StatusRefused L P url) :
    ∃ code, Yields (observeUrl L P .baseUrl url) .baseUrl code ∧
      code ≠ some .wrongRuntimeIdentity ∧
      (url ≠ P.target.healthUrl → (code = none ↔ answeredWell L P url ≠ none)) := by
  cases hwell : answeredWell L P url with
  | none =>
    obtain ⟨code, hcode, hyields⟩ := yieldsFailure_checkUrl hP hprovider
      (show TargetKind.baseUrl ≠ .tlsDomain by decide) hurl hstatus hwell
    exact ⟨some code, hyields.observeUrl hP, by simpa using hcode, by simp⟩
  | some observation =>
    have hcheck := @checkUrl_answered L .baseUrl url P hP hprovider observation hwell
    have hyields := @yields_succeeded P.target
      (answeredObservation L P.target .baseUrl url observation)
      (checked_answeredObservation (by decide) hurl P.target observation) .unchecked "" none
    have hspec := (dependencyFailure_spec
      (answeredObservation L P.target .baseUrl url observation).dependencyHealth
      (nonBlank_successfulTargetSummary P.target)).2
    rw [if_neg (show ¬TargetKind.baseUrl.isHealthUrl = true by decide)] at hcheck
    rw [← hcheck] at hyields
    refine ⟨_, hyields.observeUrl hP, hspec, fun hne => ?_⟩
    have hevidence : (answeredObservation L P.target .baseUrl url observation).dependencyHealth =
        none := by
      show dependencyEvidence P.target .baseUrl url observation = none
      simp [dependencyEvidence, isHealthResponse, TargetKind.isHealthUrl, hne]
    rw [hevidence]
    simp [dependencyFailure]

/-- A health URL shows a wrong identity exactly in an answer that has one, and raises where the
identity cannot be read. -/
theorem observe_healthUrl {P : Probe} (hP : Discovered L P.target)
    (hprovider : P.target.checkKind ≠ .provider) (hkind : kind.isHealthUrl = true)
    (hurl : NonBlank url) :
    ((∃ observation ∈ answeredWell L P url, IdentityUnread L P.target observation) →
      ∃ message, observeUrl L P kind url = .error message) ∧
    (¬StatusRefused L P url →
      (∀ observation ∈ answeredWell L P url, ¬IdentityUnread L P.target observation) →
      ∃ code, Yields (observeUrl L P kind url) kind code ∧
        (code = some .wrongRuntimeIdentity ↔
          ∃ observation ∈ answeredWell L P url, IdentityWrong L P.target observation)) := by
  have hne : kind ≠ .tlsDomain := by
    rintro rfl
    cases hkind
  cases hwell : answeredWell L P url with
  | none =>
    refine ⟨by simp, fun hstatus _ => ?_⟩
    obtain ⟨code, hcode, hyields⟩ := yieldsFailure_checkUrl hP hprovider hne hurl hstatus hwell
    exact ⟨some code, hyields.observeUrl hP, by simpa using hcode⟩
  | some observation =>
    have hcheck := @checkUrl_answered L kind url P hP hprovider observation hwell
    rw [if_pos hkind] at hcheck
    refine ⟨?_, fun _ hread => ?_⟩
    · rintro ⟨_, ⟨⟩, hunread⟩
      obtain ⟨message, herror⟩ := @checkIdentity_unread L P.target
        (answeredObservation L P.target kind url observation) observation hunread
      exact ⟨message, observeUrl_error (hcheck.trans herror)⟩
    · obtain ⟨code, hyields, hcode⟩ := checkIdentity_read
        (checked_answeredObservation hne hurl P.target observation) rfl (hread observation rfl)
      rw [← hcheck] at hyields
      refine ⟨code, hyields.observeUrl hP, hcode.trans ?_⟩
      simp

end Launchplane.HealthProbe
