import Launchplane.Outbox.Notification

/-!
# Launchplane.Outbox.NotificationConduct

**The handler of notifications keeps to the protocol.** The point of the
argument is where a marker is given back: only before anything was sent, or after
Discord refused it (`sendNotification_conducts`, `directOutcome_reports`).
-/

namespace Launchplane.Outbox

open Launchplane.Interaction

variable {w : LeaseOwner} {copy : OutboxDeliveryRecord}

/-! ### Ways out -/

/-- A result that ends the delivery of a copy. -/
def Ends (copy result : OutboxDeliveryRecord) : Prop := CopyOf copy result ∧ result.state.Terminal

theorem ends_failed (record : OutboxDeliveryRecord) (errorCode : String) :
    Ends record (failedDelivery record errorCode) := ⟨⟨rfl, rfl, rfl, rfl⟩, .inr rfl⟩

theorem ends_superseded {record result : OutboxDeliveryRecord} {reason : String}
    (h : supersededDelivery record reason = .ok result) : Ends record result := by
  unfold supersededDelivery at h
  split at h
  · obtain rfl := Except.ok.inj h
    exact ends_failed _ _
  · obtain ⟨attemptPayload, -, h⟩ := bind_eq_ok.mp h
    obtain ⟨attempt, -, h⟩ := bind_eq_ok.mp h
    obtain rfl := Except.ok.inj h
    exact ⟨⟨rfl, rfl, rfl, rfl⟩, .inl rfl⟩

theorem ends_retired (record : OutboxDeliveryRecord) : Ends record (retiredSummary record) := by
  refine ⟨⟨rfl, rfl, rfl, rfl⟩, ?_⟩
  by_cases h : record.providerOperationKey = "" <;>
    simp [retiredSummary, h, OutboxDeliveryState.Terminal]

/-- After an exception the delivery ends, or is tried again with the record as it was. -/
theorem notificationFailure_eq_ok {record result : OutboxDeliveryRecord} {error : OutboxError}
    (h : notificationFailure record error = .ok result) :
    Ends record result ∨ CopyOf record result ∧
      result.providerOperationKey = record.providerOperationKey ∧ ∀ m, error ≠ .value m := by
  unfold notificationFailure at h
  split at h
  · exact .inl (ends_superseded h)
  · obtain rfl := Except.ok.inj h
    exact .inl (ends_failed _ _)
  · rename_i hvalue
    obtain rfl := Except.ok.inj h
    exact .inr ⟨copyOf_retry _ _, rfl, fun m heq => hvalue m heq⟩

/-! ### Screening -/

theorem matchingResolution_quiet (incident : PublicIngressIncidentRecord)
    (attempt destination : Dict String JsonValue) :
    Act.Only OutboxCall.Quiet (matchingResolution incident attempt destination) := by
  refine Act.only_ite ?_ (Act.only_pure _)
  refine Act.only_bind (Act.only_ofExcept _) fun kind =>
    Act.only_bind (Act.only_perform trivial) fun attempts =>
    Act.only_bind (Act.only_ofExcept _) fun policyId =>
    Act.only_bind (Act.only_ofExcept _) fun destinationId => ?_
  refine Act.only_ite (Act.only_pure _) (Act.only_ite ?_ (Act.only_pure _))
  exact Act.only_bind (Act.only_perform trivial) fun deliveries => Act.only_ofExcept _

/-- What the screening ends is at its end. -/
def Screened.Keeps (copy : OutboxDeliveryRecord) : Screened → Prop
  | .ends result => Ends copy result
  | _ => True

theorem screenNotification_quiet (record : OutboxDeliveryRecord) :
    Act.Only OutboxCall.Quiet (screenNotification record) := by
  refine Act.only_ite (Act.only_pure _) ?_
  refine Act.only_bind (Act.only_ofExcept _) fun attempt =>
    Act.only_bind (Act.only_ofExcept _) fun destination =>
    Act.only_bind (Act.only_perform trivial) fun incident =>
    Act.only_bind (Act.only_ofExcept _) fun event =>
    Act.only_bind (matchingResolution_quiet _ _ _) fun matching => ?_
  split
  · exact Act.only_bind (Act.only_ofExcept _) fun result => Act.only_pure _
  · exact Act.only_ite (Act.only_bind (Act.only_ofExcept _) fun result => Act.only_pure _)
      (Act.only_ite (Act.only_pure _) (Act.only_pure _))

theorem screenNotification_keeps (record : OutboxDeliveryRecord) :
    Act.Gives (Screened.Keeps record) (screenNotification record) := by
  refine Act.gives_ite (fun _ => Act.gives_pure (ends_retired record)) fun _ => ?_
  refine Act.gives_bind_any fun attempt => Act.gives_bind_any fun destination =>
    Act.gives_bind_any fun incident => Act.gives_bind_any fun event =>
    Act.gives_bind_any fun matching => ?_
  have hends : ∀ reason, Act.Gives (Screened.Keeps record)
      ((do
        let result ← Act.ofExcept (supersededDelivery record reason)
        return .ends result) : WorkerProgram Screened) := fun reason =>
    Act.gives_bind (Act.gives_ofExcept fun _ => ends_superseded) fun result hresult =>
      Act.gives_pure hresult
  split
  · exact hends _
  · exact Act.gives_ite (fun _ => hends _) fun _ =>
      Act.gives_ite (fun _ => Act.gives_pure trivial) fun _ => Act.gives_pure trivial

/-! ### E-mail and Discord -/

/-- A plan comes with nothing sent; what ends before it is at its end. -/
def DirectKeeps (copy : OutboxDeliveryRecord) : OutboxDeliveryRecord ⊕ DirectPlan → Prop
  | .inl result => Ends copy result
  | .inr _ => True

theorem planDirect_quiet (record : OutboxDeliveryRecord)
    (attempt destination : Dict String JsonValue) :
    Act.Only OutboxCall.Quiet (planDirect record attempt destination) := by
  refine Act.only_bind (Act.only_perform trivial) fun incident =>
    Act.only_bind (Act.only_ite (Act.only_pure _) (Act.only_ofExcept _)) fun observationId =>
    Act.only_bind (Act.only_perform trivial) fun observation => Act.only_ite ?_ ?_
  · exact Act.only_bind (Act.only_ofExcept _) fun result => Act.only_pure _
  · refine Act.only_bind (Act.only_ofExcept _) fun event =>
      Act.only_bind (Act.only_ofExcept _) fun body =>
      Act.only_bind (Act.only_perform trivial) fun policies => ?_
    split
    · exact Act.only_pure _
    · exact Act.only_bind (Act.only_ofExcept _) fun operationKey => Act.only_pure _

theorem planDirect_keeps (record : OutboxDeliveryRecord)
    (attempt destination : Dict String JsonValue) :
    Act.Gives (DirectKeeps record) (planDirect record attempt destination) := by
  refine Act.gives_bind_any fun incident => Act.gives_bind_any fun observationId =>
    Act.gives_bind_any fun observation => Act.gives_ite ?_ ?_
  · exact fun _ => Act.gives_bind (Act.gives_ofExcept fun _ => ends_superseded)
      fun result hresult => Act.gives_pure hresult
  · refine fun _ => Act.gives_bind_any fun event => Act.gives_bind_any fun body =>
      Act.gives_bind_any fun policies => ?_
    split
    · exact Act.gives_pure (ends_failed _ _)
    · exact Act.gives_bind_any fun operationKey => Act.gives_pure trivial

/-- A failure whose outcome is known leaves nothing sent. -/
def SendSettled (copy : OutboxDeliveryRecord) (delivery : NotificationDelivery)
    (stage : WorkerStage) : Prop :=
  stage.copy = some copy ∧
    (delivery.deliveryStatus = .failed → delivery.outcomeUnknown = false → stage.Unsent)

theorem deliverEmail_quiet (destination : NotificationDestination) :
    Act.Only OutboxCall.Quiet (deliverEmail destination) := by
  refine Act.only_bind (Act.only_perform trivial) fun username =>
    Act.only_bind (Act.only_perform trivial) fun password => Act.only_ite (Act.only_pure _) ?_
  exact Act.only_bind (Act.only_perform trivial) fun _ => Act.only_pure _

theorem postDiscord_conducts {webhookUrl : String} (hkey : copy.providerOperationKey = "")
    (hkind : copy.kind = .publicIngressNotification) :
    (outboxProtocol w).Conducts (postDiscord copy.deliveryId webhookUrl) (SendSettled copy)
      (fun _ _ => False) (.marked copy) := by
  unfold postDiscord
  rw [Protocol.conducts_tryCatch, Protocol.conducts_bind, conducts_ask]
  refine ⟨⟨copy, rfl, rfl, hkind⟩, ?_, ?_⟩
  · intro _
    rw [Protocol.conducts_bind, conducts_ask]
    refine ⟨⟨copy, rfl, rfl⟩, ?_, ?_⟩
    · intro answer
      have hstripped : pyStrip copy.providerOperationKey = "" := by rw [hkey]; decide
      cases answer with
      | posted => exact (Protocol.conducts_pure _).mpr ⟨rfl, by simp⟩
      | notSent => exact (Protocol.conducts_pure _).mpr ⟨rfl, fun _ _ => ⟨hstripped, rfl, rfl⟩⟩
      | status code =>
          refine (Protocol.conducts_pure _).mpr ⟨rfl, fun _ hknown => ⟨hstripped, rfl, ?_⟩⟩
          simpa using hknown
      | raised => exact (Protocol.conducts_pure _).mpr ⟨rfl, by simp [DiscordAnswer.refused]⟩
    · intro _
      exact (Protocol.conducts_pure _).mpr ⟨rfl, by simp⟩
  · intro _
    exact (Protocol.conducts_pure _).mpr ⟨rfl, by simp⟩

/-- Before the webhook is called, nothing was sent. -/
theorem sendSettled_marked (hkey : copy.providerOperationKey = "")
    (delivery : NotificationDelivery) : SendSettled copy delivery (.marked copy) := by
  refine ⟨rfl, fun _ _ => ?_⟩
  show pyStrip copy.providerOperationKey = ""
  rw [hkey]
  decide

theorem deliverDiscord_conducts {destination : NotificationDestination}
    {event : PublicIngressIncidentEvent} {incident : PublicIngressIncidentRecord}
    (hkey : copy.providerOperationKey = "") (hkind : copy.kind = .publicIngressNotification) :
    (outboxProtocol w).Conducts (deliverDiscord copy.deliveryId destination event incident)
      (SendSettled copy) (fun _ stage => stage = .marked copy) (.marked copy) := by
  unfold deliverDiscord
  split
  · exact (Protocol.conducts_pure _).mpr (sendSettled_marked hkey _)
  · rw [Protocol.conducts_bind, conducts_ask]
    refine ⟨trivial, ?_, fun _ => rfl⟩
    intro secret
    split
    · exact (Protocol.conducts_pure _).mpr (sendSettled_marked hkey _)
    · rw [Protocol.conducts_bind, conducts_ask]
      refine ⟨trivial, ?_, fun _ => rfl⟩
      intro urlError
      split
      · exact (Protocol.conducts_pure _).mpr (sendSettled_marked hkey _)
      · exact Protocol.conducts_mono (postDiscord_conducts hkey hkind) (fun _ _ h => h)
          (fun _ _ h => h.elim)

/-- **Where a marker may be given back**: a failure with a known outcome was before the send, or a
refusal of it. -/
theorem sendNotification_conducts {destination : NotificationDestination}
    {event : PublicIngressIncidentEvent} {incident : PublicIngressIncidentRecord}
    (hkey : copy.providerOperationKey = "") (hkind : copy.kind = .publicIngressNotification) :
    (outboxProtocol w).Conducts (sendNotification copy.deliveryId destination event incident)
      (SendSettled copy) (fun _ _ => False) (.marked copy) := by
  unfold sendNotification
  rw [Protocol.conducts_tryCatch]
  have hcatch : ∀ error : OutboxError, ∀ stage, stage = .marked copy →
      (outboxProtocol w).Conducts
        (return { deliveryStatus := .failed, action := "provider_error" } :
          WorkerProgram NotificationDelivery) (SendSettled copy) (fun _ _ => False) stage := by
    rintro error _ rfl
    exact (Protocol.conducts_pure _).mpr (sendSettled_marked hkey _)
  split
  · refine Protocol.conducts_mono
      (conducts_quiet (deliverEmail_quiet destination) (Act.gives_any _)) ?_ hcatch
    rintro delivery _ ⟨rfl, -⟩
    exact sendSettled_marked hkey _
  · exact Protocol.conducts_mono (deliverDiscord_conducts hkey hkind) (fun _ _ h => h) hcatch
  · exact (Protocol.conducts_pure _).mpr (sendSettled_marked hkey _)

/-- The outcome of a settled send may be reported. -/
theorem directOutcome_reports {plan : DirectPlan} {delivery : NotificationDelivery}
    {stage : WorkerStage} {result : OutboxDeliveryRecord} (hsettled : SendSettled copy delivery stage)
    (h : directOutcome copy plan delivery = .ok result) : stage.Reports copy result := by
  obtain ⟨attempt, -, h⟩ := bind_eq_ok.mp h
  obtain rfl := Except.ok.inj h
  refine ⟨rfl, rfl, rfl, rfl, fun _ hopen _ => ?_⟩
  cases hunknown : delivery.outcomeUnknown with
  | true => exact absurd (.inr (by simp [hunknown])) hopen
  | false =>
      by_cases hfailed : delivery.deliveryStatus = .failed
      · exact hsettled.2 hfailed hunknown
      · exact absurd (.inl (by simp [hunknown, hfailed])) hopen

theorem valueErrors_directOutcome (record : OutboxDeliveryRecord) (plan : DirectPlan)
    (delivery : NotificationDelivery) : ValueErrorsOnly (directOutcome record plan delivery) :=
  valueErrors_bind (valueErrors_validateAttempt _) fun _ => valueErrors_ok _

/-- Where an exception leaves a direct delivery: nothing was sent, or the payload was at fault. -/
def DirectRaises (copy : OutboxDeliveryRecord) (error : OutboxError) (stage : WorkerStage) : Prop :=
  stage.copy = some copy ∧ (stage.Unsent ∨ ∃ m, error = .value m)

theorem directDelivery_conducts {attempt destination : Dict String JsonValue}
    {leaseOwner : String} (howner : pyStrip leaseOwner = w.text)
    (hkind : copy.kind = .publicIngressNotification) :
    (outboxProtocol w).Conducts
      (directDelivery copy attempt destination (markProviderStarted leaseOwner))
      (fun result stage => stage.copy = some copy ∧ stage.Reports copy result)
      (DirectRaises copy) (.holding copy) := by
  unfold directDelivery
  split
  · exact (Protocol.conducts_pure _).mpr
      ⟨rfl, .of_terminal (ends_failed _ _).1 (ends_failed _ _).2⟩
  · rename_i hkey
    rw [ne_eq, not_not] at hkey
    have hunsent : pyStrip copy.providerOperationKey = "" := by rw [hkey]; decide
    rw [Protocol.conducts_bind]
    refine Protocol.conducts_mono
      (conducts_quiet (planDirect_quiet _ _ _) (planDirect_keeps _ _ _)) ?_ ?_
    · rintro (result | plan) _ ⟨rfl, hkeeps⟩
      · exact (Protocol.conducts_pure _).mpr ⟨rfl, .of_terminal hkeeps.1 hkeeps.2⟩
      · dsimp only
        rw [Protocol.conducts_bind]
        refine Protocol.conducts_mono (conducts_markProviderStarted howner (.inr hkind) hkey rfl) ?_ ?_
        · rintro _ _ rfl
          rw [Protocol.conducts_bind]
          refine Protocol.conducts_mono (sendNotification_conducts hkey hkind) ?_
            (fun _ _ h => h.elim)
          intro delivery stage hsettled
          rw [Protocol.conducts_ofExcept]
          exact ⟨fun result h => ⟨hsettled.1, directOutcome_reports hsettled h⟩,
            fun error h => ⟨hsettled.1, .inr (valueErrors_directOutcome _ _ _ error h)⟩⟩
        · rintro error _ rfl
          exact ⟨rfl, .inl hunsent⟩
    · rintro error _ rfl
      exact ⟨rfl, .inl hunsent⟩

/-! ### GitHub issues -/

/-- A plan names its marker; what ends before it is at its end. -/
def IssueKeeps (copy : OutboxDeliveryRecord) : OutboxDeliveryRecord ⊕ IssuePlan → Prop
  | .inl result => Ends copy result ∨
      CopyOf copy result ∧ result.providerOperationKey = copy.providerOperationKey
  | .inr plan =>
    CopyOf copy plan.deliveryRecord ∧ pyStrip plan.deliveryRecord.providerOperationKey ≠ ""

theorem issueMarker_ne_empty (attemptId action : String) :
    pyStrip ("public_ingress_notification" ++ ":" ++ attemptId ++ ":" ++ action) ≠ "" := by
  have hletter : isPySpace 'p' = false := by decide
  have hmem : 'p' ∈ "public_ingress_notification".toList := by decide
  refine pyStrip_ne_empty (c := 'p') ?_ hletter
  simp only [String.toList_append, List.mem_append, hmem, true_or]

theorem ends_deliveredIssue {record result : OutboxDeliveryRecord}
    {attempt : Dict String JsonValue} {action marker : String} {response : JsonValue}
    (h : deliveredIssueDelivery record attempt action marker response = .ok result) :
    Ends record result := by
  obtain ⟨recorded, -, h⟩ := bind_eq_ok.mp h
  obtain rfl := Except.ok.inj h
  exact ⟨⟨rfl, rfl, rfl, rfl⟩, .inl rfl⟩

theorem ends_skippedIssue {record result : OutboxDeliveryRecord} {attempt : Dict String JsonValue}
    {marker : String} (h : skippedIssueDelivery record attempt marker = .ok result) :
    Ends record result := by
  obtain ⟨recorded, -, h⟩ := bind_eq_ok.mp h
  obtain rfl := Except.ok.inj h
  exact ⟨⟨rfl, rfl, rfl, rfl⟩, .inl rfl⟩

theorem planIssue_quiet (record : OutboxDeliveryRecord)
    (attempt destination : Dict String JsonValue) :
    Act.Only OutboxCall.Quiet (planIssue record attempt destination) := by
  refine Act.only_bind (Act.only_ofExcept _) fun destination =>
    Act.only_bind (Act.only_ofExcept _) fun body =>
    Act.only_bind (Act.only_ofExcept _) fun marker =>
    Act.only_bind (Act.only_ofExcept _) fun event =>
    Act.only_bind (Act.only_ite ?_ (Act.only_pure _)) fun existingIssueUrl => Act.only_ite ?_ ?_
  · exact Act.only_bind (Act.only_perform trivial) fun response => Act.only_pure _
  · exact Act.only_bind (Act.only_ofExcept _) fun result => Act.only_pure _
  · exact Act.only_pure _

theorem planIssue_keeps (record : OutboxDeliveryRecord)
    (attempt destination : Dict String JsonValue) :
    Act.Gives (IssueKeeps record) (planIssue record attempt destination) := by
  refine Act.gives_bind_any fun destination => Act.gives_bind_any fun body =>
    Act.gives_bind_any fun marker => Act.gives_bind_any fun event =>
    Act.gives_bind_any fun existingIssueUrl => Act.gives_ite ?_ ?_
  · exact fun _ => Act.gives_bind (Act.gives_ofExcept fun _ => ends_skippedIssue)
      fun result hresult => Act.gives_pure (.inl hresult)
  · exact fun _ => Act.gives_pure ⟨⟨rfl, rfl, rfl, rfl⟩, issueMarker_ne_empty _ _⟩

theorem concludeIssue_quiet (attempt : Dict String JsonValue) (plan : IssuePlan)
    (found : JsonValue) : Act.Only OutboxCall.Quiet (concludeIssue attempt plan found) := by
  refine Act.only_bind ?_ fun response => Act.only_ofExcept _
  exact Act.only_ite (Act.only_ite (Act.only_perform trivial) (Act.only_pure _))
    (Act.only_perform trivial)

theorem concludeIssue_ends (attempt : Dict String JsonValue) (plan : IssuePlan)
    (found : JsonValue) :
    Act.Gives (Ends plan.deliveryRecord) (concludeIssue attempt plan found) :=
  Act.gives_bind_any fun _ => Act.gives_ofExcept fun _ => ends_deliveredIssue

theorem writeIssue_conducts {attempt : Dict String JsonValue} {plan : IssuePlan}
    {leaseOwner : String} (howner : pyStrip leaseOwner = w.text)
    (hkind : copy.kind = .publicIngressNotification)
    (hid : plan.deliveryRecord.deliveryId = copy.deliveryId) :
    (outboxProtocol w).Conducts
      (writeIssue attempt plan (copy.providerOperationKey ≠ "") (markProviderStarted leaseOwner))
      (fun result stage => stage.copy = some copy ∧ Ends plan.deliveryRecord result)
      (fun _ stage => stage.copy = some copy) (.holding copy) := by
  have hconclude : ∀ found stage, WorkerStage.copy stage = some copy →
      (outboxProtocol w).Conducts (concludeIssue attempt plan found)
        (fun result stage => stage.copy = some copy ∧ Ends plan.deliveryRecord result)
        (fun _ stage => stage.copy = some copy) stage := by
    intro found stage hstage
    refine Protocol.conducts_mono
      (conducts_quiet (concludeIssue_quiet _ _ _) (concludeIssue_ends _ _ _)) ?_ ?_
    · rintro result _ ⟨rfl, hends⟩
      exact ⟨hstage, hends⟩
    · rintro _ _ rfl
      exact hstage
  unfold writeIssue
  by_cases hkey : copy.providerOperationKey = ""
  · simp only [hkey, ne_eq, not_true_eq_false, decide_false, Bool.false_eq_true, if_false,
      Protocol.conducts_bind]
    refine Protocol.conducts_mono (conducts_markProviderStarted howner (.inr hkind) hkey hid) ?_ ?_
    · rintro _ _ rfl
      exact hconclude _ _ rfl
    · rintro _ _ rfl
      rfl
  · simp only [hkey, ne_eq, not_false_eq_true, decide_true, if_true, Protocol.conducts_bind]
    refine Protocol.conducts_mono
      (conducts_quiet (Act.only_perform trivial) (Act.gives_any _)) ?_ ?_
    · rintro found _ ⟨rfl, -⟩
      exact hconclude _ _ rfl
    · rintro _ _ rfl
      rfl

theorem issueDelivery_conducts {attempt : Dict String JsonValue}
    {planned : OutboxDeliveryRecord ⊕ IssuePlan} {leaseOwner : String}
    (howner : pyStrip leaseOwner = w.text)
    (hkind : copy.kind = .publicIngressNotification) (hplanned : IssueKeeps copy planned) :
    (outboxProtocol w).Conducts
      (issueDelivery attempt copy planned (markProviderStarted leaseOwner))
      (fun result stage => stage.copy = some copy ∧ stage.Reports copy result)
      (fun _ _ => True) (.holding copy) := by
  unfold issueDelivery
  cases planned with
  | inl result =>
      refine (Protocol.conducts_pure _).mpr ⟨rfl, ?_⟩
      rcases hplanned with ⟨hcopy, hterminal⟩ | ⟨hcopy, hkey⟩
      · exact .of_terminal hcopy hterminal
      · exact .of_holding hcopy hkey
  | inr plan =>
      obtain ⟨hcopy, hmarker⟩ := hplanned
      dsimp only
      rw [Protocol.conducts_tryCatch]
      refine Protocol.conducts_mono (writeIssue_conducts howner hkind hcopy.id) ?_ ?_
      · rintro result stage ⟨hstage, hends, hterminal⟩
        exact ⟨hstage, .of_terminal (hcopy.trans hends) hterminal⟩
      · intro error stage hstage
        rw [Protocol.conducts_ofExcept]
        refine ⟨fun result h => ⟨hstage, ?_⟩, fun _ _ => trivial⟩
        rcases notificationFailure_eq_ok h with ⟨hends, hterminal⟩ | ⟨hsame, hkey, -⟩
        · exact .of_terminal (hcopy.trans hends) hterminal
        · exact .of_key (hcopy.trans hsame) (by rwa [hkey])

/-! ### The handler -/

/-- What an exception leads to while the worker still holds its copy and has asked for nothing. -/
theorem failure_of_holding {result : OutboxDeliveryRecord} {error : OutboxError}
    (h : notificationFailure copy error = .ok result) :
    (WorkerStage.holding copy).Reports copy result := by
  rcases notificationFailure_eq_ok h with ⟨hends, hterminal⟩ | ⟨hsame, hkey, -⟩
  · exact .of_terminal hends hterminal
  · exact .of_holding hsame hkey

/-- The handler of notifications keeps to the protocol. -/
theorem deliverNotification_conducts {leaseOwner : String}
    (howner : pyStrip leaseOwner = w.text) (hkind : copy.kind = .publicIngressNotification) :
    (outboxProtocol w).Conducts (deliverNotification copy (markProviderStarted leaseOwner))
      (fun result stage => stage.copy = some copy ∧ stage.Reports copy result)
      (fun _ _ => True) (.holding copy) := by
  unfold deliverNotification
  dsimp only
  rw [Protocol.conducts_bind, Protocol.conducts_tryCatch]
  refine Protocol.conducts_mono
    (conducts_quiet (screenNotification_quiet copy) (screenNotification_keeps copy)) ?_ ?_
  · rintro (result | ⟨attempt, destination⟩ | ⟨attempt, destination⟩) _ ⟨rfl, hkeeps⟩
    · exact (Protocol.conducts_pure _).mpr ⟨rfl, .of_terminal hkeeps.1 hkeeps.2⟩
    · dsimp only
      rw [Protocol.conducts_tryCatch]
      refine Protocol.conducts_mono (directDelivery_conducts howner hkind) (fun _ _ h => h) ?_
      rintro error stage ⟨hstage, hunsent⟩
      rw [Protocol.conducts_ofExcept]
      refine ⟨fun result h => ⟨hstage, ?_⟩, fun _ _ => trivial⟩
      rcases notificationFailure_eq_ok h with ⟨hends, hterminal⟩ | ⟨hsame, hkey, hvalue⟩
      · exact .of_terminal hends hterminal
      · rcases hunsent with hunsent | ⟨m, rfl⟩
        · exact .of_unsent hsame hunsent
        · exact absurd rfl (hvalue m)
    · dsimp only
      rw [Protocol.conducts_bind, Protocol.conducts_tryCatch]
      refine Protocol.conducts_mono
        (conducts_quiet (planIssue_quiet _ _ _) (planIssue_keeps _ _ _)) ?_ ?_
      · rintro planned _ ⟨rfl, hplanned⟩
        exact issueDelivery_conducts howner hkind hplanned
      · rintro error _ rfl
        rw [Protocol.conducts_bind, Protocol.conducts_ofExcept]
        refine ⟨fun result h => ?_, fun _ _ => trivial⟩
        refine (Protocol.conducts_pure _).mpr (issueDelivery_conducts howner hkind ?_)
        rcases notificationFailure_eq_ok h with hends | ⟨hsame, hkey, -⟩
        · exact .inl hends
        · exact .inr ⟨hsame, hkey⟩
  · rintro error _ rfl
    rw [Protocol.conducts_bind, Protocol.conducts_ofExcept]
    refine ⟨fun result h => ?_, fun _ _ => trivial⟩
    exact (Protocol.conducts_pure _).mpr ((Protocol.conducts_pure _).mpr
      ⟨rfl, failure_of_holding h⟩)

end Launchplane.Outbox
