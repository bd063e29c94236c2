import Launchplane.Outbox.Conduct

/-!
# Launchplane.Outbox.WorkflowDispatch

**The delivery of a workflow dispatch.** GitHub has no identity for a dispatch,
so a dispatch that was started is never repeated. The marker carries what is
needed to find the run it caused, and a worker that finds a marker looks for that
run only.
-/

namespace Launchplane.Outbox

open Launchplane.Interaction

/-- `_repository_parts`. -/
def repositoryParts (repository : String) : Except OutboxError (String × String) :=
  let text := (pyStrip repository).toList
  let owner := pyStrip (String.ofList (text.takeWhile (· ≠ '/')))
  let rest := text.dropWhile (· ≠ '/')
  let repo := pyStrip (String.ofList rest.tail)
  if rest = [] ∨ owner = "" ∨ repo = "" ∨ '/' ∈ repo.toList then
    .error (.click "GitHub repository must use owner/repo format." false)
  else .ok (owner, repo)

/-- A text the workflow dispatch needs. -/
def requiredDispatchText (payload : Dict String JsonValue) (key : String) :
    Except OutboxError String :=
  requiredPayloadText (.click ("outbox workflow dispatch payload missing " ++ key) false) payload key

/-- `_string_dict`. -/
def stringDict (value : JsonValue) : Dict String String :=
  match value with
  | .object fields => fields.map fun field => (field.1, field.2.str)
  | _ => []

/-- `_int_set`. -/
def intSet (value : JsonValue) : List Int :=
  match value with
  | .array items => items.filterMap fun item => match item with
    | .number n => some n
    | _ => none
  | _ => []

/-- `_int_value`. -/
def intValue (value : JsonValue) : Int :=
  match value with
  | .number n => n
  | _ => 0

/-- `_datetime_value`. -/
def datetimeValue (value : JsonValue) : Option Nat :=
  match value with
  | .number n => some n.toNat
  | _ => none

/-- `_string_value`. -/
def stringValue (value : JsonValue) : String :=
  match value with
  | .string s => pyStrip s
  | _ => ""

/-- `_bounded_observe_timeout`. -/
def boundedObserveTimeout (value : JsonValue) : Nat :=
  match value with
  | .number n => if 0 ≤ n ∧ n ≤ 60 then n.toNat else 0
  | _ => 0

/-- `_workflow_provider_operation_key`. -/
def workflowProviderOperationKey (repository workflowId ref : String) (dispatchStartedAt : Nat)
    (inputs : Dict String String) : String :=
  let sorted := inputs.insertionSort fun a b => a.1.toList ≤ b.1.toList
  "github_workflow_dispatch" ++ ":" ++ pyStrip repository ++ ":" ++ pyStrip workflowId ++ ":" ++
    pyStrip ref ++ ":" ++ toString dispatchStartedAt ++ ":" ++
      "|".intercalate (sorted.map fun input => input.1 ++ "=" ++ input.2)

/-- `_failed_outbox_delivery`. -/
def failedOutboxDelivery (record : OutboxDeliveryRecord) (errorCode : String) :
    OutboxDeliveryRecord :=
  { record with
    state := .failed
    errorCode := if pyStrip errorCode = "" then "provider_error" else pyStrip errorCode
    action := ""
    externalId := ""
    externalUrl := ""
    leaseOwner := ""
    leaseExpiresAt := none }

/-- `_delivered_workflow_outbox_delivery`. -/
def deliveredWorkflowDelivery (record : OutboxDeliveryRecord) (run : JsonValue) :
    OutboxDeliveryRecord :=
  let runStatus := stringValue (run.field "status")
  let runId := intValue (run.field "id")
  { record with
    state := .delivered
    providerId := "github"
    externalId := if runId = 0 then "" else toString runId
    externalUrl := stringValue (run.field "html_url")
    action := "dispatched_workflow"
    errorCode := ""
    payload := (record.payload.set "run_status"
      (.string (if runStatus = "" then "pending" else runStatus))).set "run_conclusion"
        (.string (stringValue (run.field "conclusion")))
    leaseOwner := ""
    leaseExpiresAt := none }

/-- `_provider_safe_error_code`. -/
def providerSafeErrorCode : OutboxError → String
  | .click _ false => "github_dispatch_invalid_request"
  | _ => "github_provider_error"

/-- The two `except` clauses: an invalid request fails, anything else is tried again. -/
def dispatchFailure (record : OutboxDeliveryRecord) (error : OutboxError) : OutboxDeliveryRecord :=
  match error with
  | .click _ false => failedOutboxDelivery record (providerSafeErrorCode error)
  | _ => retryOutboxDelivery record (providerSafeErrorCode error)

/-- What a dispatch is about. -/
structure WorkflowTarget where
  owner : String
  repo : String
  workflowId : String
  ref : String
  inputs : Dict String String
  credentialContext : String

/-- The target a payload names. -/
def workflowTarget (payload : Dict String JsonValue) : Except OutboxError WorkflowTarget := do
  let repository ← requiredDispatchText payload "repository"
  let (owner, repo) ← repositoryParts repository
  let workflowId ← requiredDispatchText payload "workflow_id"
  let ref ← requiredDispatchText payload "ref"
  let credentialContext ← requiredDispatchText payload "credential_context"
  return { owner, repo, workflowId, ref, inputs := stringDict (payloadField payload "inputs"),
           credentialContext }

namespace WorkflowTarget

/-- `_workflow_dispatch_runs`, of an answer. -/
def readRuns (answer : JsonValue) : Except OutboxError (List JsonValue) :=
  match answer with
  | .object _ => match answer.field "workflow_runs" with
    | .array items => .ok (items.filter fun run => match run with
      | .object _ => true
      | _ => false)
    | _ => .error (.click "GitHub workflow runs response is missing workflow_runs." false)
  | _ => .error (.click "GitHub workflow runs response must be an object." false)

/-- `_workflow_dispatch_runs`. -/
def runs (target : WorkflowTarget) : WorkerProgram (List JsonValue) := do
  let answer : JsonValue ←
    ask (.workflowRuns target.owner target.repo target.workflowId target.ref)
  Act.ofExcept (readRuns answer)

/-- `_workflow_dispatch_run_ids`. -/
def runIds (target : WorkflowTarget) : WorkerProgram (List Int) := do
  let runs ← target.runs
  return (runs.map fun run => intValue (run.field "id")).filter (· ≠ 0)

/-- `_latest_workflow_dispatch_run`: the only new run, if there is exactly one. -/
def latestRun (target : WorkflowTarget) (previousRunIds : List Int) (minCreatedAt : Nat) :
    WorkerProgram (Option JsonValue) := do
  let runs ← target.runs
  let newRuns := runs.filter fun run =>
    intValue (run.field "id") ≠ 0 && intValue (run.field "id") ∉ previousRunIds &&
      (datetimeValue (run.field "created_at")).any (minCreatedAt ≤ ·)
  match newRuns with
  | [run] => return some run
  | _ => return none

/-- `_wait_for_workflow_run`. Every round but the last sleeps for a second, so that the deadline has
passed after as many rounds as there are seconds. -/
def waitForRun (target : WorkflowTarget) (previousRunIds : List Int) (minCreatedAt : Nat) :
    Nat → WorkerProgram (Option JsonValue)
  | 0 => target.latestRun previousRunIds minCreatedAt
  | seconds + 1 => do
    let run ← target.latestRun previousRunIds minCreatedAt
    if run.isSome then return run
    else
      let reached : Bool ← ask .deadlineReached
      if reached then return none
      else target.waitForRun previousRunIds minCreatedAt seconds

end WorkflowTarget

/-- A dispatch that is ready to be started or looked for. -/
structure DispatchPlan where
  target : WorkflowTarget
  previousRunIds : List Int
  minCreatedAt : Nat
  deliveryRecord : OutboxDeliveryRecord

/-- The runs there are before the dispatch, and its time. -/
def dispatchEvidence (record : OutboxDeliveryRecord) (target : WorkflowTarget) :
    WorkerProgram (List Int × Nat × Dict String JsonValue) := do
  let payload := record.payload
  if record.providerOperationKey = "" then
    let previousRunIds ←
      (if "previous_run_ids" ∈ payload.keys then
        return intSet (payloadField payload "previous_run_ids")
      else target.runIds : WorkerProgram (List Int))
    let minCreatedAt ←
      (match datetimeValue (payloadField payload "dispatch_started_at") with
      | some startedAt => return startedAt
      | none => ask .utcNow : WorkerProgram Nat)
    return (previousRunIds, minCreatedAt,
      (payload.set "previous_run_ids"
        (.array ((previousRunIds.mergeSort (· ≤ ·)).map .number))).set "dispatch_started_at"
          (.number minCreatedAt))
  else
    return (intSet (payloadField payload "previous_run_ids"),
      (datetimeValue (payloadField payload "dispatch_started_at")).getD record.createdAt, payload)

/-- The delivery up to its marker: it ends here, or there is a plan. -/
def planDispatch (record : OutboxDeliveryRecord) :
    WorkerProgram (OutboxDeliveryRecord ⊕ DispatchPlan) := do
  let target ← Act.ofExcept (workflowTarget record.payload)
  let token : String ←
    ask (.resolveToken target.credentialContext (target.owner ++ "/" ++ target.repo))
  if token = "" then
    if record.providerOperationKey ≠ "" then
      return .inl (retryOutboxDelivery record "missing_managed_github_token")
    else return .inl (failedOutboxDelivery record "missing_managed_github_token")
  else
    let (previousRunIds, minCreatedAt, payload) ← dispatchEvidence record target
    let providerOperationKey := workflowProviderOperationKey (target.owner ++ "/" ++ target.repo)
      target.workflowId target.ref minCreatedAt target.inputs
    if record.providerOperationKey ≠ "" ∧ record.providerOperationKey ≠ providerOperationKey then
      return .inl (failedOutboxDelivery record "provider_marker_mismatch")
    else
      return .inr {
        target, previousRunIds, minCreatedAt
        deliveryRecord := { record with providerOperationKey, providerId := "github", payload } }

/-- What is reported of a run that was found, or was not. -/
def dispatchReport (record : OutboxDeliveryRecord) (run : Option JsonValue)
    (action errorCode : String) : OutboxDeliveryRecord :=
  match run with
  | some run => deliveredWorkflowDelivery record run
  | none => { record with state := .reconcileRequired, action, errorCode }

/-- The delivery from its marker on. -/
def sendDispatch (plan : DispatchPlan) (reconciling : Bool)
    (mark : OutboxDeliveryRecord → String → String → WorkerProgram Unit) :
    WorkerProgram OutboxDeliveryRecord := do
  let record := plan.deliveryRecord
  if reconciling then
    let existing ← plan.target.latestRun plan.previousRunIds plan.minCreatedAt
    return dispatchReport record existing "workflow_dispatch_in_doubt" "workflow_run_not_observed"
  else
    mark record record.providerOperationKey "github"
    let _ : Unit ← ask (.startDispatch record.deliveryId plan.target.owner plan.target.repo
      plan.target.workflowId plan.target.ref plan.target.inputs)
    let _ : Unit ← ask (.dispatchAnswer record.deliveryId)
    let run ← plan.target.waitForRun plan.previousRunIds plan.minCreatedAt
      (boundedObserveTimeout (payloadField record.payload "observe_timeout_seconds"))
    return dispatchReport record run "workflow_dispatch_sent" record.errorCode

/-- `dispatch_generic_web_promotion_workflow_delivery`. -/
def dispatchWorkflowDelivery (record : OutboxDeliveryRecord)
    (mark : OutboxDeliveryRecord → String → String → WorkerProgram Unit) :
    WorkerProgram OutboxDeliveryRecord := do
  let plan ← tryCatch (planDispatch record) fun error => return .inl (dispatchFailure record error)
  match plan with
  | .inl result => return result
  | .inr plan =>
    -- from here on an exception finds the record that carries the marker
    tryCatch (sendDispatch plan (record.providerOperationKey ≠ "") mark) fun error =>
      return dispatchFailure plan.deliveryRecord error

/-! ### The protocol -/

/-- The marker of a dispatch is not blank. -/
theorem workflowProviderOperationKey_ne_empty (repository workflowId ref : String)
    (dispatchStartedAt : Nat) (inputs : Dict String String) :
    pyStrip (workflowProviderOperationKey repository workflowId ref dispatchStartedAt inputs) ≠ "" := by
  have hletter : isPySpace 'g' = false := by decide
  have hmem : 'g' ∈ "github_workflow_dispatch".toList := by decide
  refine pyStrip_ne_empty (c := 'g') ?_ hletter
  unfold workflowProviderOperationKey
  simp only [String.toList_append, List.mem_append, hmem, true_or]

theorem copyOf_failed (record : OutboxDeliveryRecord) (errorCode : String) :
    CopyOf record (failedOutboxDelivery record errorCode) := ⟨rfl, rfl, rfl, rfl⟩

theorem copyOf_dispatchFailure (record : OutboxDeliveryRecord) (error : OutboxError) :
    CopyOf record (dispatchFailure record error) ∧
      (dispatchFailure record error).providerOperationKey = record.providerOperationKey := by
  unfold dispatchFailure
  split
  · exact ⟨copyOf_failed _ _, rfl⟩
  · exact ⟨copyOf_retry _ _, rfl⟩

theorem copyOf_dispatchReport (record : OutboxDeliveryRecord) (run : Option JsonValue)
    (action errorCode : String) :
    CopyOf record (dispatchReport record run action errorCode) ∧
      (dispatchReport record run action errorCode).providerOperationKey =
        record.providerOperationKey := by
  cases run <;> exact ⟨⟨rfl, rfl, rfl, rfl⟩, rfl⟩

namespace WorkflowTarget

variable (target : WorkflowTarget)

theorem runs_quiet : Act.Only OutboxCall.Quiet target.runs :=
  Act.only_bind (Act.only_perform trivial) fun _ => Act.only_ofExcept _

theorem runIds_quiet : Act.Only OutboxCall.Quiet target.runIds :=
  Act.only_bind target.runs_quiet fun _ => Act.only_pure _

theorem latestRun_quiet (previousRunIds : List Int) (minCreatedAt : Nat) :
    Act.Only OutboxCall.Quiet (target.latestRun previousRunIds minCreatedAt) := by
  refine Act.only_bind target.runs_quiet fun runs => ?_
  dsimp only
  split <;> exact Act.only_pure _

theorem waitForRun_quiet (previousRunIds : List Int) (minCreatedAt seconds : Nat) :
    Act.Only OutboxCall.Quiet (target.waitForRun previousRunIds minCreatedAt seconds) := by
  induction seconds with
  | zero => exact target.latestRun_quiet _ _
  | succ seconds ih =>
      refine Act.only_bind (target.latestRun_quiet _ _) fun run => Act.only_ite (Act.only_pure _) ?_
      exact Act.only_bind (Act.only_perform trivial) fun _ => Act.only_ite (Act.only_pure _) ih

end WorkflowTarget

/-- A delivery that ends before its marker keeps what it has of one; a plan has one. -/
def PlanKeeps (record : OutboxDeliveryRecord) : OutboxDeliveryRecord ⊕ DispatchPlan → Prop
  | .inl result =>
    CopyOf record result ∧ result.providerOperationKey = record.providerOperationKey
  | .inr plan =>
    CopyOf record plan.deliveryRecord ∧ pyStrip plan.deliveryRecord.providerOperationKey ≠ ""

theorem dispatchEvidence_quiet (record : OutboxDeliveryRecord) (target : WorkflowTarget) :
    Act.Only OutboxCall.Quiet (dispatchEvidence record target) := by
  refine Act.only_ite (Act.only_bind ?_ fun _ => Act.only_bind ?_ fun _ => Act.only_pure _)
    (Act.only_pure _)
  · exact Act.only_ite (Act.only_pure _) target.runIds_quiet
  · split
    · exact Act.only_pure _
    · exact Act.only_perform trivial

theorem planDispatch_quiet (record : OutboxDeliveryRecord) :
    Act.Only OutboxCall.Quiet (planDispatch record) := by
  refine Act.only_bind (Act.only_ofExcept _) fun target =>
    Act.only_bind (Act.only_perform trivial) fun token => Act.only_ite ?_ ?_
  · exact Act.only_ite (Act.only_pure _) (Act.only_pure _)
  · refine Act.only_bind (dispatchEvidence_quiet record target) fun evidence => ?_
    exact Act.only_ite (Act.only_pure _) (Act.only_pure _)

theorem planDispatch_keeps (record : OutboxDeliveryRecord) :
    Act.Gives (PlanKeeps record) (planDispatch record) := by
  refine Act.gives_bind_any fun target => Act.gives_bind_any fun token => Act.gives_ite ?_ ?_
  · exact fun _ => Act.gives_ite (fun _ => Act.gives_pure ⟨copyOf_retry _ _, rfl⟩)
      fun _ => Act.gives_pure ⟨copyOf_failed _ _, rfl⟩
  · refine fun _ => Act.gives_bind_any fun evidence => Act.gives_ite ?_ ?_
    · exact fun _ => Act.gives_pure ⟨copyOf_failed _ _, rfl⟩
    · exact fun _ => Act.gives_pure
        ⟨⟨rfl, rfl, rfl, rfl⟩, workflowProviderOperationKey_ne_empty _ _ _ _ _⟩

variable {w : LeaseOwner}

/-- **From the marker on**: a dispatch is started once, under a marker that was stored, and every
way out keeps the marker. -/
theorem sendDispatch_conducts {copy : OutboxDeliveryRecord} {plan : DispatchPlan}
    {leaseOwner : String} (howner : pyStrip leaseOwner = w.text)
    (hkind : copy.kind = .githubWorkflowDispatch) (hplan : PlanKeeps copy (.inr plan)) :
    (outboxProtocol w).Conducts
      (sendDispatch plan (copy.providerOperationKey ≠ "") (markProviderStarted leaseOwner))
      (fun result stage => stage.copy = some copy ∧ CopyOf copy result ∧
        pyStrip result.providerOperationKey ≠ "")
      (fun _ stage => stage.copy = some copy) (.holding copy) := by
  obtain ⟨hcopy, hmarker⟩ := hplan
  have hreport : ∀ run action errorCode,
      CopyOf copy (dispatchReport plan.deliveryRecord run action errorCode) ∧
        pyStrip (dispatchReport plan.deliveryRecord run action errorCode).providerOperationKey
          ≠ "" := by
    intro run action errorCode
    obtain ⟨hsame, hkey⟩ := copyOf_dispatchReport plan.deliveryRecord run action errorCode
    exact ⟨hcopy.trans hsame, by rwa [hkey]⟩
  unfold sendDispatch
  by_cases hkey : copy.providerOperationKey = ""
  · simp only [hkey, ne_eq, not_true_eq_false, decide_false, Bool.false_eq_true, if_false,
      Protocol.conducts_bind]
    refine Protocol.conducts_mono (conducts_markProviderStarted howner (.inl hkind) hkey hcopy.id) ?_ ?_
    · rintro _ _ rfl
      rw [conducts_ask]
      refine ⟨⟨copy, rfl, hcopy.id, hkind⟩, ?_, fun _ => rfl⟩
      intro _
      rw [conducts_ask]
      refine ⟨⟨copy, rfl, hcopy.id⟩, ?_, fun _ => rfl⟩
      intro _
      refine Protocol.conducts_mono (conducts_quiet (plan.target.waitForRun_quiet _ _ _)
        (Act.gives_any _)) ?_ ?_
      · rintro run _ ⟨rfl, -⟩
        exact (Protocol.conducts_pure _).mpr ⟨rfl, hreport _ _ _⟩
      · rintro _ _ rfl
        rfl
    · rintro _ _ rfl
      rfl
  · simp only [hkey, ne_eq, not_false_eq_true, decide_true, if_true, Protocol.conducts_bind]
    refine Protocol.conducts_mono (conducts_quiet (plan.target.latestRun_quiet _ _)
      (Act.gives_any _)) ?_ ?_
    · rintro run _ ⟨rfl, -⟩
      exact (Protocol.conducts_pure _).mpr ⟨rfl, hreport _ _ _⟩
    · rintro _ _ rfl
      rfl

/-- The handler of workflow dispatches keeps to the protocol. -/
theorem dispatchWorkflowDelivery_conducts {copy : OutboxDeliveryRecord} {leaseOwner : String}
    (howner : pyStrip leaseOwner = w.text) (hkind : copy.kind = .githubWorkflowDispatch) :
    (outboxProtocol w).Conducts (dispatchWorkflowDelivery copy (markProviderStarted leaseOwner))
      (fun result stage => stage.copy = some copy ∧ stage.Reports copy result)
      (fun _ _ => False) (.holding copy) := by
  unfold dispatchWorkflowDelivery
  rw [Protocol.conducts_bind, Protocol.conducts_tryCatch]
  refine Protocol.conducts_mono
    (conducts_quiet (planDispatch_quiet copy) (planDispatch_keeps copy)) ?_ ?_
  · rintro (result | plan) _ ⟨rfl, hkeeps⟩
    · exact (Protocol.conducts_pure _).mpr ⟨rfl, .of_holding hkeeps.1 hkeeps.2⟩
    · dsimp only
      rw [Protocol.conducts_tryCatch]
      refine Protocol.conducts_mono (sendDispatch_conducts howner hkind hkeeps) ?_ ?_
      · rintro result stage ⟨hstage, hcopy, hkey⟩
        exact ⟨hstage, .of_key hcopy hkey⟩
      · intro error stage hstage
        have hmarker := hkeeps.2
        obtain ⟨hcopy, hkey⟩ := copyOf_dispatchFailure plan.deliveryRecord error
        rw [← hkey] at hmarker
        exact (Protocol.conducts_pure _).mpr ⟨hstage, .of_key (hkeeps.1.trans hcopy) hmarker⟩
  · rintro error _ rfl
    obtain ⟨hcopy, hkey⟩ := copyOf_dispatchFailure copy error
    refine (Protocol.conducts_pure _).mpr ((Protocol.conducts_pure _).mpr ?_)
    exact ⟨rfl, .of_holding hcopy hkey⟩

end Launchplane.Outbox
