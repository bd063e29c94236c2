import Launchplane.Authz.Migration
import Launchplane.Authz.Reconciled
import Launchplane.Authz.Records

/-!
# Launchplane.Authz.Plan

**Planning a reconciliation over the active record.** The active policy is
migrated if the request asks for it, the workflows of the desired rules are
checked against it, and the set is reconciled. A plan that would lose the
administrators is reported with what blocks it.
-/

namespace Launchplane.Authz

/-! ### The policy to start from -/

/-- `_resolve_managed_authz_reconcile_base`. -/
def resolveManagedAuthzReconcileBase (isDecimal : Char → Bool) (currentPolicy : LaunchplaneAuthzPolicy)
    (schemaMigration : SchemaMigrationMode) (desiredSchemaVersion : SchemaVersion)
    (emptySetContraction : Bool) : Except String LaunchplaneAuthzPolicy :=
  if currentPolicy.schemaVersion = .v3 ∧ desiredSchemaVersion = .v2 then
    if schemaMigration = .reject ∧ emptySetContraction then .ok currentPolicy
    else .error ("Managed authz policy schema downgrade from version 3 to version 2 is not " ++
      "supported.")
  else match currentPolicy.schemaVersion, schemaMigration, desiredSchemaVersion with
    | .v1, .migrateV1ToV2, .v2 => currentPolicy.migrateToSchemaV2
    | .v2, .reject, .v2 => .ok currentPolicy
    | .v2, .migrateV2ToV3, .v3 => { currentPolicy with schemaVersion := .v3 }.validate isDecimal
    | .v3, .reject, .v3 => .ok currentPolicy
    | _, _, _ => .error ("Managed authz policy reconciliation requires an explicit " ++
        "schema_migration matching the active and desired policy schemas.")

/-! ### What blocks a plan -/

/-- Whether the rule's scope takes in the administration of the policy. -/
def ScopedRule.takesAdministration (rule : ScopedRule) (selectorMatches : String → List String → Bool) :
    Bool :=
  (rule.actions = [] || authzPolicyAdminAction ∈ rule.actions) &&
    (rule.products = [] || selectorMatches "launchplane" rule.products) &&
    (rule.contexts = [] || selectorMatches "launchplane" rule.contexts)

/-- `any(fnmatchcase(value, selector) for selector in selectors)`. -/
def anySelectorMatches (value : String) (selectors : List String) : Bool :=
  selectors.any (fnmatchcase value)

/-- `_authz_rule_grants_policy_administration`. -/
def AuthzPolicyRule.grantsPolicyAdministration : AuthzPolicyRule → Bool
  | githubActions rule => rule.takesAdministration anySelectorMatches &&
      rule.repository ≠ "" && rule.workflowRefs ≠ []
  | githubHuman rule => rule.takesAdministration exactSelectorMatches &&
      rule.githubIds ≠ [] && HumanRole.admin ∈ rule.roles
  | terminalAgent rule | localOperator rule | localAdmin rule =>
      rule.takesAdministration anySelectorMatches && rule.subjects ≠ [] && rule.tokenLabels ≠ []
  | ordinaryAgent _ => false

/-- `_authz_policy_retains_administration`. -/
def LaunchplaneAuthzPolicy.retainsAdministration (policy : LaunchplaneAuthzPolicy) : Bool :=
  policy.rules.any (·.grantsPolicyAdministration)

/-- `AuthzManagedPolicySafetyBlockerCode`. -/
inductive SafetyBlockerCode
  | adminUnreachable | applyingAdminRemoved | strictHumanAdminUnreachable
  | administratorQuorumUnsatisfied | deliveryActivationActive
  deriving Repr, DecidableEq

/-- `operational_readiness_rule_selector_blockers`: one field of a rule, which should name one thing
exactly. -/
def selectorBlockers (selectors : List String) (exact : String → Bool) (notSingleton notExact : String) :
    List String :=
  match selectors with
  | [selector] => if exact selector then [] else [notExact]
  | _ => [notSingleton]

/-- `operational_readiness_rule_selector_blockers`. -/
def GitHubActionsPolicyRule.readinessBlockers (rule : GitHubActionsPolicyRule) : List String :=
  (if containsSelectorGlob rule.repository then ["repository_not_exact"] else []) ++
    selectorBlockers rule.workflowRefs (!containsSelectorGlob ·)
      "workflow_refs_not_singleton" "workflow_ref_not_exact" ++
    selectorBlockers rule.jobWorkflowRefs isImmutableJobWorkflowRef
      "job_workflow_refs_not_singleton" "job_workflow_ref_not_immutable" ++
    selectorBlockers rule.actions (!containsSelectorGlob ·) "actions_not_singleton" "action_not_exact" ++
    selectorBlockers rule.products (!containsSelectorGlob ·)
      "products_not_singleton" "product_not_exact" ++
    selectorBlockers rule.contexts (!containsSelectorGlob ·)
      "contexts_not_singleton" "context_not_exact" ++
    selectorBlockers rule.instances (!containsSelectorGlob ·)
      "instances_not_singleton" "instance_not_exact"

/-- `AuthzManagedOperationalReadinessBlocker`. -/
structure ReadinessBlocker where
  managedRuleId : String
  actions : List String
  reasonCodes : List String
  deriving Repr, DecidableEq

/-- `_managed_operational_readiness_blockers`. -/
def managedOperationalReadinessBlockers (readinessActions : List String)
    (desiredPolicy : LaunchplaneAuthzPolicy) (managedSetId : String) : List ReadinessBlocker :=
  desiredPolicy.githubActions.filterMap fun rule =>
    let actions := readinessActions.filter (anySelectorMatches · rule.actions)
    if rule.managedSetId = some managedSetId ∧ actions ≠ [] ∧ rule.readinessBlockers ≠ [] then
      some ⟨rule.managedRuleId.getD "", actions, rule.readinessBlockers⟩
    else none

/-! ### The plan -/

/-- `plan_payload`: what a plan's digest is taken of. The set's own digest is left out, as it
is one of `desiredSet`. -/
structure PlanPayload where
  managedSetId : String
  observedRecordId : String
  observedRevision : Nat
  observedPolicySha256 : String
  candidateRevision : Nat
  candidatePolicySha256 : String
  desiredSet : List AuthzPolicyRule
  schemaMigration : SchemaMigrationMode
  unmanagedAdoption : UnmanagedAdoptionMode
  administratorQuorumChange : Option Nat
  administratorQuorum : Nat
  reason : String
  relatedIssue : String
  deriving Repr, DecidableEq

/-- What a plan asks of the store, of the drivers' catalog and of the digests. -/
structure PlanRuntime where
  digests : Digests
  ruleSha256 : AuthzPolicyRule → String
  /-- `nonvalidating_compact_sorted_json_sha256` of a plan's payload. -/
  planSha256 : PlanPayload → String
  operationalReadinessActions : List String
  /-- `ordinary_agent_delivery_administration_removed`. -/
  deliveryAdministrationRemoved : LaunchplaneAuthzPolicy → LaunchplaneAuthzPolicy → Bool
  /-- `has_unexpired_delivery_activation`. -/
  hasUnexpiredDeliveryActivation : Bool

variable (R : PlanRuntime)

/-- The blockers of a planned policy, in the order in which they are found. -/
def policySafetyBlockers (currentPolicy basePolicy updatedPolicy : LaunchplaneAuthzPolicy) :
    List SafetyBlockerCode :=
  (if basePolicy.retainsAdministration && !updatedPolicy.retainsAdministration then
      [.adminUnreachable] else []) ++
    (if updatedPolicy.strictAdministratorIds = ∅ then [.strictHumanAdminUnreachable] else []) ++
    (if updatedPolicy.strictAdministratorIds.card < updatedPolicy.effectiveAdministratorQuorum then
      [.administratorQuorumUnsatisfied] else []) ++
    if R.deliveryAdministrationRemoved currentPolicy updatedPolicy &&
        R.hasUnexpiredDeliveryActivation then
      [.deliveryActivationActive]
    else []

/-- `AuthzManagedPolicyDiff`, as far as it is not a digest of a part or a count of a list. -/
structure ManagedPolicyDiff where
  candidateRevision : Nat
  desiredPolicySha256 : String
  planSha256 : String
  schemaMigrated : Bool
  previousAdministratorQuorum : Nat
  administratorQuorum : Nat
  strictHumanAdministratorCount : Nat
  changed : Bool
  changes : List ManagedRuleChange
  unchangedRuleCount : Nat
  compatibilityCandidateCount : Nat
  retirements : List CompatibilityRetirement
  policySafetyBlockers : List SafetyBlockerCode
  operationalReadinessBlockers : List ReadinessBlocker
  deriving Repr, DecidableEq

/-- What `plan_managed_authz_policy_reconcile` returns. -/
structure ManagedPolicyPlan where
  currentRecord : LaunchplaneAuthzPolicyRecord
  basePolicy : LaunchplaneAuthzPolicy
  updatedPolicy : LaunchplaneAuthzPolicy
  diff : ManagedPolicyDiff
  deriving Repr, DecidableEq

/-- The one active record, if it is still the one the caller was authorized by. -/
def currentRecordOf (activeRecords : List LaunchplaneAuthzPolicyRecord)
    (authorizedPolicySha256 : String) : Except String LaunchplaneAuthzPolicyRecord :=
  match activeRecords with
  | [] => .error "No active Launchplane authz policy record found."
  | [record] =>
      if authorizedPolicySha256 ≠ "" ∧ record.policySha256 ≠ authorizedPolicySha256 then
        .error "Launchplane active authz policy changed after the caller was authorized."
      else .ok record
  | _ => .error "Multiple active Launchplane authz policy records found."

/-- The base policy of a request. -/
def reconcileBase (currentPolicy : LaunchplaneAuthzPolicy) (request : ReconcileEnvelope) :
    Except String LaunchplaneAuthzPolicy :=
  resolveManagedAuthzReconcileBase R.digests.isDecimal currentPolicy request.schemaMigration
    request.desiredPolicy.schemaVersion
    (request.unmanagedAdoption = .reject && request.administratorQuorumChange = none &&
      request.desiredPolicy.rules = [])

/-- The diff of a reconciled policy. -/
def managedPolicyDiff (request : ReconcileEnvelope) (currentRecord : LaunchplaneAuthzPolicyRecord)
    (basePolicy updatedPolicy : LaunchplaneAuthzPolicy) (plan : ReconciledPolicy) :
    ManagedPolicyDiff :=
  let desiredPolicySha256 := R.digests.policySha256 updatedPolicy
  let changed : Bool := currentRecord.policySha256 ≠ desiredPolicySha256
  let candidateRevision := currentRecord.revision + if changed then 1 else 0
  { candidateRevision, desiredPolicySha256, changed
    planSha256 := R.planSha256
      { managedSetId := request.managedSetId
        observedRecordId := currentRecord.recordId
        observedRevision := currentRecord.revision
        observedPolicySha256 := currentRecord.policySha256
        candidateRevision
        candidatePolicySha256 := desiredPolicySha256
        desiredSet := request.desiredPolicy.rules
        schemaMigration := request.schemaMigration
        unmanagedAdoption := request.unmanagedAdoption
        administratorQuorumChange := request.administratorQuorumChange
        administratorQuorum := updatedPolicy.effectiveAdministratorQuorum
        reason := request.reason
        relatedIssue := request.relatedIssue }
    schemaMigrated := currentRecord.policy.schemaVersion ≠ updatedPolicy.schemaVersion
    previousAdministratorQuorum := currentRecord.policy.effectiveAdministratorQuorum
    administratorQuorum := updatedPolicy.effectiveAdministratorQuorum
    strictHumanAdministratorCount := updatedPolicy.strictAdministratorIds.card
    changes := plan.changes
    unchangedRuleCount := plan.unchangedRuleCount
    compatibilityCandidateCount := plan.candidateCount
    retirements := plan.retirements
    policySafetyBlockers := policySafetyBlockers R currentRecord.policy basePolicy updatedPolicy
    operationalReadinessBlockers := managedOperationalReadinessBlockers
      R.operationalReadinessActions request.desiredPolicy request.managedSetId }

/-- `plan_managed_authz_policy_reconcile`, of a request without a retirement of selected rules. -/
def planManagedAuthzPolicyReconcile (activeRecords : List LaunchplaneAuthzPolicyRecord)
    (request : ReconcileEnvelope) (authorizedPolicySha256 : String) :
    Except String ManagedPolicyPlan := do
  let currentRecord ← currentRecordOf activeRecords authorizedPolicySha256
  let basePolicy ← reconcileBase R currentRecord.policy request
  validateGithubManagedWorkflowTransition basePolicy.githubActions
    request.desiredPolicy.githubActions
  let plan ← reconcileManagedPolicy R.ruleSha256 basePolicy request.desiredPolicy
    request.managedSetId request.unmanagedAdoption
  let administratorQuorum := request.administratorQuorumChange.or
    currentRecord.policy.administratorQuorum
  let updatedPolicy := { plan.policy with administratorQuorum }
  let diff := managedPolicyDiff R request currentRecord basePolicy updatedPolicy plan
  raiseIf (request.mode = .apply ∧ request.reviewedPlanSha256 ≠ diff.planSha256)
    ("Managed authz policy reviewed_plan_sha256 no longer matches the active policy " ++
      "and desired managed rule set.")
  return { currentRecord, basePolicy, updatedPolicy, diff }

/-! ### What a plan is made of -/

theorem mem_githubActions {policy : LaunchplaneAuthzPolicy} {rule : GitHubActionsPolicyRule} :
    AuthzPolicyRule.githubActions rule ∈ policy.rules ↔ rule ∈ policy.githubActions := by
  rw [LaunchplaneAuthzPolicy.mem_rules]
  simp [LaunchplaneAuthzPolicy.collection, AuthzPolicyRule.collectionType]

theorem LaunchplaneAuthzPolicy.Valid.ordinaryAgents {isDecimal : Char → Bool}
    {policy : LaunchplaneAuthzPolicy} (h : policy.Valid isDecimal) :
    policy.ordinaryAgents.mapM (·.validate) = .ok policy.ordinaryAgents := by
  unfold Valid validate at h
  obtain ⟨_, -, h⟩ := bind_eq_ok.mp h
  obtain ⟨_, -, h⟩ := bind_eq_ok.mp h
  obtain ⟨_, -, h⟩ := bind_eq_ok.mp h
  obtain ⟨_, -, h⟩ := bind_eq_ok.mp h
  obtain ⟨_, -, h⟩ := bind_eq_ok.mp h
  obtain ⟨ordinaryAgents, hordinary, h⟩ := bind_eq_ok.mp h
  obtain ⟨⟨⟩, -, h⟩ := bind_eq_ok.mp h
  injection h with h
  exact hordinary.trans (congrArg (Except.ok ·.ordinaryAgents) h)

section Base

variable {R : PlanRuntime} {currentPolicy basePolicy : LaunchplaneAuthzPolicy}
  {request : ReconcileEnvelope}

/-- The base of a plan is the active policy, or what it was migrated to. -/
theorem reconcileBase_cases (hvalid : currentPolicy.Valid R.digests.isDecimal)
    (h : reconcileBase R currentPolicy request = .ok basePolicy) :
    (basePolicy = currentPolicy ∧ currentPolicy.schemaVersion ≠ .v1) ∨
      (basePolicy = currentPolicy.migrated ∧ currentPolicy.schemaVersion = .v1) ∨
      (basePolicy = { currentPolicy with schemaVersion := .v3 } ∧
        basePolicy.Valid R.digests.isDecimal) := by
  unfold reconcileBase resolveManagedAuthzReconcileBase at h
  by_cases hdown : currentPolicy.schemaVersion = .v3 ∧ request.desiredPolicy.schemaVersion = .v2
  · rw [if_pos hdown] at h
    split_ifs at h
    cases h
    exact .inl ⟨rfl, by simp [hdown.1]⟩
  · rw [if_neg hdown] at h
    split at h
    next hschema _ _ =>
      rw [LaunchplaneAuthzPolicy.migrateToSchemaV2, if_neg (by simp [hschema])] at h
      obtain ⟨⟨⟩, -, h⟩ := bind_eq_ok.mp h
      cases h
      exact .inr (.inl ⟨rfl, hschema⟩)
    next hschema _ _ =>
      cases h
      exact .inl ⟨rfl, by simp [hschema]⟩
    next hschema _ _ =>
      have hbase := LaunchplaneAuthzPolicy.valid_of_validate h
      obtain ⟨hactions, hhumans, hterminal, hoperators, hadmins, -⟩ := hvalid.parts
      refine .inr (.inr ⟨?_, hbase⟩)
      unfold LaunchplaneAuthzPolicy.validate at h
      simp only [hactions, hhumans, hterminal, hoperators, hadmins, hvalid.ordinaryAgents, bind,
        Except.bind] at h
      split at h
      · cases h
      · exact (Except.ok.inj h).symm
    next hschema _ _ =>
      cases h
      exact .inl ⟨rfl, by simp [hschema]⟩
    next => cases h

theorem valid_of_reconcileBase (hvalid : currentPolicy.Valid R.digests.isDecimal)
    (h : reconcileBase R currentPolicy request = .ok basePolicy) :
    basePolicy.Valid R.digests.isDecimal ∧ basePolicy.schemaVersion ≠ .v1 := by
  obtain ⟨rfl, hschema⟩ | ⟨rfl, hschema⟩ | ⟨hbase, hbaseValid⟩ := reconcileBase_cases hvalid h
  · exact ⟨hvalid, hschema⟩
  · exact ⟨LaunchplaneAuthzPolicy.valid_migrated hvalid hschema, by simp [LaunchplaneAuthzPolicy.migrated]⟩
  · exact ⟨hbaseValid, by simp [hbase]⟩

end Base

section Plan

variable {R : PlanRuntime} {activeRecords : List LaunchplaneAuthzPolicyRecord}
  {request checked : ReconcileEnvelope} {authorizedPolicySha256 : String} {plan : ManagedPolicyPlan}

/-- What a plan was made of. -/
structure PlannedBy (R : PlanRuntime) (activeRecords : List LaunchplaneAuthzPolicyRecord)
    (request : ReconcileEnvelope) (plan : ManagedPolicyPlan) (reconciled : ReconciledPolicy) : Prop where
  active : plan.currentRecord ∈ activeRecords
  base : reconcileBase R plan.currentRecord.policy request = .ok plan.basePolicy
  transition : ∀ rule ∈ request.desiredPolicy.githubActions,
    validateWorkflowTransition plan.basePolicy.githubActions rule = .ok ()
  steps : reconcileManagedPolicy R.ruleSha256 plan.basePolicy request.desiredPolicy
    request.managedSetId request.unmanagedAdoption = .ok reconciled
  updated : plan.updatedPolicy = { reconciled.policy with
    administratorQuorum := request.administratorQuorumChange.or
      plan.currentRecord.policy.administratorQuorum }
  diff : plan.diff = managedPolicyDiff R request plan.currentRecord plan.basePolicy
    plan.updatedPolicy reconciled

theorem mem_of_currentRecordOf {record : LaunchplaneAuthzPolicyRecord}
    (h : currentRecordOf activeRecords authorizedPolicySha256 = .ok record) :
    activeRecords = [record] := by
  unfold currentRecordOf at h
  split at h
  · cases h
  · split_ifs at h
    cases h
    rfl
  · cases h

theorem plannedBy_of_ok
    (h : planManagedAuthzPolicyReconcile R activeRecords request authorizedPolicySha256 = .ok plan) :
    ∃ reconciled, PlannedBy R activeRecords request plan reconciled := by
  unfold planManagedAuthzPolicyReconcile at h
  obtain ⟨record, hrecord, h⟩ := bind_eq_ok.mp h
  obtain ⟨base, hbase, h⟩ := bind_eq_ok.mp h
  obtain ⟨⟨⟩, htransition, h⟩ := bind_eq_ok.mp h
  obtain ⟨reconciled, hreconciled, h⟩ := bind_eq_ok.mp h
  obtain ⟨⟨⟩, -, h⟩ := bind_eq_ok.mp h
  cases h
  exact ⟨reconciled, {
    active := by simp [mem_of_currentRecordOf hrecord]
    base := hbase
    transition := forall_of_forM htransition
    steps := hreconciled
    updated := rfl
    diff := rfl }⟩

/-- The updated policy replaces rules of the base. -/
theorem PlannedBy.replaces {reconciled : ReconciledPolicy}
    (hplan : PlannedBy R activeRecords checked plan reconciled)
    (hrecords : ∀ record ∈ activeRecords, record.Valid R.digests)
    (hrequest : request.validate = .ok checked) :
    plan.basePolicy.Valid R.digests.isDecimal ∧ plan.basePolicy.schemaVersion ≠ .v1 ∧
      plan.updatedPolicy.schemaVersion = plan.basePolicy.schemaVersion ∧
      ∃ adopted retired, Replaces plan.basePolicy checked.desiredPolicy checked.managedSetId
        checked.unmanagedAdoption plan.updatedPolicy adopted retired := by
  obtain ⟨hvalid, hschema⟩ := valid_of_reconcileBase (hrecords _ hplan.active).policy hplan.base
  obtain ⟨-, -, -, -, -, hcheck⟩ := hvalid.parts
  obtain ⟨adopted, retired, place, hby⟩ := reconciledBy_of_ok hplan.steps
  have hreplaces := hby.replaces (desiredFor_of_validate hrequest)
    (LaunchplaneAuthzPolicy.nodup_of_check hcheck)
  have hcollection (type : CollectionType) :
      plan.updatedPolicy.collection type = reconciled.policy.collection type := by
    rw [hplan.updated]
    cases type <;> rfl
  refine ⟨hvalid, hschema, ?_, adopted, retired, { hreplaces with
    managed := fun type => by rw [hcollection]; exact hreplaces.managed type
    others := fun type => by rw [hcollection]; exact hreplaces.others type }⟩
  rw [hplan.updated, hby.policy]
  rfl

end Plan

/-! ### The site's plan -/

/-- Digests that tell the policies of the site apart. -/
def siteRuntime : PlanRuntime where
  digests :=
    { isDecimal := (·.isDigit)
      policySha256 := fun policy =>
        if policy.githubActions.any (·.managedRuleId = some "secrets") then "planned" else "active" }
  ruleSha256 _ := ""
  planSha256 _ := ""
  operationalReadinessActions := []
  deliveryAdministrationRemoved _ _ := false
  hasUnexpiredDeliveryActivation := false

/-- A record of a policy of the site. -/
def siteRecord (revision : Nat) (policy : LaunchplaneAuthzPolicy) : LaunchplaneAuthzPolicyRecord :=
  { recordId := "launchplane-authz-policy"
    revision
    source := "seed"
    updatedAt := "2026-01-05T09:00:00Z"
    policySha256 := siteRuntime.digests.policySha256 policy
    policy }

theorem valid_siteRecord : ∀ record ∈ [siteRecord 1 sitePolicy], record.Valid siteRuntime.digests := by
  intro record hrecord
  obtain rfl := List.mem_singleton.mp hrecord
  exact ⟨by rfl, by decide, by decide, by decide, by decide, rfl⟩

end Launchplane.Authz
