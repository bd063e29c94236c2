import Launchplane.Authz.Normalize

/-!
# Launchplane.Authz.ManagedRules

**The rules of a managed set.** A request to reconcile a set names the rules the
set should have. Before anything is compared, the request is normalised and
checked, and a rule that lets a workflow do something sensitive has to name the
workflow by a full commit, or by a reference that the active policy names already.
-/

namespace Launchplane.Authz

/-! ### Rules of any kind -/

/-- `AuthzCollectionType`. -/
inductive CollectionType
  | githubActions | githubHumans | terminalAgents | localOperators | localAdmins | ordinaryAgents
  deriving Repr, DecidableEq

/-- `AuthzPolicyRule`. -/
inductive AuthzPolicyRule
  | githubActions (rule : GitHubActionsPolicyRule)
  | githubHuman (rule : GitHubHumanPolicyRule)
  | terminalAgent (rule : TokenBoundPolicyRule)
  | localOperator (rule : TokenBoundPolicyRule)
  | localAdmin (rule : TokenBoundPolicyRule)
  | ordinaryAgent (rule : OrdinaryAgentPolicyRule)
  deriving Repr, DecidableEq

namespace AuthzPolicyRule

/-- The collection a rule stands in. -/
def collectionType : AuthzPolicyRule → CollectionType
  | githubActions _ => .githubActions
  | githubHuman _ => .githubHumans
  | terminalAgent _ => .terminalAgents
  | localOperator _ => .localOperators
  | localAdmin _ => .localAdmins
  | ordinaryAgent _ => .ordinaryAgents

/-- `rule.managed_set_id`. -/
def managedSetId : AuthzPolicyRule → Option String
  | githubActions rule => rule.managedSetId
  | githubHuman rule => rule.managedSetId
  | terminalAgent rule => rule.managedSetId
  | localOperator rule => rule.managedSetId
  | localAdmin rule => rule.managedSetId
  | ordinaryAgent rule => some rule.managedSetId

/-- `rule.managed_rule_id`. -/
def managedRuleId : AuthzPolicyRule → Option String
  | githubActions rule => rule.managedRuleId
  | githubHuman rule => rule.managedRuleId
  | terminalAgent rule => rule.managedRuleId
  | localOperator rule => rule.managedRuleId
  | localAdmin rule => rule.managedRuleId
  | ordinaryAgent rule => some rule.managedRuleId

/-- `_normalize_authz_rule`. -/
def normalizeAuthzRule : AuthzPolicyRule → AuthzPolicyRule
  | githubActions rule => githubActions rule.normalizeAuthzRule
  | githubHuman rule => githubHuman rule.normalizeAuthzRule
  | terminalAgent rule => terminalAgent rule.normalizeAuthzRule
  | localOperator rule => localOperator rule.normalizeAuthzRule
  | localAdmin rule => localAdmin rule.normalizeAuthzRule
  | ordinaryAgent rule => ordinaryAgent rule.normalizeAuthzRule

/-- `_authz_rule_without_managed_identity`, which no ordinary agent's rule comes to. -/
def withoutManagedIdentity : AuthzPolicyRule → AuthzPolicyRule
  | githubActions rule => githubActions { rule with managedSetId := none, managedRuleId := none }
  | githubHuman rule => githubHuman { rule with managedSetId := none, managedRuleId := none }
  | terminalAgent rule => terminalAgent { rule with managedSetId := none, managedRuleId := none }
  | localOperator rule => localOperator { rule with managedSetId := none, managedRuleId := none }
  | localAdmin rule => localAdmin { rule with managedSetId := none, managedRuleId := none }
  | ordinaryAgent rule => ordinaryAgent rule

/-- The identity of a rule that belongs to a managed set. -/
def managedIdentity (rule : AuthzPolicyRule) : Option (String × String) :=
  rule.managedSetId.bind fun managedSetId => rule.managedRuleId.map (managedSetId, ·)

/-- Whether the rule belongs to a managed set. -/
def inSet (managedSetId : String) (rule : AuthzPolicyRule) : Bool :=
  rule.managedSetId = some managedSetId

/-- Whether the rule has no actions. -/
def lacksActions : AuthzPolicyRule → Bool
  | githubActions rule => rule.actions = []
  | githubHuman rule => rule.actions = []
  | terminalAgent rule => rule.actions = []
  | localOperator rule => rule.actions = []
  | localAdmin rule => rule.actions = []
  | ordinaryAgent rule => rule.actions = []

@[simp] theorem collectionType_normalizeAuthzRule (rule : AuthzPolicyRule) :
    rule.normalizeAuthzRule.collectionType = rule.collectionType := by cases rule <;> rfl

@[simp] theorem managedSetId_normalizeAuthzRule (rule : AuthzPolicyRule) :
    rule.normalizeAuthzRule.managedSetId = rule.managedSetId := by cases rule <;> rfl

@[simp] theorem managedRuleId_normalizeAuthzRule (rule : AuthzPolicyRule) :
    rule.normalizeAuthzRule.managedRuleId = rule.managedRuleId := by cases rule <;> rfl

end AuthzPolicyRule

namespace LaunchplaneAuthzPolicy

/-- The rules of one collection. -/
def collection (policy : LaunchplaneAuthzPolicy) : CollectionType → List AuthzPolicyRule
  | .githubActions => policy.githubActions.map .githubActions
  | .githubHumans => policy.githubHumans.map .githubHuman
  | .terminalAgents => policy.terminalAgents.map .terminalAgent
  | .localOperators => policy.localOperators.map .localOperator
  | .localAdmins => policy.localAdmins.map .localAdmin
  | .ordinaryAgents => policy.ordinaryAgents.map .ordinaryAgent

/-- `_AUTHZ_COLLECTION_TYPES`. -/
def collectionTypes : List CollectionType :=
  [.githubActions, .githubHumans, .terminalAgents, .localOperators, .localAdmins, .ordinaryAgents]

/-- The rules, collection by collection, as `_authz_policy_rule_collections` lists them. -/
def rules (policy : LaunchplaneAuthzPolicy) : List AuthzPolicyRule :=
  collectionTypes.flatMap policy.collection

/-- The policy whose collections are made of the rules, each in its own collection. -/
def ofRules (schemaVersion : SchemaVersion) (rules : List AuthzPolicyRule) :
    LaunchplaneAuthzPolicy where
  schemaVersion := schemaVersion
  githubActions := rules.filterMap fun
    | .githubActions rule => some rule
    | _ => none
  githubHumans := rules.filterMap fun
    | .githubHuman rule => some rule
    | _ => none
  terminalAgents := rules.filterMap fun
    | .terminalAgent rule => some rule
    | _ => none
  localOperators := rules.filterMap fun
    | .localOperator rule => some rule
    | _ => none
  localAdmins := rules.filterMap fun
    | .localAdmin rule => some rule
    | _ => none
  ordinaryAgents := rules.filterMap fun
    | .ordinaryAgent rule => some rule
    | _ => none

section

variable {policy : LaunchplaneAuthzPolicy} {type : CollectionType} {rule : AuthzPolicyRule}

theorem collectionType_of_mem (h : rule ∈ policy.collection type) : rule.collectionType = type := by
  cases type <;>
    simp only [collection, List.mem_map] at h <;>
    obtain ⟨_, -, rfl⟩ := h <;>
    rfl

theorem mem_rules : rule ∈ policy.rules ↔ rule ∈ policy.collection rule.collectionType := by
  rw [rules, List.mem_flatMap]
  constructor
  · rintro ⟨type, -, h⟩
    rwa [collectionType_of_mem h]
  · intro h
    exact ⟨rule.collectionType, by cases rule.collectionType <;> decide, h⟩

theorem collection_ofRules (schemaVersion : SchemaVersion) (rules : List AuthzPolicyRule) :
    (ofRules schemaVersion rules).collection type = rules.filter (·.collectionType = type) := by
  induction rules with
  | nil => cases type <;> rfl
  | cons rule rules ih =>
      cases type <;> cases rule <;>
        simp_all [collection, ofRules, AuthzPolicyRule.collectionType]

/-- The policy is made of its own rules. -/
theorem ofRules_rules :
    ofRules policy.schemaVersion policy.rules = { policy with administratorQuorum := none } := by
  simp [ofRules, rules, collectionTypes, collection, List.filterMap_map, List.filterMap_append]

/-- The identities that must not repeat are those of the rules. -/
theorem managedIdentities_eq :
    policy.managedIdentities = policy.rules.filterMap (·.managedIdentity) := by
  have hviews : policy.managedIdentities = policy.views.filterMap
      (fun view => view.scope.managedSetId.bind fun managedSetId =>
        view.scope.managedRuleId.map (managedSetId, ·)) ++
      policy.ordinaryAgents.map fun rule => (rule.managedSetId, rule.managedRuleId) := by
    unfold managedIdentities
    congr 2
    funext view
    cases view.scope.managedSetId <;> cases view.scope.managedRuleId <;> rfl
  rw [hviews]
  simp [views, rules, collectionTypes, collection, List.filterMap_append, List.filterMap_map,
    AuthzPolicyRule.managedIdentity, AuthzPolicyRule.managedSetId, AuthzPolicyRule.managedRuleId]

end

end LaunchplaneAuthzPolicy

/-! ### Pinned workflows -/

/-- `instance_pinned_workflow_authz_actions`. -/
def instancePinnedWorkflowAuthzActions : List String :=
  ["ingress_route.apply", "ingress_route.plan"]

/-- `_IMMUTABLE_WORKFLOW_ACTION_SAFETIES`, and `_IMMUTABLE_GITHUB_HUMAN_ACTION_SAFETIES`. -/
def immutableActionSafeties : List ActionSafety :=
  [.prod, .destructive, .secretBacked, .policyAdmin]

/-- `_contains_selector_glob`. -/
def containsSelectorGlob (value : String) : Bool := value.toList.any (· ∈ ['*', '?', '['])

/-- `_IMMUTABLE_JOB_WORKFLOW_REF_PATTERN.fullmatch`: something, the directory of the workflows,
something, and a full commit, with no other `@`. -/
def namesCommit (value : String) : Bool :=
  let directory := "/.github/workflows/".toList
  match value.toList.splitOn '@' with
  | [path, commit] =>
      commit.length = 40 && commit.all isHexDigit &&
        (path.drop 1).tails.any fun rest =>
          directory.isPrefixOf rest && directory.length < rest.length
  | _ => false

/-- `is_immutable_job_workflow_ref`. -/
def isImmutableJobWorkflowRef (value : String) : Bool :=
  namesCommit value && !containsSelectorGlob value

example : isImmutableJobWorkflowRef
    "acme/site/.github/workflows/deploy.yml@0123456789abcdef0123456789abcdef01234567" = true := by
  decide +kernel

/-- `_github_rule_requires_immutable_workflow`. -/
def GitHubActionsPolicyRule.requiresImmutableWorkflow (rule : GitHubActionsPolicyRule) : Bool :=
  (rule.actions.any fun action =>
    action ∈ exactInstanceWorkflowAuthzActions ||
      (rule.instances ≠ [] && action ∈ instancePinnedWorkflowAuthzActions) ||
      actionSafety action ∈ immutableActionSafeties) ||
    rule.instances.any (· ∈ ["*", "prod"])

/-- `_github_transition_selector_payload`: what is left of a normalised rule without its identity,
the numbers of its repository and its workflow references. -/
def GitHubActionsPolicyRule.transitionSelectorPayload (rule : GitHubActionsPolicyRule) :
    GitHubActionsPolicyRule :=
  { rule.normalizeAuthzRule with
    managedSetId := none, managedRuleId := none, repositoryId := "", repositoryOwnerId := ""
    jobWorkflowRefs := [] }

/-- The numbers of the repository are those of the desired rule, where the current one has any. -/
def repositoryNarrowed (currentRule desiredRule : GitHubActionsPolicyRule) : Bool :=
  (currentRule.repositoryId = "" || currentRule.repositoryId = desiredRule.repositoryId) &&
    (currentRule.repositoryOwnerId = "" ||
      currentRule.repositoryOwnerId = desiredRule.repositoryOwnerId)

/-- `_github_rule_transition_base_matches`. -/
def githubRuleTransitionBaseMatches (currentRule desiredRule : GitHubActionsPolicyRule) : Bool :=
  (currentRule.managedSetId = none || currentRule.managedSetId = desiredRule.managedSetId) &&
    !(currentRule.managedSetId = desiredRule.managedSetId &&
      currentRule.managedRuleId ≠ desiredRule.managedRuleId) &&
    currentRule.transitionSelectorPayload = desiredRule.transitionSelectorPayload &&
    repositoryNarrowed currentRule desiredRule

/-- `_github_rule_preserves_existing_mutable_ref`. -/
def preservesExistingMutableRef (currentRule desiredRule : GitHubActionsPolicyRule)
    (mutableJobWorkflowRef : String) : Bool :=
  githubRuleTransitionBaseMatches currentRule desiredRule &&
    mutableJobWorkflowRef ∈ currentRule.jobWorkflowRefs

/-- One turn of the loop of `_validate_github_managed_workflow_transition`. -/
def validateWorkflowTransition (currentRules : List GitHubActionsPolicyRule)
    (desiredRule : GitHubActionsPolicyRule) : Except String Unit :=
  if desiredRule.requiresImmutableWorkflow = false then .ok ()
  else match desiredRule.managedRuleId with
    | none => .error "High-privilege managed GitHub Actions rules require managed_rule_id."
    | some managedRuleId =>
        if desiredRule.workflowRefs = [] ∨ desiredRule.workflowRefs.any containsSelectorGlob then
          .error ("High-privilege managed GitHub Actions rules require exact caller workflow_refs " ++
            "(" ++ managedRuleId ++ ").")
        else if desiredRule.jobWorkflowRefs = [] then
          .error ("High-privilege managed GitHub Actions rules require an exact reviewed reusable " ++
            "workflow identity (" ++ managedRuleId ++ ").")
        else if ¬ desiredRule.jobWorkflowRefs.any isImmutableJobWorkflowRef then
          .error ("High-privilege managed GitHub Actions rules require at least one reusable " ++
            "workflow identity pinned to a full commit SHA (" ++ managedRuleId ++ ").")
        else if desiredRule.jobWorkflowRefs.all (fun jobWorkflowRef =>
            isImmutableJobWorkflowRef jobWorkflowRef ||
              (!containsSelectorGlob jobWorkflowRef && currentRules.any
                (preservesExistingMutableRef · desiredRule jobWorkflowRef))) then .ok ()
        else
          .error ("High-privilege managed GitHub Actions rules can preserve a mutable reusable " ++
            "workflow ref only when the active policy already authorizes that exact ref; " ++
            "new refs must use a full commit SHA (" ++ managedRuleId ++ ").")

/-- `_validate_github_managed_workflow_transition`. -/
def validateGithubManagedWorkflowTransition
    (currentRules desiredRules : List GitHubActionsPolicyRule) : Except String Unit :=
  desiredRules.forM (validateWorkflowTransition currentRules)

/-! ### Requests -/

/-- `AuthzSchemaMigrationMode`. -/
inductive SchemaMigrationMode
  | reject | migrateV1ToV2 | migrateV2ToV3
  deriving Repr, DecidableEq

/-- `AuthzUnmanagedAdoptionMode`. -/
inductive UnmanagedAdoptionMode
  | reject | adoptMatching
  deriving Repr, DecidableEq

/-- Whether a reconciliation is only planned. -/
inductive ReconcileMode
  | dryRun | apply
  deriving Repr, DecidableEq

/-- `AuthzManagedPolicyReconcileEnvelope`, without a retirement of selected rules. -/
structure ReconcileEnvelope where
  product : String
  mode : ReconcileMode := .dryRun
  managedSetId : String
  schemaMigration : SchemaMigrationMode := .reject
  unmanagedAdoption : UnmanagedAdoptionMode := .reject
  administratorQuorumChange : Option Nat := none
  soloAdministrationConfirmationId : String := ""
  reason : String := ""
  relatedIssue : String := ""
  reviewedPlanSha256 : String := ""
  desiredPolicy : LaunchplaneAuthzPolicy
  deriving Repr, DecidableEq

/-- `_PRODUCT_OWNER_POLICY_ADMIN_MANAGED_SET_ID`. -/
def productOwnerPolicyAdminManagedSetId : String := "operator.product-owner-policy-admin"

/-- `_PRODUCT_OWNER_POLICY_ADMIN_ACTIONS`. -/
def productOwnerPolicyAdminActions : List String :=
  ["product_owner_policy.read", "product_owner_policy.write", "product_owner_requirement.read",
    "product_owner_requirement.write"]

/-- `_validate_product_owner_policy_admin_managed_set`, of one of its rules. -/
def validateProductOwnerAdminRule (rule : TokenBoundPolicyRule) : Except String Unit :=
  if rule.subjects.length ≠ 1 ∨ rule.tokenLabels.length ≠ 1 ∨
      (rule.subjects ++ rule.tokenLabels).any containsSelectorGlob then
    .error ("Product Owner policy administration rules require one exact operator subject " ++
      "and token label.")
  else if rule.products.length ≠ 1 ∨ rule.contexts.length ≠ 1 ∨
      (rule.products ++ rule.contexts).any containsSelectorGlob then
    .error "Product Owner policy administration rules require one exact product and system scope."
  else if ¬ (rule.actions.all (· ∈ productOwnerPolicyAdminActions) ∧
      productOwnerPolicyAdminActions.all (· ∈ rule.actions)) then
    .error ("Product Owner policy administration rules require exactly the policy and " ++
      "requirement read/write actions.")
  else .ok ()

/-- `_validate_product_owner_policy_admin_managed_set`. -/
def validateProductOwnerAdminSet (policy : LaunchplaneAuthzPolicy) : Except String Unit :=
  if policy.rules.any (·.collectionType ≠ .localOperators) then
    .error ("Product Owner policy administration managed authz may contain only local operator " ++
      "rules.")
  else policy.localOperators.forM validateProductOwnerAdminRule

/-- The sets of which not every policy may be desired. -/
def validateManagedSet (managedSetId : String) (desiredPolicy : LaunchplaneAuthzPolicy) :
    Except String Unit :=
  if managedSetId = "operator.owner-acceptance" ∧ desiredPolicy.rules ≠ [] then
    .error "Retired Owner-acceptance grants can only be removed."
  else if managedSetId = productOwnerPolicyAdminManagedSetId then
    validateProductOwnerAdminSet desiredPolicy
  else .ok ()

/-- The literal of a collection. -/
def CollectionType.text : CollectionType → String
  | githubActions => "github_actions"
  | githubHumans => "github_humans"
  | terminalAgents => "terminal_agents"
  | localOperators => "local_operators"
  | localAdmins => "local_admins"
  | ordinaryAgents => "ordinary_agents"

/-- What a desired rule of one kind has to have beside its identity and its actions. -/
def validateDesiredPrincipal (managedRuleId : String) : AuthzPolicyRule → Except String Unit
  | .githubActions rule =>
      if rule.repositoryId = "" ∨ rule.repositoryOwnerId = "" then
        .error ("Managed GitHub Actions authz rules require immutable repository_id " ++
          "and repository_owner_id selectors (" ++ managedRuleId ++ ").")
      else .ok ()
  | .githubHuman rule =>
      if rule.roles = [] then
        .error ("Managed GitHub human authz rules require at least one explicit role " ++
          "(" ++ managedRuleId ++ ").")
      else if rule.githubIds = [] ∧ rule.logins = [] ∧ rule.organizations = [] ∧ rule.teams = [] then
        .error ("Managed GitHub human authz rules require at least one principal " ++
          "selector (" ++ managedRuleId ++ ").")
      else if (rule.logins ++ rule.organizations ++ rule.teams).any containsSelectorGlob then
        .error ("Managed GitHub human authz rules require exact login, organization, " ++
          "and team selectors (" ++ managedRuleId ++ ").")
      else if (.admin ∈ rule.roles ∨
          rule.actions.any (actionSafety · ∈ immutableActionSafeties)) ∧ rule.githubIds = [] then
        .error ("Managed GitHub human admin and sensitive-action rules require " ++
          "immutable github_ids (" ++ managedRuleId ++ ").")
      else .ok ()
  | _ => .ok ()

/-- One turn of the last loop of `_validate_reconcile`. -/
def validateDesiredRule (managedSetId : String) (rule : AuthzPolicyRule) : Except String Unit :=
  match rule.managedRuleId with
  | none => .error ("Every desired managed authz rule must declare the request managed_set_id " ++
      "and a managed_rule_id (" ++ rule.collectionType.text ++ ").")
  | some managedRuleId =>
      if rule.managedSetId ≠ some managedSetId then
        .error ("Every desired managed authz rule must declare the request managed_set_id " ++
          "and a managed_rule_id (" ++ rule.collectionType.text ++ ").")
      else if rule.lacksActions then
        .error ("Every desired managed authz rule must declare at least one action " ++
          "(" ++ rule.collectionType.text ++ ":" ++ managedRuleId ++ ").")
      else validateDesiredPrincipal managedRuleId rule

/-- `re.fullmatch(r"[0-9a-f]{64}", value)`. -/
def isPlanSha256 (value : String) : Bool :=
  value.toList.length = 64 && value.toList.all isHexDigit

/-- The fields of a request that say how it is to be applied. -/
def ReconcileEnvelope.validateMode (request : ReconcileEnvelope) : Except String Unit :=
  if request.soloAdministrationConfirmationId ≠ "" ∧
      (request.mode ≠ .apply ∨ request.administratorQuorumChange ≠ some 1) then
    .error "solo_administration_confirmation_id is only valid for quorum-one apply."
  else if request.mode = .apply ∧ request.administratorQuorumChange = some 1 ∧
      request.soloAdministrationConfirmationId = "" then
    .error "Quorum-one authz policy apply requires solo_administration_confirmation_id."
  else if request.mode = .apply then
    if request.reason = "" then
      .error "Managed authz policy reconciliation apply requires reason."
    else if ¬ isPlanSha256 request.reviewedPlanSha256 then
      .error "Managed authz policy reconciliation apply requires reviewed_plan_sha256."
    else .ok ()
  else if request.reviewedPlanSha256 ≠ "" then
    .error "Managed authz policy reconciliation dry-run cannot declare reviewed_plan_sha256."
  else .ok ()

/-- `_validate_reconcile`. -/
def ReconcileEnvelope.validate (request : ReconcileEnvelope) : Except String ReconcileEnvelope := do
  raiseIf (request.administratorQuorumChange = some 0)
    "administrator_quorum_change should be greater than or equal to 1"
  raiseIf (pyStrip request.product ≠ "launchplane")
    "Managed authz policy reconciliation requires product 'launchplane'."
  let managedSetId := pyStrip request.managedSetId
  let request := { request with
    product := "launchplane"
    managedSetId
    reason := pyStrip request.reason
    relatedIssue := pyStrip request.relatedIssue
    reviewedPlanSha256 := pyLower (pyStrip request.reviewedPlanSha256)
    soloAdministrationConfirmationId := pyStrip request.soloAdministrationConfirmationId }
  raiseIf (¬ isManagedAuthzId managedSetId)
    "Managed authz policy reconciliation requires a stable managed_set_id."
  request.validateMode
  raiseIf (request.desiredPolicy.schemaVersion = .v1)
    "Managed authz desired policy must use schema version 2 or 3."
  raiseIf (request.desiredPolicy.administratorQuorum ≠ none)
    ("Managed authz desired policy cannot declare administrator_quorum; " ++
      "use administrator_quorum_change.")
  let desiredPolicy ← request.desiredPolicy.normalizeDesiredAuthzPolicy
  validateManagedSet managedSetId desiredPolicy
  desiredPolicy.rules.forM (validateDesiredRule managedSetId)
  return { request with desiredPolicy }

/-! ### What a request has passed -/

/-- No two rules of a policy that was checked have the same identity. -/
theorem LaunchplaneAuthzPolicy.nodup_of_check {policy : LaunchplaneAuthzPolicy}
    (h : policy.check = .ok ()) : policy.managedIdentities.Nodup := by
  unfold check at h
  split_ifs at h
  · obtain ⟨⟨⟩, -, h⟩ := bind_eq_ok.mp h
    cases h
  all_goals
    by_contra hrepeated
    obtain ⟨⟨⟩, -, h⟩ := bind_eq_ok.mp h
    simp_all

/-- What is known of the desired policy of a request that was accepted. -/
structure ReconcileEnvelope.Checked (checked : ReconcileEnvelope) : Prop where
  normalized : ∃ raw : LaunchplaneAuthzPolicy, checked.desiredPolicy = raw.normalized
  check : checked.desiredPolicy.check = .ok ()
  schemaVersion : checked.desiredPolicy.schemaVersion ≠ .v1
  rules : ∀ rule ∈ checked.desiredPolicy.rules,
    validateDesiredRule checked.managedSetId rule = .ok ()

theorem ReconcileEnvelope.checked_of_validate {request checked : ReconcileEnvelope}
    (h : request.validate = .ok checked) : checked.Checked := by
  unfold validate at h
  obtain ⟨⟨⟩, -, h⟩ := bind_eq_ok.mp h
  obtain ⟨⟨⟩, -, h⟩ := bind_eq_ok.mp h
  obtain ⟨⟨⟩, -, h⟩ := bind_eq_ok.mp h
  obtain ⟨⟨⟩, -, h⟩ := bind_eq_ok.mp h
  obtain ⟨⟨⟩, hschema, h⟩ := bind_eq_ok.mp h
  obtain ⟨⟨⟩, -, h⟩ := bind_eq_ok.mp h
  obtain ⟨desired, hdesired, h⟩ := bind_eq_ok.mp h
  obtain ⟨⟨⟩, -, h⟩ := bind_eq_ok.mp h
  obtain ⟨⟨⟩, hrules, h⟩ := bind_eq_ok.mp h
  cases h
  unfold LaunchplaneAuthzPolicy.normalizeDesiredAuthzPolicy at hdesired
  obtain ⟨⟨⟩, hcheck, hdesired⟩ := bind_eq_ok.mp hdesired
  cases hdesired
  exact {
    normalized := ⟨request.desiredPolicy, rfl⟩
    check := hcheck
    schemaVersion := raiseIf_eq_ok.mp hschema
    rules := fun rule hrule => forall_of_forM hrules rule hrule }

/-- A desired rule belongs to the set, has an id and has actions. -/
theorem of_validateDesiredRule {managedSetId : String} {rule : AuthzPolicyRule}
    (h : validateDesiredRule managedSetId rule = .ok ()) :
    rule.managedSetId = some managedSetId ∧ (∃ id, rule.managedRuleId = some id) ∧
      rule.lacksActions = false := by
  unfold validateDesiredRule at h
  cases hid : rule.managedRuleId with
  | none => simp [hid] at h
  | some id =>
      simp only [hid] at h
      split_ifs at h with hset hactions
      exact ⟨not_not.mp hset, ⟨id, rfl⟩, by simpa using hactions⟩

end Launchplane.Authz
