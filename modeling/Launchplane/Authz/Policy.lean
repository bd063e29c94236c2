import Mathlib.Data.Finset.Card
import Mathlib.Data.List.Infix
import Launchplane.Authz.Selectors
import Launchplane.Dict

/-!
# Launchplane.Authz.Policy

**The authorization policy.** Its rules, what a policy has to satisfy to be read
at all, how it decides a request, and who its administrators are.

`validate` is pydantic's: it normalises and then checks, so a policy that has
been validated once is `validate`'s own result.
-/

namespace Launchplane.Authz

/-! ### Principals -/

/-- `AuthzPolicySchemaVersion`. -/
inductive SchemaVersion
  | v1 | v2 | v3
  deriving Repr, DecidableEq

/-- The role a signed-in human has. -/
inductive HumanRole
  | readOnly | admin
  /-- A product owner with no policy role. -/
  | owner
  deriving Repr, DecidableEq

/-- `GitHubActionsIdentity`. -/
structure GitHubActionsIdentity where
  repository : String
  repositoryId : String := ""
  repositoryOwnerId : String := ""
  workflowRef : String
  jobWorkflowRef : String
  eventName : String
  ref : String
  environment : String
  deriving Repr, DecidableEq

/-- `GitHubHumanIdentity`. -/
structure GitHubHumanIdentity where
  login : String
  githubId : Int
  organizations : List String
  teams : List String
  role : HumanRole
  deriving Repr, DecidableEq

/-- An identity that is bound to a token. -/
structure TokenIdentity where
  subject : String
  tokenLabel : String
  deriving Repr, DecidableEq

/-- `LaunchplaneIdentity`. -/
inductive LaunchplaneIdentity
  | githubActions (identity : GitHubActionsIdentity)
  | githubHuman (identity : GitHubHumanIdentity)
  | terminalAgent (identity : TokenIdentity)
  | localOperator (identity : TokenIdentity)
  | localAdmin (identity : TokenIdentity)
  deriving Repr, DecidableEq

/-- `AuthorizationTarget`: an instance target names the instances, no other does. -/
inductive AuthorizationTarget
  | global | context | preview
  | instances (instances : List String)
  deriving Repr, DecidableEq

/-- Whether the target is an instance. -/
def AuthorizationTarget.onInstance : AuthorizationTarget → Bool
  | instances _ => true
  | _ => false

/-! ### Rules -/

/-- `ManagedAuthzPolicyRule` and `ScopedAuthzPolicyRule`: what every rule has. -/
structure ScopedRule where
  managedSetId : Option String := none
  managedRuleId : Option String := none
  products : List String := []
  contexts : List String := []
  instances : List String := []
  actions : List String := []
  deriving Repr, DecidableEq

/-- `GitHubActionsPolicyRule`. -/
structure GitHubActionsPolicyRule extends ScopedRule where
  repository : String
  repositoryId : String := ""
  repositoryOwnerId : String := ""
  workflowRefs : List String := []
  jobWorkflowRefs : List String := []
  eventNames : List String := []
  refs : List String := []
  environments : List String := []
  deriving Repr, DecidableEq

/-- `GitHubHumanPolicyRule`. -/
structure GitHubHumanPolicyRule extends ScopedRule where
  githubIds : List Int := []
  logins : List String := []
  organizations : List String := []
  teams : List String := []
  roles : List HumanRole := []
  deriving Repr, DecidableEq

/-- `TokenBoundAuthzPolicyRule`, of which there are three. -/
structure TokenBoundPolicyRule extends ScopedRule where
  subjects : List String := []
  tokenLabels : List String := []
  deriving Repr, DecidableEq

/-- `OrdinaryAgentTarget`. -/
structure OrdinaryAgentTarget where
  repositoryId : Nat
  repository : String
  baseBranch : String
  deriving Repr, DecidableEq

/-- `OrdinaryAgentAction`. -/
inductive OrdinaryAgentAction
  | selfRead | preflight | guardedMerge
  deriving Repr, DecidableEq

/-- `OrdinaryAgentPolicyRule`. -/
structure OrdinaryAgentPolicyRule where
  managedSetId : String
  managedRuleId : String
  principalId : String
  target : OrdinaryAgentTarget
  actions : List OrdinaryAgentAction
  deriving Repr, DecidableEq

/-- `LaunchplaneAuthzPolicy`. -/
structure LaunchplaneAuthzPolicy where
  schemaVersion : SchemaVersion := .v1
  administratorQuorum : Option Nat := none
  githubActions : List GitHubActionsPolicyRule := []
  githubHumans : List GitHubHumanPolicyRule := []
  terminalAgents : List TokenBoundPolicyRule := []
  localOperators : List TokenBoundPolicyRule := []
  localAdmins : List TokenBoundPolicyRule := []
  ordinaryAgents : List OrdinaryAgentPolicyRule := []
  deriving Repr, DecidableEq

/-! ### Validation -/

/-- A validator that accepts its own results as they are. -/
def Idempotent {α : Type} (validate : α → Except String α) : Prop :=
  ∀ a b, validate a = .ok b → validate b = .ok b

/-- The selectors that are not blank, each once. -/
def normalizedSelectors (instances : List String) : List String :=
  fromKeys ((instances.map pyStrip).filter (· ≠ ""))

theorem normalizedSelectors_normalizedSelectors (instances : List String) :
    normalizedSelectors (normalizedSelectors instances) = normalizedSelectors instances := by
  have hmem : ∀ i ∈ normalizedSelectors instances, pyStrip i = i ∧ i ≠ "" := by
    intro i hi
    simp only [normalizedSelectors, mem_fromKeys, List.mem_filter, List.mem_map,
      decide_eq_true_eq] at hi
    obtain ⟨⟨j, -, rfl⟩, hne⟩ := hi
    exact ⟨pyStrip_pyStrip j, hne⟩
  have hmap : (normalizedSelectors instances).map pyStrip = normalizedSelectors instances :=
    (List.map_congr_left (g := id) fun i hi => (hmem i hi).1).trans (List.map_id _)
  have hfilter : (normalizedSelectors instances).filter (· ≠ "") = normalizedSelectors instances :=
    List.filter_eq_self.mpr fun i hi => by simpa using (hmem i hi).2
  rw [normalizedSelectors, hmap, hfilter, normalizedSelectors, fromKeys_fromKeys]

/-- `_validated_instance_selectors`. -/
def validatedInstanceSelectors (instances : List String) : Except String (List String) :=
  if "*" ∈ normalizedSelectors instances ∧ normalizedSelectors instances ≠ ["*"] then
    .error "Authz instance wildcard must be the only instance selector."
  else if (normalizedSelectors instances).any
      (fun i => i ≠ "*" && i.toList.any (· ∈ ['*', '?', '[', ']'])) then
    .error "Authz instance selectors must be exact or the lone '*' wildcard."
  else .ok (normalizedSelectors instances)

theorem validatedInstanceSelectors_idempotent : Idempotent validatedInstanceSelectors := by
  intro instances normalized h
  unfold validatedInstanceSelectors at h
  split_ifs at h with hwildcard hexact
  cases h
  unfold validatedInstanceSelectors
  rw [normalizedSelectors_normalizedSelectors, if_neg hwildcard, if_neg hexact]

/-- `_MANAGED_AUTHZ_ID_PATTERN`. -/
def isManagedAuthzId (s : String) : Bool :=
  match s.toList with
  | [] => false
  | c :: cs => (c.isLower || c.isDigit) && cs.length ≤ 127 &&
      cs.all fun c => c.isLower || c.isDigit || c ∈ ['.', '_', ':', '/', '-']

/-- `_validate_managed_identity`. -/
def validateManagedIdentity (managedSetId managedRuleId : Option String) :
    Except String (Option String × Option String) :=
  let setId := pyStrip (managedSetId.getD "")
  let ruleId := pyStrip (managedRuleId.getD "")
  if (setId ≠ "") ≠ (ruleId ≠ "") then
    .error "Managed authz policy rules require both managed_set_id and managed_rule_id."
  else if setId = "" then .ok (none, none)
  else if !isManagedAuthzId setId then
    .error ("Authz managed_set_id must be a lowercase stable identifier using " ++
      "letters, numbers, '.', '_', ':', '/', or '-'.")
  else if !isManagedAuthzId ruleId then
    .error ("Authz managed_rule_id must be a lowercase stable identifier using " ++
      "letters, numbers, '.', '_', ':', '/', or '-'.")
  else .ok (some setId, some ruleId)

theorem validateManagedIdentity_idempotent {a b : Option String × Option String}
    (h : validateManagedIdentity a.1 a.2 = .ok b) : validateManagedIdentity b.1 b.2 = .ok b := by
  unfold validateManagedIdentity at h
  simp only at h
  split_ifs at h with hboth hnone hset hrule
  · cases h
    rfl
  · cases h
    simp only [validateManagedIdentity, Option.getD_some, pyStrip_pyStrip]
    rw [if_neg hboth, if_neg hnone, if_neg hset, if_neg hrule]

/-- The validators that every rule inherits. -/
def ScopedRule.validate (rule : ScopedRule) : Except String ScopedRule := do
  let instances ← validatedInstanceSelectors rule.instances
  let ids ← validateManagedIdentity rule.managedSetId rule.managedRuleId
  pure { rule with instances, managedSetId := ids.1, managedRuleId := ids.2 }

theorem ScopedRule.validate_idempotent : Idempotent ScopedRule.validate := by
  intro rule rule' h
  unfold ScopedRule.validate at h
  obtain ⟨instances, hinstances, h⟩ := bind_eq_ok.mp h
  obtain ⟨ids, hids, h⟩ := bind_eq_ok.mp h
  cases h
  have hids' := validateManagedIdentity_idempotent (a := (_, _)) hids
  simp [ScopedRule.validate, validatedInstanceSelectors_idempotent _ _ hinstances, hids', bind,
    Except.bind, pure, Except.pure]

/-- `GitHubActionsPolicyRule`'s own validator. `isDecimal` is `str.isdecimal` of one character. -/
def GitHubActionsPolicyRule.validate (isDecimal : Char → Bool) (rule : GitHubActionsPolicyRule) :
    Except String GitHubActionsPolicyRule := do
  let scope ← rule.toScopedRule.validate
  let repositoryId := pyStrip rule.repositoryId
  let repositoryOwnerId := pyStrip rule.repositoryOwnerId
  if (repositoryId ≠ "") ≠ (repositoryOwnerId ≠ "") then
    .error ("GitHub Actions authz rules require both repository_id and " ++
      "repository_owner_id when either immutable identifier is declared.")
  else if !repositoryId.toList.all isDecimal then
    .error "GitHub Actions authz repository_id must be a numeric GitHub ID."
  else if !repositoryOwnerId.toList.all isDecimal then
    .error "GitHub Actions authz repository_owner_id must be a numeric GitHub ID."
  else pure { rule with
    toScopedRule := scope, repository := pyStrip rule.repository, repositoryId, repositoryOwnerId }

theorem GitHubActionsPolicyRule.scope_of_validate {isDecimal : Char → Bool}
    {rule rule' : GitHubActionsPolicyRule} (h : rule.validate isDecimal = .ok rule') :
    rule.toScopedRule.validate = .ok rule'.toScopedRule := by
  unfold GitHubActionsPolicyRule.validate at h
  obtain ⟨scope, hscope, h⟩ := bind_eq_ok.mp h
  simp only at h
  split_ifs at h
  cases h
  exact hscope

theorem GitHubActionsPolicyRule.validate_idempotent (isDecimal : Char → Bool) :
    Idempotent (GitHubActionsPolicyRule.validate isDecimal) := by
  intro rule rule' h
  unfold GitHubActionsPolicyRule.validate at h
  obtain ⟨scope, hscope, h⟩ := bind_eq_ok.mp h
  simp only at h
  split_ifs at h with hboth hid howner
  cases h
  unfold GitHubActionsPolicyRule.validate
  simp only [ScopedRule.validate_idempotent _ _ hscope, pyStrip_pyStrip, bind, Except.bind]
  rw [if_neg hboth, if_neg hid, if_neg howner]
  rfl

/-- `GitHubHumanPolicyRule`'s own validator. -/
def GitHubHumanPolicyRule.validate (rule : GitHubHumanPolicyRule) :
    Except String GitHubHumanPolicyRule := do
  let scope ← rule.toScopedRule.validate
  if rule.githubIds.any (· < 1) then
    .error "GitHub human policy rule github_ids must be positive."
  else pure { rule with toScopedRule := scope, githubIds := fromKeys rule.githubIds }

theorem GitHubHumanPolicyRule.scope_of_validate {rule rule' : GitHubHumanPolicyRule}
    (h : rule.validate = .ok rule') : rule.toScopedRule.validate = .ok rule'.toScopedRule := by
  unfold GitHubHumanPolicyRule.validate at h
  obtain ⟨scope, hscope, h⟩ := bind_eq_ok.mp h
  split_ifs at h
  cases h
  exact hscope

/-- The ids of a rule are positive, and stay as they are when it is validated again. -/
theorem GitHubHumanPolicyRule.validate_eq_ok {rule rule' : GitHubHumanPolicyRule}
    (h : rule.validate = .ok rule') :
    (∀ id ∈ rule'.githubIds, 1 ≤ id) ∧ rule'.validate = .ok rule' := by
  unfold GitHubHumanPolicyRule.validate at h
  obtain ⟨scope, hscope, h⟩ := bind_eq_ok.mp h
  split_ifs at h with hpositive
  cases h
  have hmem : ∀ id ∈ fromKeys rule.githubIds, 1 ≤ id := by
    intro id hid
    simp only [List.any_eq_true, decide_eq_true_eq, not_exists, not_and, not_lt] at hpositive
    exact hpositive id (mem_fromKeys.mp hid)
  refine ⟨hmem, ?_⟩
  have hpositive' : ¬ (fromKeys rule.githubIds).any (· < 1) = true := by
    simpa [List.any_eq_true] using hmem
  unfold GitHubHumanPolicyRule.validate
  simp only [ScopedRule.validate_idempotent _ _ hscope, bind, Except.bind]
  rw [if_neg hpositive', fromKeys_fromKeys]
  rfl

/-- The token-bound rules have only the inherited validators. -/
def TokenBoundPolicyRule.validate (rule : TokenBoundPolicyRule) :
    Except String TokenBoundPolicyRule := do
  let scope ← rule.toScopedRule.validate
  pure { rule with toScopedRule := scope }

theorem TokenBoundPolicyRule.scope_of_validate {rule rule' : TokenBoundPolicyRule}
    (h : rule.validate = .ok rule') : rule.toScopedRule.validate = .ok rule'.toScopedRule := by
  unfold TokenBoundPolicyRule.validate at h
  obtain ⟨scope, hscope, h⟩ := bind_eq_ok.mp h
  cases h
  exact hscope

theorem TokenBoundPolicyRule.validate_idempotent : Idempotent TokenBoundPolicyRule.validate := by
  intro rule rule' h
  unfold TokenBoundPolicyRule.validate at h
  obtain ⟨scope, hscope, h⟩ := bind_eq_ok.mp h
  cases h
  simp [TokenBoundPolicyRule.validate, ScopedRule.validate_idempotent _ _ hscope, bind,
    Except.bind, pure, Except.pure]

/-- `OrdinaryAgentTarget`'s validators. -/
def OrdinaryAgentTarget.check (target : OrdinaryAgentTarget) : Except String Unit :=
  let isName (cs : List Char) : Bool :=
    cs ≠ [] && cs.all fun c => c.isAlphanum || c ∈ ['_', '.', '-']
  let branch := target.baseBranch.toList
  let components := branch.splitOn '/'
  if target.repositoryId = 0 ∨ 2 ^ 63 ≤ target.repositoryId then
    .error "repository_id must be a positive 64-bit number"
  else if 140 < target.repository.toList.length then
    .error "repository should have at most 140 characters"
  else if (match target.repository.toList.splitOn '/' with
      | [owner, name] => !(isName owner && isName name)
      | _ => true) then
    .error "repository should match its pattern"
  else if (target.repository.toList.splitOn '/').any (· ∈ [['.'], ['.', '.']]) then
    .error "repository owner and name must be canonical exact components"
  else if branch = [] ∨ 255 < branch.length then
    .error "base_branch should have 1 to 255 characters"
  else if pyStrip target.baseBranch ≠ target.baseBranch ∨ target.baseBranch = "@" ∨
      ["/", ".", "-"].any (·.toList.isPrefixOf branch) ∨
      ["/", ".", ".lock"].any (·.toList.isSuffixOf branch) ∨
      ["..", "@\x7b", "\\", ":", "//"].any (fun part => decide (part.toList <:+: branch)) ∨
      branch.any (fun c => isPySpace c || c.toNat < 32 || c.toNat = 127) ∨
      branch.any (· ∈ ['*', '?', '[', ']', '~', '^']) ∨
      components.any (fun component =>
        ".".toList.isPrefixOf component || ".lock".toList.isSuffixOf component) then
    .error "base branch must be one exact canonical Git ref name"
  else .ok ()

/-- `OrdinaryAgentPolicyRule`'s validators, which change nothing. -/
def OrdinaryAgentPolicyRule.validate (rule : OrdinaryAgentPolicyRule) :
    Except String OrdinaryAgentPolicyRule := do
  if !isManagedAuthzId rule.managedSetId then .error "managed_set_id should match its pattern"
  else if !isManagedAuthzId rule.managedRuleId then .error "managed_rule_id should match its pattern"
  else if (match rule.principalId.toList with
      | [] => true
      | c :: cs => !(c.isLower && 2 ≤ cs.length && cs.length ≤ 127 &&
          cs.all fun c => c.isLower || c.isDigit || c ∈ ['_', '-'])) then
    .error "principal_id should match its pattern"
  else
    rule.target.check
    if rule.actions = [] then .error "actions should have at least 1 item"
    else if ¬ rule.actions.Nodup then .error "policy rule actions must be unique"
    else pure rule

theorem OrdinaryAgentPolicyRule.validate_idempotent :
    Idempotent OrdinaryAgentPolicyRule.validate := by
  intro rule rule' h
  have hsame : rule' = rule := by
    unfold OrdinaryAgentPolicyRule.validate at h
    split_ifs at h with _ _ _ _ _
    all_goals
      obtain ⟨-, -, h⟩ := bind_eq_ok.mp h
      cases h
    rfl
  rwa [hsame] at h ⊢

/-- What the policy's validator reads of a rule of any kind. -/
structure RuleView where
  scope : ScopedRule
  /-- The subjects and token labels of a token-bound agent rule. -/
  agent : Option (List String × List String)

namespace LaunchplaneAuthzPolicy

/-- The rules that have a scope, in the order of the collections. -/
def views (policy : LaunchplaneAuthzPolicy) : List RuleView :=
  policy.githubActions.map (⟨·.toScopedRule, none⟩) ++
    policy.githubHumans.map (⟨·.toScopedRule, none⟩) ++
    policy.terminalAgents.map (fun rule => ⟨rule.toScopedRule, some (rule.subjects, rule.tokenLabels)⟩) ++
    policy.localOperators.map (fun rule => ⟨rule.toScopedRule, some (rule.subjects, rule.tokenLabels)⟩) ++
    policy.localAdmins.map (⟨·.toScopedRule, none⟩)

/-- The read role of an agent takes exact selectors. -/
def checkReadRole (schema : SchemaVersion) (rule : RuleView) : Except String Unit :=
  if agentReadRoleAction ∈ rule.scope.actions then
    match rule.agent with
    | none => .error "The read role requires a token-bound agent rule."
    | some (subjects, tokenLabels) =>
        if schema = .v1 ∨ subjects = [] ∨ tokenLabels = [] ∨ rule.scope.products = [] ∨
            (subjects ++ tokenLabels ++ rule.scope.products).any (fun item =>
              pyStrip item = "" || item.toList.any (· ∈ ['*', '?', '['])) then
          .error "The read role requires exact agent and product selectors in schema 2 or 3."
        else .ok ()
  else .ok ()

/-- A rule on its own, under the schema of its policy. -/
def checkRule (schema : SchemaVersion) (rule : RuleView) : Except String Unit := do
  checkReadRole schema rule
  if schema = .v1 ∧ rule.scope.instances ≠ [] then
    .error "Schema-v1 authz policy rules cannot declare instances."
  else if schema = .v1 ∧ rule.scope.managedSetId.isSome then
    .error "Schema-v1 authz policy rules cannot declare managed IDs."
  else if schema = .v1 ∨ rule.scope.actions = [] then pure ()
  else if rule.scope.actions.any (· ∈ exclusivelyInstanceScopedAuthzActions) ∧
      rule.scope.instances = [] then
    .error "Schema-v2 instance-scoped authz policy rules require instances."
  else if rule.scope.instances ≠ [] ∧
      rule.scope.actions.any (· ∉ instanceScopedAuthzActions) then
    .error ("Schema-v2 authz policy rules can only declare instances for " ++
      "instance-scoped actions.")
  else pure ()

/-- The managed identities of the rules, which must not repeat. -/
def managedIdentities (policy : LaunchplaneAuthzPolicy) : List (String × String) :=
  policy.views.filterMap (fun rule =>
    match rule.scope.managedSetId, rule.scope.managedRuleId with
    | some managedSetId, some managedRuleId => some (managedSetId, managedRuleId)
    | _, _ => none) ++
  policy.ordinaryAgents.map fun rule => (rule.managedSetId, rule.managedRuleId)

/-- `_validate_instance_rule_schema`. Of several errors this may report another than the code,
which goes through the rules one after the other. -/
def check (policy : LaunchplaneAuthzPolicy) : Except String Unit := do
  if policy.administratorQuorum = some 0 then
    .error "administrator_quorum should be greater than or equal to 1"
  else if policy.schemaVersion = .v1 ∧ policy.administratorQuorum.isSome then
    .error "Schema-v1 authz policies cannot declare administrator_quorum."
  else
    policy.views.forM (checkRule policy.schemaVersion)
    if policy.schemaVersion ≠ .v3 ∧ policy.ordinaryAgents ≠ [] then
      .error "Ordinary-agent policy rules require authz policy schema version 3."
    else if ¬ policy.managedIdentities.Nodup then
      .error "Authz managed rule identities must be unique across the policy."
    else pure ()

/-- `LaunchplaneAuthzPolicy.model_validate`. -/
def validate (isDecimal : Char → Bool) (policy : LaunchplaneAuthzPolicy) :
    Except String LaunchplaneAuthzPolicy := do
  let githubActions ← policy.githubActions.mapM (·.validate isDecimal)
  let githubHumans ← policy.githubHumans.mapM (·.validate)
  let terminalAgents ← policy.terminalAgents.mapM (·.validate)
  let localOperators ← policy.localOperators.mapM (·.validate)
  let localAdmins ← policy.localAdmins.mapM (·.validate)
  let ordinaryAgents ← policy.ordinaryAgents.mapM (·.validate)
  let validated := { policy with
    githubActions, githubHumans, terminalAgents, localOperators, localAdmins, ordinaryAgents }
  validated.check
  pure validated

/-- A policy as it is after validation. -/
def Valid (isDecimal : Char → Bool) (policy : LaunchplaneAuthzPolicy) : Prop :=
  policy.validate isDecimal = .ok policy

section

variable {isDecimal : Char → Bool} {policy policy' : LaunchplaneAuthzPolicy}

theorem mapM_eq_self {α : Type} {f : α → Except String α} (hf : Idempotent f) {xs ys : List α}
    (h : xs.mapM f = .ok ys) : ys.mapM f = .ok ys := by
  induction xs generalizing ys with
  | nil =>
      cases h
      rfl
  | cons x xs ih =>
      rw [List.mapM_cons] at h
      obtain ⟨y, hy, h⟩ := bind_eq_ok.mp h
      obtain ⟨rest, hrest, h⟩ := bind_eq_ok.mp h
      cases h
      simp [hf _ _ hy, ih hrest, bind, Except.bind, pure, Except.pure]

/-- **What was validated once is read back as it is.** -/
theorem valid_of_validate (h : policy.validate isDecimal = .ok policy') :
    policy'.Valid isDecimal := by
  unfold validate at h
  obtain ⟨githubActions, hactions, h⟩ := bind_eq_ok.mp h
  obtain ⟨githubHumans, hhumans, h⟩ := bind_eq_ok.mp h
  obtain ⟨terminalAgents, hterminal, h⟩ := bind_eq_ok.mp h
  obtain ⟨localOperators, hoperators, h⟩ := bind_eq_ok.mp h
  obtain ⟨localAdmins, hadmins, h⟩ := bind_eq_ok.mp h
  obtain ⟨ordinaryAgents, hordinary, h⟩ := bind_eq_ok.mp h
  obtain ⟨⟨⟩, hcheck, h⟩ := bind_eq_ok.mp h
  cases h
  have htoken := TokenBoundPolicyRule.validate_idempotent
  unfold Valid validate
  simp only [mapM_eq_self (GitHubActionsPolicyRule.validate_idempotent isDecimal) hactions,
    mapM_eq_self (fun _ _ h => (GitHubHumanPolicyRule.validate_eq_ok h).2) hhumans,
    mapM_eq_self htoken hterminal, mapM_eq_self htoken hoperators, mapM_eq_self htoken hadmins,
    mapM_eq_self OrdinaryAgentPolicyRule.validate_idempotent hordinary, bind, Except.bind]
  simp only [hcheck]
  rfl

/-- What a valid policy is made of. -/
theorem Valid.parts (h : policy.Valid isDecimal) :
    policy.githubActions.mapM (·.validate isDecimal) = .ok policy.githubActions ∧
      policy.githubHumans.mapM (·.validate) = .ok policy.githubHumans ∧
      policy.terminalAgents.mapM (·.validate) = .ok policy.terminalAgents ∧
      policy.localOperators.mapM (·.validate) = .ok policy.localOperators ∧
      policy.localAdmins.mapM (·.validate) = .ok policy.localAdmins ∧
      policy.check = .ok () := by
  unfold Valid validate at h
  obtain ⟨githubActions, hactions, h⟩ := bind_eq_ok.mp h
  obtain ⟨githubHumans, hhumans, h⟩ := bind_eq_ok.mp h
  obtain ⟨terminalAgents, hterminal, h⟩ := bind_eq_ok.mp h
  obtain ⟨localOperators, hoperators, h⟩ := bind_eq_ok.mp h
  obtain ⟨localAdmins, hadmins, h⟩ := bind_eq_ok.mp h
  obtain ⟨ordinaryAgents, -, h⟩ := bind_eq_ok.mp h
  obtain ⟨⟨⟩, hcheck, h⟩ := bind_eq_ok.mp h
  injection h with h
  rw [h] at hcheck
  exact ⟨hactions.trans (congrArg (Except.ok ·.githubActions) h),
    hhumans.trans (congrArg (Except.ok ·.githubHumans) h),
    hterminal.trans (congrArg (Except.ok ·.terminalAgents) h),
    hoperators.trans (congrArg (Except.ok ·.localOperators) h),
    hadmins.trans (congrArg (Except.ok ·.localAdmins) h), hcheck⟩

theorem checkRule_v1 {rule : RuleView} (h : checkRule .v1 rule = .ok ()) :
    rule.scope.instances = [] ∧ rule.scope.managedSetId = none := by
  unfold checkRule at h
  obtain ⟨-, -, h⟩ := bind_eq_ok.mp h
  split_ifs at h with hinstances hset
  · exact ⟨by simpa using hinstances, by simpa using hset⟩
  all_goals simp_all

theorem mem_views {view : RuleView}
    (h : (∃ rule ∈ policy.githubActions, (⟨rule.toScopedRule, none⟩ : RuleView) = view) ∨
      (∃ rule ∈ policy.githubHumans, (⟨rule.toScopedRule, none⟩ : RuleView) = view) ∨
      (∃ rule ∈ policy.terminalAgents,
        (⟨rule.toScopedRule, some (rule.subjects, rule.tokenLabels)⟩ : RuleView) = view) ∨
      (∃ rule ∈ policy.localOperators,
        (⟨rule.toScopedRule, some (rule.subjects, rule.tokenLabels)⟩ : RuleView) = view) ∨
      ∃ rule ∈ policy.localAdmins, (⟨rule.toScopedRule, none⟩ : RuleView) = view) :
    view ∈ policy.views := by
  simpa only [views, List.mem_append, List.mem_map, or_assoc] using h

end

end LaunchplaneAuthzPolicy

/-! ### Decisions -/

/-- `_instances_allowed`. -/
def instancesAllowed (allowedInstances : List String) (target : AuthorizationTarget)
    (schema : SchemaVersion) : Bool :=
  match target with
  | .instances instances =>
      if allowedInstances = [] then schema = .v1
      else allowedInstances = ["*"] || instances.all (· ∈ allowedInstances)
  | _ => allowedInstances = []

/-- A request to be decided. -/
structure AuthzRequest where
  action : String
  product : String
  context : String
  target : AuthorizationTarget := .context
  deriving Repr, DecidableEq

/-- `allows_scope`, with the way the kind of rule reads its products and contexts. -/
def ScopedRule.allowsScope (rule : ScopedRule) (selectorMatches : String → List String → Bool)
    (request : AuthzRequest) (schema : SchemaVersion) : Bool :=
  (rule.products = [] || selectorMatches request.product rule.products) &&
    (rule.contexts = [] || selectorMatches request.context rule.contexts) &&
    instancesAllowed rule.instances request.target schema &&
    (rule.actions = [] || request.action ∈ rule.actions)

/-- The selectors of a rule that is not a pattern rule are the values themselves. -/
def exactSelectorMatches (value : String) (selectors : List String) : Bool := value ∈ selectors

/-- `GitHubActionsPolicyRule.allows`. -/
def GitHubActionsPolicyRule.allows (rule : GitHubActionsPolicyRule)
    (identity : GitHubActionsIdentity) (request : AuthzRequest) (schema : SchemaVersion) : Bool :=
  pyStrip rule.repository = identity.repository &&
    (rule.repositoryId = "" || rule.repositoryId = identity.repositoryId) &&
    (rule.repositoryOwnerId = "" || rule.repositoryOwnerId = identity.repositoryOwnerId) &&
    (rule.workflowRefs = [] || authzSelectorMatches identity.workflowRef rule.workflowRefs) &&
    (rule.jobWorkflowRefs = [] ||
      authzSelectorMatches identity.jobWorkflowRef rule.jobWorkflowRefs) &&
    (rule.eventNames = [] || identity.eventName ∈ rule.eventNames) &&
    (rule.refs = [] || identity.ref ∈ rule.refs) &&
    (rule.environments = [] || identity.environment ∈ rule.environments) &&
    rule.allowsScope authzSelectorMatches request schema

/-- `_intersects`. -/
def selectorsIntersect (values allowedValues : List String) : Bool :=
  values.any fun value => allowedValues.any (fnmatchcase (pyStrip value))

/-- `matches_principal`. -/
def GitHubHumanPolicyRule.matchesPrincipal (rule : GitHubHumanPolicyRule) (githubId : Int)
    (login : String) (organizations teams : List String) (role : HumanRole) : Bool :=
  role ≠ .owner &&
    (rule.githubIds = [] || githubId ∈ rule.githubIds) &&
    (rule.logins = [] || authzSelectorMatches login rule.logins) &&
    (rule.organizations = [] || selectorsIntersect organizations rule.organizations) &&
    (rule.teams = [] || selectorsIntersect teams rule.teams) &&
    (rule.roles = [] || role ∈ rule.roles)

/-- `GitHubHumanPolicyRule.allows`. -/
def GitHubHumanPolicyRule.allows (rule : GitHubHumanPolicyRule) (identity : GitHubHumanIdentity)
    (request : AuthzRequest) (schema : SchemaVersion) : Bool :=
  rule.matchesPrincipal identity.githubId identity.login identity.organizations identity.teams
      identity.role &&
    rule.allowsScope exactSelectorMatches request schema

/-- `allows_token_bound_identity`. -/
def TokenBoundPolicyRule.allows (rule : TokenBoundPolicyRule)
    (selectorMatches : String → List String → Bool) (identity : TokenIdentity)
    (request : AuthzRequest) (schema : SchemaVersion) : Bool :=
  (rule.subjects = [] || authzSelectorMatches identity.subject rule.subjects) &&
    (rule.tokenLabels = [] || authzSelectorMatches identity.tokenLabel rule.tokenLabels) &&
    rule.allowsScope selectorMatches request schema

/-- `is_strict_immutable_github_human_administrator_rule`. -/
def GitHubHumanPolicyRule.isStrictAdministrator (rule : GitHubHumanPolicyRule) : Bool :=
  rule.githubIds ≠ [] && HumanRole.admin ∈ rule.roles && authzPolicyAdminAction ∈ rule.actions &&
    rule.products = ["launchplane"] && rule.contexts = ["launchplane"] && rule.logins = [] &&
    rule.organizations = [] && rule.teams = [] && rule.instances = []

/-- `AuthzDecisionReason`; the decision is `allowed` for the reason of that name alone. -/
inductive AuthzDecisionReason
  | allowed | authzPolicySchemaIncompatible | instanceScopeRequired | principalRoleRestricted
  | principalBindingInvalid | noMatchingGrant
  deriving Repr, DecidableEq

/-- `local_operator_identity_valid` and `local_admin_identity_valid`. -/
def localIdentityValid (identity : TokenIdentity) (action : String) : Bool :=
  pyStrip identity.subject ≠ "" && pyStrip identity.tokenLabel ≠ "" && pyStrip action ≠ ""

namespace LaunchplaneAuthzPolicy

/-- `strict_immutable_github_human_administrator_ids`. -/
def strictAdministratorIds (policy : LaunchplaneAuthzPolicy) : Finset Int :=
  ((policy.githubHumans.filter (·.isStrictAdministrator)).flatMap (·.githubIds)).toFinset

/-- `authz_policy_allows_immutable_github_id_administration`. -/
def allowsImmutableGithubIdAdministration (policy : LaunchplaneAuthzPolicy) (githubId : Int) :
    Bool :=
  0 < githubId && githubId ∈ policy.strictAdministratorIds

/-- `effective_administrator_quorum`. -/
def effectiveAdministratorQuorum (policy : LaunchplaneAuthzPolicy) : Nat :=
  match policy.administratorQuorum with
  | none => 2
  | some 0 => 2
  | some quorum => quorum

/-- `names_administrator`. -/
def namesAdministrator (policy : LaunchplaneAuthzPolicy) (identity : GitHubHumanIdentity) : Bool :=
  identity.role = .admin && policy.allowsImmutableGithubIdAdministration identity.githubId

/-- `human_role_for`. -/
def humanRoleFor (policy : LaunchplaneAuthzPolicy) (githubId : Int) (login : String)
    (organizations teams : List String) : Option HumanRole :=
  if policy.githubHumans.any (·.matchesPrincipal githubId login organizations teams .admin) then
    some .admin
  else if policy.githubHumans.any
      (·.matchesPrincipal githubId login organizations teams .readOnly) then
    some .readOnly
  else none

/-- The rules of the identity's kind decide; an administrator needs none. -/
def hasGrant (policy : LaunchplaneAuthzPolicy) (request : AuthzRequest) :
    LaunchplaneIdentity → Bool
  | .githubHuman identity =>
      policy.namesAdministrator identity ||
        policy.githubHumans.any (·.allows identity request policy.schemaVersion)
  | .terminalAgent identity =>
      policy.terminalAgents.any
        (·.allows exactSelectorMatches identity request policy.schemaVersion)
  | .localOperator identity =>
      policy.localOperators.any
        (·.allows authzSelectorMatches identity request policy.schemaVersion)
  | .localAdmin identity =>
      policy.localAdmins.any
        (·.allows authzSelectorMatches identity request policy.schemaVersion)
  | .githubActions identity =>
      policy.githubActions.any (·.allows identity request policy.schemaVersion)

/-- The identities that are turned away whatever the rules are. -/
def restriction (request : AuthzRequest) : LaunchplaneIdentity → Option AuthzDecisionReason
  | .githubHuman identity =>
      if identity.role = .owner ∨
          (identity.role = .readOnly ∧ ¬ limitedRemoteUserActionAllowed request.action) then
        some .principalRoleRestricted
      else none
  | .localOperator identity | .localAdmin identity =>
      if localIdentityValid identity request.action then none else some .principalBindingInvalid
  | _ => none

/-- `evaluate`, where the agents' read role is not inherited. -/
def evaluate (policy : LaunchplaneAuthzPolicy) (identity : LaunchplaneIdentity)
    (request : AuthzRequest) : AuthzDecisionReason :=
  if policy.schemaVersion = .v1 ∧ request.action ∈ exactInstanceWorkflowAuthzActions then
    .authzPolicySchemaIncompatible
  else if policy.schemaVersion ≠ .v1 ∧ request.action ∈ exclusivelyInstanceScopedAuthzActions ∧
      ¬ request.target.onInstance then
    .instanceScopeRequired
  else match restriction request identity with
    | some reason => reason
    | none => if policy.hasGrant request identity then .allowed else .noMatchingGrant

theorem mem_strictAdministratorIds {policy : LaunchplaneAuthzPolicy} {id : Int} :
    id ∈ policy.strictAdministratorIds ↔
      ∃ rule ∈ policy.githubHumans, rule.isStrictAdministrator = true ∧ id ∈ rule.githubIds := by
  simp [strictAdministratorIds, and_assoc]

end LaunchplaneAuthzPolicy

end Launchplane.Authz
