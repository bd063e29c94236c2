import Launchplane.Text

/-!
# Launchplane.Authz.Selectors

**What a policy rule selects by.** Patterns as `fnmatch` reads them, the
catalogs of actions that ask for an instance, and how much an action may do.
-/

namespace Launchplane.Authz

/-! ### Patterns -/

/-- One element of a pattern. -/
inductive PatternToken
  | char (c : Char)
  | any
  | star
  /-- A set of ranges, a single character being a range of its own. -/
  | set (negated : Bool) (ranges : List (Char × Char))
  deriving Repr, DecidableEq

/-- The members of a set: `a-z` is a range, a hyphen at either end is itself. -/
def setRanges : List Char → List (Char × Char)
  | lo :: '-' :: hi :: rest => (lo, hi) :: setRanges rest
  | c :: rest => (c, c) :: setRanges rest
  | [] => []

/-- What stands between the brackets, and what follows them. A `]` that comes first is a member. -/
def bracketBody (pattern : List Char) : Option (Bool × List Char × List Char) :=
  let (negated, body) := match pattern with
    | '!' :: rest => (true, rest)
    | rest => (false, rest)
  let (first, tail) := match body with
    | ']' :: rest => ([']'], rest)
    | rest => ([], rest)
  match tail.dropWhile (· ≠ ']') with
  | ']' :: rest => some (negated, first ++ tail.takeWhile (· ≠ ']'), rest)
  | _ => none

/-- `fnmatch.translate`: a bracket that is never closed is itself. -/
def patternTokens : Nat → List Char → List PatternToken
  | 0, _ => []
  | _, [] => []
  | fuel + 1, '*' :: rest => .star :: patternTokens fuel rest
  | fuel + 1, '?' :: rest => .any :: patternTokens fuel rest
  | fuel + 1, '[' :: rest =>
      match bracketBody rest with
      | some (negated, members, after) => .set negated (setRanges members) :: patternTokens fuel after
      | none => .char '[' :: patternTokens fuel rest
  | fuel + 1, c :: rest => .char c :: patternTokens fuel rest

/-- Whether an element other than a star takes a character. -/
def PatternToken.takes (c : Char) : PatternToken → Bool
  | char d => c == d
  | any => true
  | star => false
  | set negated ranges => (ranges.any fun range => range.1 ≤ c && c ≤ range.2) != negated

/-- Whether the elements match a whole text. -/
def matchTokens : List PatternToken → List Char → Bool
  | [], cs => cs.isEmpty
  | .star :: tokens, cs => cs.tails.any (matchTokens tokens)
  | token :: tokens, c :: cs => token.takes c && matchTokens tokens cs
  | _ :: _, [] => false

/-- `fnmatch.fnmatchcase`. Each element of a pattern takes at least one of its characters. -/
def fnmatchcase (name pattern : String) : Bool :=
  matchTokens (patternTokens pattern.toList.length pattern.toList) name.toList

example : fnmatchcase "acme/site@refs/heads/main" "acme/*@refs/heads/[a-m]ain" = true := by
  decide +kernel

/-- `authz_selector_matches`. -/
def authzSelectorMatches (value : String) (selectors : List String) : Bool :=
  selectors.any (fnmatchcase (pyStrip value))

/-! ### Actions -/

/-- `AGENT_READ_ROLE_ACTION`. -/
def agentReadRoleAction : String := "agent.read"

/-- The action that changes the policy itself. -/
def authzPolicyAdminAction : String := "authz_policy_grant.write"

/-- `instance_scoped_driver_authz_actions`: of the actions of the drivers, those on an instance. -/
def instanceScopedDriverAuthzActions : List String :=
  ["live_target_runtime.apply", "live_target_runtime.plan", "generic_web_deploy.execute",
    "generic_web_prod_promotion.execute", "generic_web_prod_promotion.dispatch",
    "generic_web_prod_rollback.plan", "generic_web_prod_rollback.execute", "deployment.write",
    "odoo_app_maintenance.execute", "odoo_testing_walkthrough.execute",
    "odoo_testing_walkthrough.plan", "odoo_post_deploy.execute",
    "odoo_config_parameter_override.write", "odoo_website_bootstrap_override.write",
    "odoo_stable_bootstrap.execute", "odoo_prod_promotion_inputs.read",
    "odoo_prod_promotion_run.execute", "odoo_prod_backup_gate.execute",
    "odoo_prod_backup_verification.execute", "odoo_prod_backup_restore_plan.read",
    "odoo_prod_retained_volume_backup_import_plan.execute",
    "odoo_prod_retained_volume_backup_import_apply.execute",
    "odoo_prod_backup_restore_apply.execute", "odoo_prod_promotion.execute",
    "odoo_prod_rollback.execute", "odoo_target_replacement_plan.read",
    "odoo_target_replacement_apply.execute"]

/-- `_NON_DESCRIPTOR_INSTANCE_SCOPED_AUTHZ_ACTIONS`. -/
def nonDescriptorInstanceScopedAuthzActions : List String :=
  ["odoo_connection_isolation.plan", "odoo_connection_isolation.read",
    "odoo_connection_isolation.apply", "backup_gate.write", "verireel_prod_backup_gate.execute",
    "odoo_artifact_publish_inputs.read", "odoo_artifact_publish.write",
    "verireel_testing_deploy.execute", "verireel_stable_environment.read",
    "verireel_prod_deploy.execute", "verireel_prod_promotion.execute",
    "verireel_prod_rollback.execute", "verireel_app_maintenance.execute", "deployment.read",
    "dokploy_target.lane_setup", "every_code_feedback_resume.request",
    "every_code_feedback_resume.execute", "generic_web_deploy_recovery_provider_evidence.read",
    "generic_web_deploy_recovery.plan", "inventory.read", "ingress_route.audit",
    "product_profile.health_monitoring.apply", "product_profile.health_monitoring.plan",
    "product_profile.prelaunch_rebuild.apply", "product_profile.prelaunch_rebuild.plan",
    "product_retirement.apply", "product_retirement.plan", "production_backup_authority.read",
    "production_backup_authority.plan", "production_backup_authority.write",
    "production_backup_gate.execute", "client_release_backup.continue", "promotion.write",
    "promotion.read", "route_binding.external.apply", "route_binding.external.plan",
    "target_logs.read"]

/-- `exact_instance_workflow_authz_actions`. -/
def exactInstanceWorkflowAuthzActions : List String :=
  ["product_profile.health_monitoring.apply", "product_profile.health_monitoring.plan",
    "product_profile.prelaunch_rebuild.apply", "product_profile.prelaunch_rebuild.plan",
    "product_retirement.apply", "product_retirement.plan", "route_binding.external.apply",
    "route_binding.external.plan"]

/-- `_DUAL_SCOPE_AUTHZ_ACTIONS`. -/
def dualScopeAuthzActions : List String :=
  [agentReadRoleAction, "generic_web_prod_promotion.dry_run", "generic_web_rollback.execute",
    "driver.read", "ingress_route.apply", "ingress_route.plan", "live_target_runtime.apply",
    "live_target_runtime.plan", "operations.read", "product_config.apply", "product_config.plan",
    "product_environment.read", "route_binding.apply", "route_binding.read", "secret.list",
    "secret.read"]

/-- `instance_scoped_authz_actions`. -/
def instanceScopedAuthzActions : List String :=
  instanceScopedDriverAuthzActions ++ nonDescriptorInstanceScopedAuthzActions ++
    dualScopeAuthzActions

/-- `exclusively_instance_scoped_authz_actions`. -/
def exclusivelyInstanceScopedAuthzActions : List String :=
  instanceScopedAuthzActions.filter (· ∉ dualScopeAuthzActions)

theorem admin_notMem_exclusivelyInstanceScoped :
    authzPolicyAdminAction ∉ exclusivelyInstanceScopedAuthzActions := by decide +kernel

/-! ### How much an action may do -/

/-- `AgentConsumerActionSafety`. -/
inductive ActionSafety
  | read | safeWrite | mutation | prod | destructive | secretBacked | policyAdmin
  deriving Repr, DecidableEq

/-- `action_safety`. -/
def actionSafety (action : String) : ActionSafety :=
  let normalized := pyStrip action
  let parts := ((normalized.toList.splitOnP fun c => c ∈ ['_', '.', '-']).filter (· ≠ [])).map
    String.ofList
  if normalized = "" then .read
  else if ["ordinary_agent_delivery_activation.", "authz_policy",
      "merge_train_policy_operation"].any (·.toList.isPrefixOf normalized.toList) ||
      normalized ∈ ["change_impact_policy.write", "engineering_review_authority.write",
        "product_owner_policy.write", "product_owner_requirement.write",
        "product_owner_routing.write"] then .policyAdmin
  else if "secret" ∈ parts || ".secret".toList.isSuffixOf normalized.toList then .secretBacked
  else if ["destroy", "cleanup", "delete", "rollback", "restore"].any (· ∈ parts) then .destructive
  else if "prod" ∈ parts || "promotion" ∈ parts then .prod
  else if normalized ∈ ["agent_write_intent.plan", "authz_diagnostic.evaluate"] ||
      ".read".toList.isSuffixOf normalized.toList then .read
  else if ".write".toList.isSuffixOf normalized.toList || "rerun" ∈ parts ||
      "reconcile" ∈ parts then .safeWrite
  else .mutation

/-- `limited_remote_user_action_allowed`. -/
def limitedRemoteUserActionAllowed (action : String) : Bool :=
  actionSafety action = .read || actionSafety action = .safeWrite

end Launchplane.Authz
