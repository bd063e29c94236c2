import Launchplane.Authz.Policy

/-!
# Launchplane.Authz.Inheritance

**Decisions with the read role inherited.** An agent's rule that grants the read
role grants the reading actions too, and the service's own agents have a standing
of their own. Without inheritance the decision is `evaluate`'s.
-/

namespace Launchplane.Authz

/-- The declared effects of the actions. -/
structure ActionEffects where
  /-- `agent_read_role_covers`. -/
  readRoleCovers : String → Bool
  /-- `director_agent_standing_covers`. -/
  directorStandingCovers : String → Bool

/-- An identity, with the marker that only the service's own transport sets on an agent. -/
structure MarkedIdentity where
  identity : LaunchplaneIdentity
  directorAgent : Bool := false
  deriving Repr, DecidableEq

variable (effects : ActionEffects) (inherit : Bool)

/-- The request an agent's rule is asked, which may be the read role in place of a reading action. -/
def inheritedRequest (rule : ScopedRule) (request : AuthzRequest) : AuthzRequest :=
  if inherit && agentReadRoleAction ∈ rule.actions && effects.readRoleCovers request.action then
    { request with action := agentReadRoleAction }
  else request

/-- `TerminalAgentPolicyRule.allows` and `LocalOperatorPolicyRule.allows`. -/
def TokenBoundPolicyRule.allowsInheriting (rule : TokenBoundPolicyRule)
    (selectorMatches : String → List String → Bool) (identity : TokenIdentity)
    (request : AuthzRequest) (schema : SchemaVersion) : Bool :=
  rule.allows selectorMatches identity (inheritedRequest effects inherit rule.toScopedRule request)
    schema

/-- `director_agent_identity`, of an agent's identity. -/
def directorAgentIdentity (identity : TokenIdentity) (directorAgent : Bool) : Bool :=
  directorAgent && pyStrip identity.subject ≠ "" && pyStrip identity.tokenLabel ≠ ""

/-- What the service's own agents may do by their standing. -/
def directorStanding (identity : TokenIdentity) (directorAgent : Bool) (request : AuthzRequest) :
    Bool :=
  inherit && directorAgentIdentity identity directorAgent &&
    effects.directorStandingCovers request.action

namespace LaunchplaneAuthzPolicy

/-- Whether the rules of the identity's kind or its standing grant a request. -/
def hasGrantInheriting (policy : LaunchplaneAuthzPolicy) (request : AuthzRequest)
    (marked : MarkedIdentity) : Bool :=
  match marked.identity with
  | .terminalAgent identity =>
      directorStanding effects inherit identity marked.directorAgent request ||
        policy.terminalAgents.any (·.allowsInheriting effects inherit exactSelectorMatches identity
          request policy.schemaVersion)
  | .localOperator identity =>
      directorStanding effects inherit identity marked.directorAgent request ||
        policy.localOperators.any (·.allowsInheriting effects inherit authzSelectorMatches identity
          request policy.schemaVersion)
  | identity => policy.hasGrant request identity

/-- `evaluate`. -/
def evaluateInheriting (policy : LaunchplaneAuthzPolicy) (marked : MarkedIdentity)
    (request : AuthzRequest) : AuthzDecisionReason :=
  if policy.schemaVersion = .v1 ∧ request.action ∈ exactInstanceWorkflowAuthzActions then
    .authzPolicySchemaIncompatible
  else if policy.schemaVersion ≠ .v1 ∧ request.action ∈ exclusivelyInstanceScopedAuthzActions ∧
      ¬ request.target.onInstance then
    .instanceScopeRequired
  else match restriction request marked.identity with
    | some reason => reason
    | none =>
      if policy.hasGrantInheriting effects inherit request marked then .allowed else .noMatchingGrant

/-- Nothing is inherited unless it is asked for. -/
theorem evaluateInheriting_false (policy : LaunchplaneAuthzPolicy) (marked : MarkedIdentity)
    (request : AuthzRequest) :
    policy.evaluateInheriting effects false marked request = policy.evaluate marked.identity request := by
  have hgrant : policy.hasGrantInheriting effects false request marked =
      policy.hasGrant request marked.identity := by
    unfold hasGrantInheriting
    cases marked.identity with
    | terminalAgent identity => rfl
    | localOperator identity => rfl
    | _ => rfl
  rw [evaluateInheriting, hgrant]
  rfl

end LaunchplaneAuthzPolicy

end Launchplane.Authz
