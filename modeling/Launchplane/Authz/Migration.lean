import Launchplane.Authz.Inheritance

/-!
# Launchplane.Authz.Migration

**From schema 1 to schema 2.** A rule of schema 1 has no instances and grants
without asking for one. Schema 2 splits it: what can do without an instance stays a
rule without instances, and what may name one becomes a rule for every instance.
Both grant together what the rule granted, wherever both schemas answer at all.
-/

namespace Launchplane.Authz

/-- `migrated_rules`, on what every rule has. -/
def migratedScopes (rule : ScopedRule) : List ScopedRule :=
  if rule.actions = [] then [{ rule with instances := [] }, { rule with instances := ["*"] }]
  else
    let contextActions := rule.actions.filter (· ∉ exclusivelyInstanceScopedAuthzActions)
    let scopedInstanceActions := rule.actions.filter (· ∈ instanceScopedAuthzActions)
    (if contextActions ≠ [] then [{ rule with actions := contextActions, instances := [] }] else []) ++
      if scopedInstanceActions ≠ [] then
        [{ rule with actions := scopedInstanceActions, instances := ["*"] }]
      else []

/-- Every rule of a collection, split. -/
def migratedRules {α : Type} (scope : α → ScopedRule) (withScope : α → ScopedRule → α)
    (rules : List α) : List α :=
  rules.flatMap fun rule => (migratedScopes (scope rule)).map (withScope rule)

namespace LaunchplaneAuthzPolicy

/-- The policy of schema 2, before it is checked. -/
def migrated (policy : LaunchplaneAuthzPolicy) : LaunchplaneAuthzPolicy :=
  { schemaVersion := .v2
    administratorQuorum := policy.administratorQuorum
    githubActions := migratedRules (·.toScopedRule)
      (fun rule scope => { rule with toScopedRule := scope }) policy.githubActions
    githubHumans := migratedRules (·.toScopedRule)
      (fun rule scope => { rule with toScopedRule := scope }) policy.githubHumans
    terminalAgents := migratedRules (·.toScopedRule)
      (fun rule scope => { rule with toScopedRule := scope }) policy.terminalAgents
    localOperators := migratedRules (·.toScopedRule)
      (fun rule scope => { rule with toScopedRule := scope }) policy.localOperators
    localAdmins := migratedRules (·.toScopedRule)
      (fun rule scope => { rule with toScopedRule := scope }) policy.localAdmins }

/-- `migrate_authz_policy_to_schema_v2`. -/
def migrateToSchemaV2 (policy : LaunchplaneAuthzPolicy) : Except String LaunchplaneAuthzPolicy :=
  if policy.schemaVersion ≠ .v1 then .ok policy
  else do
    policy.migrated.check
    return policy.migrated

end LaunchplaneAuthzPolicy

/-! ### One rule -/

section Rule

variable {rule scope : ScopedRule}

theorem mem_instanceScoped_of_exclusively {action : String}
    (h : action ∈ exclusivelyInstanceScopedAuthzActions) : action ∈ instanceScopedAuthzActions :=
  List.mem_of_mem_filter h

/-- The parts of a rule that names its actions. -/
theorem mem_migratedScopes (hactions : rule.actions ≠ []) : scope ∈ migratedScopes rule ↔
    (scope.actions ≠ [] ∧ scope = { rule with
      actions := rule.actions.filter (· ∉ exclusivelyInstanceScopedAuthzActions), instances := [] }) ∨
    (scope.actions ≠ [] ∧ scope = { rule with
      actions := rule.actions.filter (· ∈ instanceScopedAuthzActions), instances := ["*"] }) := by
  have hone {p : Prop} [Decidable p] {a b : ScopedRule} :
      a ∈ (if p then [b] else []) ↔ p ∧ a = b := by
    by_cases hp : p
    · simp [hp]
    · simp [hp]
  rw [migratedScopes, if_neg hactions]
  simp only [List.mem_append, hone]
  constructor
  · rintro (⟨hne, rfl⟩ | ⟨hne, rfl⟩)
    · exact .inl ⟨hne, rfl⟩
    · exact .inr ⟨hne, rfl⟩
  · rintro (⟨hne, rfl⟩ | ⟨hne, rfl⟩)
    · exact .inl ⟨hne, rfl⟩
    · exact .inr ⟨hne, rfl⟩

theorem mem_migratedScopes_all (hactions : rule.actions = []) : scope ∈ migratedScopes rule ↔
    scope = { rule with instances := [] } ∨ scope = { rule with instances := ["*"] } := by
  rw [migratedScopes, if_pos hactions]
  simp

/-- What a part of a rule keeps of it. -/
structure PartOf (rule scope : ScopedRule) : Prop where
  products : scope.products = rule.products
  contexts : scope.contexts = rule.contexts
  managedSetId : scope.managedSetId = rule.managedSetId
  managedRuleId : scope.managedRuleId = rule.managedRuleId
  actions : ∀ action ∈ scope.actions, action ∈ rule.actions
  instances : (scope.instances = [] ∧
      ∀ action ∈ scope.actions, action ∉ exclusivelyInstanceScopedAuthzActions) ∨
    (scope.instances = ["*"] ∧ ∀ action ∈ scope.actions, action ∈ instanceScopedAuthzActions)

theorem partOf_of_mem (h : scope ∈ migratedScopes rule) : PartOf rule scope := by
  by_cases hactions : rule.actions = []
  · obtain rfl | rfl := (mem_migratedScopes_all hactions).mp h
    · exact ⟨rfl, rfl, rfl, rfl, fun _ h => h, .inl ⟨rfl, by simp [hactions]⟩⟩
    · exact ⟨rfl, rfl, rfl, rfl, fun _ h => h, .inr ⟨rfl, by simp [hactions]⟩⟩
  · obtain ⟨-, rfl⟩ | ⟨-, rfl⟩ := (mem_migratedScopes hactions).mp h
    · exact ⟨rfl, rfl, rfl, rfl, fun _ h => List.mem_of_mem_filter h,
        .inl ⟨rfl, fun _ h => by simpa using (List.mem_filter.mp h).2⟩⟩
    · exact ⟨rfl, rfl, rfl, rfl, fun _ h => List.mem_of_mem_filter h,
        .inr ⟨rfl, fun _ h => by simpa using (List.mem_filter.mp h).2⟩⟩

/-- The part without instances has the actions that can do without one. -/
theorem contextPart_mem {action : String} (haction : action ∈ rule.actions)
    (h : action ∉ exclusivelyInstanceScopedAuthzActions) :
    { rule with
      actions := rule.actions.filter (· ∉ exclusivelyInstanceScopedAuthzActions)
      instances := [] } ∈ migratedScopes rule :=
  (mem_migratedScopes (List.ne_nil_of_mem haction)).mpr
    (.inl ⟨List.ne_nil_of_mem (List.mem_filter.mpr ⟨haction, by simpa using h⟩), rfl⟩)

/-- The part for every instance has the actions that may name one. -/
theorem instancePart_mem {action : String} (haction : action ∈ rule.actions)
    (h : action ∈ instanceScopedAuthzActions) :
    { rule with
      actions := rule.actions.filter (· ∈ instanceScopedAuthzActions)
      instances := ["*"] } ∈ migratedScopes rule :=
  (mem_migratedScopes (List.ne_nil_of_mem haction)).mpr
    (.inr ⟨List.ne_nil_of_mem (List.mem_filter.mpr ⟨haction, by simpa using h⟩), rfl⟩)

/-- Every rule has a part. -/
theorem exists_mem_migratedScopes (rule : ScopedRule) : ∃ scope, scope ∈ migratedScopes rule := by
  by_cases hactions : rule.actions = []
  · exact ⟨_, (mem_migratedScopes_all hactions).mpr (.inl rfl)⟩
  · obtain ⟨action, haction⟩ := List.exists_mem_of_ne_nil _ hactions
    by_cases hexclusive : action ∈ exclusivelyInstanceScopedAuthzActions
    · exact ⟨_, instancePart_mem haction (mem_instanceScoped_of_exclusively hexclusive)⟩
    · exact ⟨_, contextPart_mem haction hexclusive⟩

/-- The requests on which one of the schemas has no say. -/
def Excepted (request : AuthzRequest) : Prop :=
  request.action ∈ exactInstanceWorkflowAuthzActions ∨
    (request.action ∈ exclusivelyInstanceScopedAuthzActions ∧ ¬request.target.onInstance) ∨
    (request.target.onInstance ∧ request.action ∉ instanceScopedAuthzActions)

/-- The parts of a rule grant what the rule grants. -/
theorem exists_part_allowsScope {sel : String → List String → Bool} {request : AuthzRequest}
    (hinstances : rule.instances = []) (h : ¬Excepted request) :
    (∃ scope ∈ migratedScopes rule, scope.allowsScope sel request .v2 = true) ↔
      rule.allowsScope sel request .v1 = true := by
  have hv1 : instancesAllowed rule.instances request.target .v1 = true := by
    unfold instancesAllowed
    cases request.target <;> simp [hinstances]
  simp only [ScopedRule.allowsScope, hv1, Bool.and_true]
  constructor
  · rintro ⟨scope, hmem, hallows⟩
    have hpart := partOf_of_mem hmem
    simp only [Bool.and_eq_true, Bool.or_eq_true, decide_eq_true_eq, hpart.products,
      hpart.contexts] at hallows ⊢
    obtain ⟨⟨⟨hproducts, hcontexts⟩, -⟩, hactions⟩ := hallows
    refine ⟨⟨hproducts, hcontexts⟩, ?_⟩
    by_cases hall : rule.actions = []
    · exact .inl hall
    · refine .inr (hactions.elim (fun hnil => ?_) (hpart.actions _))
      obtain ⟨hne, -⟩ | ⟨hne, -⟩ := (mem_migratedScopes hall).mp hmem
      · exact absurd hnil hne
      · exact absurd hnil hne
  · intro hallows
    simp only [Bool.and_eq_true, Bool.or_eq_true, decide_eq_true_eq] at hallows ⊢
    obtain ⟨hscope, hactions⟩ := hallows
    simp only [Excepted, not_or, not_and] at h
    obtain ⟨-, hexclusive, hinstance⟩ := h
    -- An instance target is granted by the part for every instance, any other by the other part.
    by_cases htarget : request.target.onInstance = true
    · have hscoped : request.action ∈ instanceScopedAuthzActions := not_not.mp (hinstance htarget)
      have hall (allowed : List String) (hstar : allowed = ["*"]) :
          instancesAllowed allowed request.target .v2 = true := by
        unfold instancesAllowed
        cases htarget' : request.target with
        | instances instances => simp [hstar]
        | _ => simp [htarget', AuthorizationTarget.onInstance] at htarget
      obtain hnil | hmem := hactions
      · exact ⟨_, (mem_migratedScopes_all hnil).mpr (.inr rfl), ⟨hscope, hall _ rfl⟩, .inl hnil⟩
      · exact ⟨_, instancePart_mem hmem hscoped, ⟨hscope, hall _ rfl⟩,
          .inr (List.mem_filter.mpr ⟨hmem, by simpa using hscoped⟩)⟩
    · have hcontext : request.action ∉ exclusivelyInstanceScopedAuthzActions :=
        fun hmem => hexclusive hmem htarget
      have hnone (allowed : List String) (hempty : allowed = []) :
          instancesAllowed allowed request.target .v2 = true := by
        unfold instancesAllowed
        cases htarget' : request.target with
        | instances instances => simp [htarget', AuthorizationTarget.onInstance] at htarget
        | _ => simp [hempty]
      obtain hnil | hmem := hactions
      · exact ⟨_, (mem_migratedScopes_all hnil).mpr (.inl rfl), ⟨hscope, hnone _ rfl⟩, .inl hnil⟩
      · exact ⟨_, contextPart_mem hmem hcontext, ⟨hscope, hnone _ rfl⟩,
          .inr (List.mem_filter.mpr ⟨hmem, by simpa using hcontext⟩)⟩

/-- The parts of a rule are accepted as they are. -/
theorem PartOf.validate (hrule : rule.validate = .ok rule) (h : PartOf rule scope) :
    scope.validate = .ok scope := by
  unfold ScopedRule.validate at hrule
  obtain ⟨instances, -, hrule⟩ := bind_eq_ok.mp hrule
  obtain ⟨ids, hids, hrule⟩ := bind_eq_ok.mp hrule
  injection hrule with hrule
  have hset : ids.1 = scope.managedSetId := h.managedSetId.symm ▸ congrArg (·.managedSetId) hrule
  have hid : ids.2 = scope.managedRuleId := h.managedRuleId.symm ▸ congrArg (·.managedRuleId) hrule
  have hinstances : validatedInstanceSelectors scope.instances = .ok scope.instances := by
    obtain ⟨hnil, -⟩ | ⟨hstar, -⟩ := h.instances
    · rw [hnil]
      rfl
    · rw [hstar]
      decide +kernel
  rw [← h.managedSetId, ← h.managedRuleId] at hids
  simp only [ScopedRule.validate, hinstances, hids, hset, hid, bind, Except.bind, pure, Except.pure]

end Rule

/-! ### One collection -/

section Collection

variable {α : Type} {scope : α → ScopedRule} {withScope : α → ScopedRule → α} {rules : List α}
  (hscope : ∀ rule part, scope (withScope rule part) = part)

include hscope in
/-- The parts of the rules of a collection grant what the rules grant to a principal. -/
theorem any_migratedRules {sel : String → List String → Bool} {request : AuthzRequest}
    (principal : α → Bool) (hprincipal : ∀ rule part, principal (withScope rule part) = principal rule)
    (hinstances : ∀ rule ∈ rules, (scope rule).instances = []) (h : ¬Excepted request) :
    (migratedRules scope withScope rules).any
        (fun rule => principal rule && (scope rule).allowsScope sel request .v2) =
      rules.any fun rule => principal rule && (scope rule).allowsScope sel request .v1 := by
  rw [Bool.eq_iff_iff, List.any_eq_true, List.any_eq_true]
  simp only [migratedRules, List.mem_flatMap, List.mem_map, Bool.and_eq_true]
  constructor
  · rintro ⟨_, ⟨rule, hrule, part, hpart, rfl⟩, hallowed, hgrant⟩
    rw [hprincipal] at hallowed
    rw [hscope] at hgrant
    exact ⟨rule, hrule, hallowed,
      (exists_part_allowsScope (hinstances rule hrule) h).mp ⟨part, hpart, hgrant⟩⟩
  · rintro ⟨rule, hrule, hallowed, hgrant⟩
    obtain ⟨part, hpart, hpartGrant⟩ :=
      (exists_part_allowsScope (hinstances rule hrule) h).mpr hgrant
    refine ⟨withScope rule part, ⟨rule, hrule, part, hpart, rfl⟩, ?_, ?_⟩
    · rw [hprincipal]
      exact hallowed
    · rw [hscope]
      exact hpartGrant

/-- What does not depend on the scope is found among the parts if it is found among the rules. -/
theorem any_migratedRules_of_principal {principal : α → Bool}
    (hprincipal : ∀ rule part, principal (withScope rule part) = principal rule) :
    (migratedRules scope withScope rules).any principal = rules.any principal := by
  rw [Bool.eq_iff_iff, List.any_eq_true, List.any_eq_true]
  simp only [migratedRules, List.mem_flatMap, List.mem_map]
  constructor
  · rintro ⟨_, ⟨rule, hrule, part, -, rfl⟩, hfound⟩
    exact ⟨rule, hrule, (hprincipal rule part).symm.trans hfound⟩
  · rintro ⟨rule, hrule, hfound⟩
    obtain ⟨part, hpart⟩ := exists_mem_migratedScopes (scope rule)
    exact ⟨withScope rule part, ⟨rule, hrule, part, hpart, rfl⟩,
      (hprincipal rule part).trans hfound⟩

end Collection

namespace LaunchplaneAuthzPolicy

/-- The policy's check finds nothing in a part. -/
theorem checkRule_of_partOf {rule : ScopedRule} {view : RuleView} (h : PartOf rule view.scope)
    (hread : agentReadRoleAction ∉ rule.actions) : checkRule .v2 view = .ok () := by
  have hnone : checkReadRole .v2 view = .ok () := if_neg fun hmem => hread (h.actions _ hmem)
  have hexclusive : ¬(view.scope.actions.any (· ∈ exclusivelyInstanceScopedAuthzActions) ∧
      view.scope.instances = []) := by
    rintro ⟨hany, hnil⟩
    obtain ⟨-, hactions⟩ | ⟨hstar, -⟩ := h.instances
    · obtain ⟨action, haction, hmem⟩ := List.any_eq_true.mp hany
      exact hactions action haction (by simpa using hmem)
    · exact absurd (hnil.symm.trans hstar) (by simp)
  have hscoped : ¬(view.scope.instances ≠ [] ∧
      view.scope.actions.any (· ∉ instanceScopedAuthzActions)) := by
    rintro ⟨hne, hany⟩
    obtain ⟨hnil, -⟩ | ⟨-, hactions⟩ := h.instances
    · exact hne hnil
    · obtain ⟨action, haction, hmem⟩ := List.any_eq_true.mp hany
      exact absurd (hactions action haction) (by simpa using hmem)
  unfold checkRule
  rw [hnone, if_neg (by simp), if_neg (by simp), if_neg hexclusive, if_neg hscoped]
  by_cases hactions : view.scope.actions = []
  · simp [hactions, bind, Except.bind, pure, Except.pure]
  · simp [hactions, bind, Except.bind, pure, Except.pure]

section

variable {isDecimal : Char → Bool} {policy : LaunchplaneAuthzPolicy}
  {effects : ActionEffects} {inherit : Bool} {request : AuthzRequest}

/-- What schema 1 leaves a rule. -/
structure OfSchemaV1 (rule : ScopedRule) : Prop where
  valid : rule.validate = .ok rule
  instances : rule.instances = []
  managedSetId : rule.managedSetId = none
  noReadRole : agentReadRoleAction ∉ rule.actions

/-- Under schema 1 no rule has the read role. -/
theorem noReadRole_of_checkRule {view : RuleView} (h : checkRule .v1 view = .ok ()) :
    agentReadRoleAction ∉ view.scope.actions := by
  intro hmem
  unfold checkRule checkReadRole at h
  rw [if_pos hmem] at h
  obtain ⟨⟨⟩, hread, -⟩ := bind_eq_ok.mp h
  cases hagent : view.agent with
  | none => simp [hagent] at hread
  | some agent => simp [hagent] at hread

theorem Valid.checkRule_views (h : policy.Valid isDecimal) :
    ∀ view ∈ policy.views, checkRule policy.schemaVersion view = .ok () := by
  obtain ⟨-, -, -, -, -, hcheck⟩ := h.parts
  have hrules : policy.views.forM (checkRule policy.schemaVersion) = .ok () := by
    unfold check at hcheck
    split_ifs at hcheck
    all_goals
      obtain ⟨⟨⟩, hrules, -⟩ := bind_eq_ok.mp hcheck
      exact hrules
  exact forall_of_forM hrules

/-- One collection: its rules are accepted as they are, and the check has seen them. -/
theorem ofSchemaV1_of_views {α : Type} {validate : α → Except String α} {rules : List α}
    (scope : α → ScopedRule) (hvalid : policy.Valid isDecimal)
    (hschema : policy.schemaVersion = .v1)
    (hscope : ∀ a b, validate a = .ok b → (scope a).validate = .ok (scope b))
    (hrules : rules.mapM validate = .ok rules)
    (hviewed : ∀ rule ∈ rules, ∃ view ∈ policy.views, view.scope = scope rule) :
    ∀ rule ∈ rules, OfSchemaV1 (scope rule) := by
  intro rule hrule
  obtain ⟨raw, -, hraw⟩ := forall_of_mapM hrules rule hrule
  obtain ⟨view, hview, heq⟩ := hviewed rule hrule
  have hchecked := hvalid.checkRule_views view hview
  rw [hschema] at hchecked
  obtain ⟨hinstances, hset⟩ := checkRule_v1 hchecked
  rw [← heq]
  exact ⟨heq ▸ ScopedRule.validate_idempotent _ _ (hscope _ _ hraw), hinstances, hset,
    noReadRole_of_checkRule hchecked⟩

/-- What schema 1 leaves the rules of a policy. -/
structure RulesOfSchemaV1 (policy : LaunchplaneAuthzPolicy) : Prop where
  githubActions : ∀ rule ∈ policy.githubActions, OfSchemaV1 rule.toScopedRule
  githubHumans : ∀ rule ∈ policy.githubHumans, OfSchemaV1 rule.toScopedRule
  terminalAgents : ∀ rule ∈ policy.terminalAgents, OfSchemaV1 rule.toScopedRule
  localOperators : ∀ rule ∈ policy.localOperators, OfSchemaV1 rule.toScopedRule
  localAdmins : ∀ rule ∈ policy.localAdmins, OfSchemaV1 rule.toScopedRule

theorem Valid.rulesOfSchemaV1 (h : policy.Valid isDecimal) (hschema : policy.schemaVersion = .v1) :
    RulesOfSchemaV1 policy := by
  obtain ⟨hactions, hhumans, hterminal, hoperators, hadmins, -⟩ := h.parts
  exact {
    githubActions := ofSchemaV1_of_views (·.toScopedRule) h hschema
      (fun _ _ => GitHubActionsPolicyRule.scope_of_validate) hactions
      fun rule hrule => ⟨⟨rule.toScopedRule, none⟩, mem_views (.inl ⟨rule, hrule, rfl⟩), rfl⟩
    githubHumans := ofSchemaV1_of_views (·.toScopedRule) h hschema
      (fun _ _ => GitHubHumanPolicyRule.scope_of_validate) hhumans
      fun rule hrule =>
        ⟨⟨rule.toScopedRule, none⟩, mem_views (.inr (.inl ⟨rule, hrule, rfl⟩)), rfl⟩
    terminalAgents := ofSchemaV1_of_views (·.toScopedRule) h hschema
      (fun _ _ => TokenBoundPolicyRule.scope_of_validate) hterminal
      fun rule hrule => ⟨⟨rule.toScopedRule, some (rule.subjects, rule.tokenLabels)⟩,
        mem_views (.inr (.inr (.inl ⟨rule, hrule, rfl⟩))), rfl⟩
    localOperators := ofSchemaV1_of_views (·.toScopedRule) h hschema
      (fun _ _ => TokenBoundPolicyRule.scope_of_validate) hoperators
      fun rule hrule => ⟨⟨rule.toScopedRule, some (rule.subjects, rule.tokenLabels)⟩,
        mem_views (.inr (.inr (.inr (.inl ⟨rule, hrule, rfl⟩)))), rfl⟩
    localAdmins := ofSchemaV1_of_views (·.toScopedRule) h hschema
      (fun _ _ => TokenBoundPolicyRule.scope_of_validate) hadmins
      fun rule hrule => ⟨⟨rule.toScopedRule, none⟩,
        mem_views (.inr (.inr (.inr (.inr ⟨rule, hrule, rfl⟩)))), rfl⟩ }

/-! ### Decisions -/

/-- A rule without the read role is asked the request itself. -/
theorem inheritedRequest_of_notMem {rule : ScopedRule} (h : agentReadRoleAction ∉ rule.actions) :
    inheritedRequest effects inherit rule request = request := by
  simp [inheritedRequest, h]

/-- The agents' rules, split: none has the read role to inherit from. -/
theorem any_allowsInheriting {rules : List TokenBoundPolicyRule}
    {sel : String → List String → Bool} {identity : TokenIdentity}
    (hrules : ∀ rule ∈ rules, OfSchemaV1 rule.toScopedRule) (h : ¬Excepted request) :
    (migratedRules (·.toScopedRule)
          (fun (rule : TokenBoundPolicyRule) scope => { rule with toScopedRule := scope }) rules).any
        (·.allowsInheriting effects inherit sel identity request .v2) =
      rules.any (·.allowsInheriting effects inherit sel identity request .v1) := by
  have hasked (rules' : List TokenBoundPolicyRule) (schema : SchemaVersion)
      (hread : ∀ rule ∈ rules', agentReadRoleAction ∉ rule.actions) :
      rules'.any (·.allowsInheriting effects inherit sel identity request schema) =
        rules'.any (·.allows sel identity request schema) := by
    have hsame : ∀ rule ∈ rules', rule.allowsInheriting effects inherit sel identity request schema =
        rule.allows sel identity request schema := by
      intro rule hrule
      rw [TokenBoundPolicyRule.allowsInheriting, inheritedRequest_of_notMem (hread rule hrule)]
    rw [Bool.eq_iff_iff, List.any_eq_true, List.any_eq_true]
    exact exists_congr fun rule => and_congr_right fun hrule => by rw [hsame rule hrule]
  rw [hasked rules .v1 fun rule hrule => (hrules rule hrule).noReadRole, hasked _ .v2]
  · exact any_migratedRules (fun _ _ => rfl)
      (fun rule : TokenBoundPolicyRule =>
        (rule.subjects = [] || authzSelectorMatches identity.subject rule.subjects) &&
          (rule.tokenLabels = [] || authzSelectorMatches identity.tokenLabel rule.tokenLabels))
      (fun _ _ => rfl) (fun rule hrule => (hrules rule hrule).instances) h
  · intro rule hrule
    obtain ⟨original, horiginal, hmem⟩ := List.mem_flatMap.mp hrule
    obtain ⟨part, hpart, rfl⟩ := List.mem_map.mp hmem
    exact fun hmem => (hrules original horiginal).noReadRole ((partOf_of_mem hpart).actions _ hmem)

/-! ### Administrators -/

/-- The part without instances of a strict administrator's rule is strict, and no other rule
becomes strict. -/
theorem exists_strict_part {rule : GitHubHumanPolicyRule} (h : OfSchemaV1 rule.toScopedRule) :
    (∃ part ∈ migratedScopes rule.toScopedRule,
        ({ rule with toScopedRule := part } : GitHubHumanPolicyRule).isStrictAdministrator = true) ↔
      rule.isStrictAdministrator = true := by
  simp only [GitHubHumanPolicyRule.isStrictAdministrator, Bool.and_eq_true, decide_eq_true_eq]
  constructor
  · intro hstrict
    obtain ⟨part, hpart, hstrict⟩ := hstrict
    obtain ⟨⟨⟨⟨⟨⟨⟨⟨hids, hrole⟩, hadmin⟩, hproducts⟩, hcontexts⟩, hlogins⟩, horganizations⟩,
      hteams⟩, -⟩ := hstrict
    have hkept := partOf_of_mem hpart
    exact ⟨⟨⟨⟨⟨⟨⟨⟨hids, hrole⟩, hkept.actions _ hadmin⟩, hkept.products ▸ hproducts⟩,
      hkept.contexts ▸ hcontexts⟩, hlogins⟩, horganizations⟩, hteams⟩, h.instances⟩
  · intro hstrict
    obtain ⟨⟨⟨⟨⟨⟨⟨⟨hids, hrole⟩, hadmin⟩, hproducts⟩, hcontexts⟩, hlogins⟩, horganizations⟩,
      hteams⟩, -⟩ := hstrict
    refine ⟨_, contextPart_mem hadmin admin_notMem_exclusivelyInstanceScoped, ?_⟩
    have hkept : authzPolicyAdminAction ∈
        rule.actions.filter (· ∉ exclusivelyInstanceScopedAuthzActions) :=
      List.mem_filter.mpr ⟨hadmin, by simpa using admin_notMem_exclusivelyInstanceScoped⟩
    exact ⟨⟨⟨⟨⟨⟨⟨⟨hids, hrole⟩, hkept⟩, hproducts⟩, hcontexts⟩, hlogins⟩, horganizations⟩,
      hteams⟩, rfl⟩

theorem strictAdministratorIds_migrated (h : RulesOfSchemaV1 policy) :
    policy.migrated.strictAdministratorIds = policy.strictAdministratorIds := by
  ext id
  rw [mem_strictAdministratorIds, mem_strictAdministratorIds]
  simp only [migrated, migratedRules, List.mem_flatMap, List.mem_map]
  constructor
  · rintro ⟨_, ⟨rule, hrule, part, hpart, rfl⟩, hstrict, hid⟩
    exact ⟨rule, hrule, (exists_strict_part (h.githubHumans rule hrule)).mp ⟨part, hpart, hstrict⟩,
      hid⟩
  · rintro ⟨rule, hrule, hstrict, hid⟩
    obtain ⟨part, hpart, hpartStrict⟩ :=
      (exists_strict_part (h.githubHumans rule hrule)).mpr hstrict
    exact ⟨_, ⟨rule, hrule, part, hpart, rfl⟩, hpartStrict, hid⟩

theorem namesAdministrator_migrated (h : RulesOfSchemaV1 policy) (identity : GitHubHumanIdentity) :
    policy.migrated.namesAdministrator identity = policy.namesAdministrator identity := by
  rw [namesAdministrator, allowsImmutableGithubIdAdministration, strictAdministratorIds_migrated h]
  rfl

theorem humanRoleFor_migrated (policy : LaunchplaneAuthzPolicy) (githubId : Int) (login : String)
    (organizations teams : List String) :
    policy.migrated.humanRoleFor githubId login organizations teams =
      policy.humanRoleFor githubId login organizations teams := by
  have hany (role : HumanRole) : policy.migrated.githubHumans.any
        (·.matchesPrincipal githubId login organizations teams role) =
      policy.githubHumans.any (·.matchesPrincipal githubId login organizations teams role) :=
    any_migratedRules_of_principal fun _ _ => rfl
  rw [humanRoleFor, hany, hany]
  rfl

/-! ### The decisions of the two schemas -/

theorem hasGrantInheriting_migrated (hschema : policy.schemaVersion = .v1)
    (hrules : RulesOfSchemaV1 policy) (h : ¬Excepted request) (marked : MarkedIdentity) :
    policy.migrated.hasGrantInheriting effects inherit request marked =
      policy.hasGrantInheriting effects inherit request marked := by
  have hv2 : policy.migrated.schemaVersion = .v2 := rfl
  unfold hasGrantInheriting
  cases marked.identity with
  | githubActions identity =>
      simp only [hasGrant, hv2, hschema]
      exact any_migratedRules (fun _ _ => rfl) (fun rule : GitHubActionsPolicyRule => _)
        (fun _ _ => rfl) (fun rule hrule => (hrules.githubActions rule hrule).instances) h
  | githubHuman identity =>
      simp only [hasGrant, hv2, hschema, namesAdministrator_migrated hrules]
      congr 1
      exact any_migratedRules (fun _ _ => rfl)
        (fun rule : GitHubHumanPolicyRule => rule.matchesPrincipal identity.githubId identity.login
          identity.organizations identity.teams identity.role)
        (fun _ _ => rfl) (fun rule hrule => (hrules.githubHumans rule hrule).instances) h
  | terminalAgent identity =>
      simp only [hv2, hschema]
      congr 1
      exact any_allowsInheriting hrules.terminalAgents h
  | localOperator identity =>
      simp only [hv2, hschema]
      congr 1
      exact any_allowsInheriting hrules.localOperators h
  | localAdmin identity =>
      simp only [hasGrant, hv2, hschema]
      exact any_migratedRules (fun _ _ => rfl)
        (fun rule : TokenBoundPolicyRule =>
          (rule.subjects = [] || authzSelectorMatches identity.subject rule.subjects) &&
            (rule.tokenLabels = [] || authzSelectorMatches identity.tokenLabel rule.tokenLabels))
        (fun _ _ => rfl) (fun rule hrule => (hrules.localAdmins rule hrule).instances) h

/-- Off the exceptions, both schemas decide the same. -/
theorem evaluateInheriting_migrated (hschema : policy.schemaVersion = .v1)
    (hrules : RulesOfSchemaV1 policy) (h : ¬Excepted request) (marked : MarkedIdentity) :
    policy.migrated.evaluateInheriting effects inherit marked request =
      policy.evaluateInheriting effects inherit marked request := by
  have hexact : request.action ∉ exactInstanceWorkflowAuthzActions := fun hmem => h (.inl hmem)
  have hexclusive : ¬(request.action ∈ exclusivelyInstanceScopedAuthzActions ∧
      ¬request.target.onInstance) := fun hmem => h (.inr (.inl hmem))
  have hv2 : policy.migrated.schemaVersion = .v2 := rfl
  simp only [evaluateInheriting, hasGrantInheriting_migrated hschema hrules h, hv2, hschema, hexact,
    hexclusive, and_false, if_false]

/-! ### Validity -/

/-- One collection, split: every part is accepted as it is. -/
theorem mapM_migratedRules {α : Type} {validate : α → Except String α} {rules : List α}
    {scope : α → ScopedRule} {withScope : α → ScopedRule → α}
    (hvalid : rules.mapM validate = .ok rules)
    (hidempotent : ∀ a b, validate a = .ok b → validate b = .ok b)
    (hpart : ∀ rule part, validate rule = .ok rule → part.validate = .ok part →
      validate (withScope rule part) = .ok (withScope rule part))
    (hrules : ∀ rule ∈ rules, OfSchemaV1 (scope rule)) :
    (migratedRules scope withScope rules).mapM validate =
      .ok (migratedRules scope withScope rules) := by
  refine mapM_eq_ok_self fun part hmem => ?_
  obtain ⟨rule, hrule, hmem⟩ := List.mem_flatMap.mp hmem
  obtain ⟨part, hpartMem, rfl⟩ := List.mem_map.mp hmem
  obtain ⟨raw, -, hraw⟩ := forall_of_mapM hvalid rule hrule
  exact hpart rule part (hidempotent _ _ hraw)
    ((partOf_of_mem hpartMem).validate (hrules rule hrule).valid)

theorem validate_withScope_githubActions (rule : GitHubActionsPolicyRule) (part : ScopedRule)
    (hrule : rule.validate isDecimal = .ok rule) (hpart : part.validate = .ok part) :
    ({ rule with toScopedRule := part } : GitHubActionsPolicyRule).validate isDecimal =
      .ok { rule with toScopedRule := part } := by
  unfold GitHubActionsPolicyRule.validate at hrule
  obtain ⟨scope, -, hrule⟩ := bind_eq_ok.mp hrule
  simp only at hrule
  split_ifs at hrule with hboth hid howner
  injection hrule with hrule
  have hrepository := congrArg GitHubActionsPolicyRule.repository hrule
  have hrepositoryId := congrArg GitHubActionsPolicyRule.repositoryId hrule
  have hownerId := congrArg GitHubActionsPolicyRule.repositoryOwnerId hrule
  simp only at hrepository hrepositoryId hownerId
  unfold GitHubActionsPolicyRule.validate
  rw [hpart]
  simp only [bind, Except.bind]
  rw [if_neg hboth, if_neg hid, if_neg howner, hrepository, hrepositoryId, hownerId]
  rfl

theorem validate_withScope_githubHumans (rule : GitHubHumanPolicyRule) (part : ScopedRule)
    (hrule : rule.validate = .ok rule) (hpart : part.validate = .ok part) :
    ({ rule with toScopedRule := part } : GitHubHumanPolicyRule).validate =
      .ok { rule with toScopedRule := part } := by
  unfold GitHubHumanPolicyRule.validate at hrule
  obtain ⟨scope, -, hrule⟩ := bind_eq_ok.mp hrule
  split_ifs at hrule with hpositive
  injection hrule with hrule
  have hids := congrArg GitHubHumanPolicyRule.githubIds hrule
  simp only at hids
  unfold GitHubHumanPolicyRule.validate
  rw [hpart]
  simp only [bind, Except.bind]
  rw [if_neg hpositive, hids]
  rfl

theorem validate_withScope_tokenBound (rule : TokenBoundPolicyRule) (part : ScopedRule)
    (_ : rule.validate = .ok rule) (hpart : part.validate = .ok part) :
    ({ rule with toScopedRule := part } : TokenBoundPolicyRule).validate =
      .ok { rule with toScopedRule := part } := by
  unfold TokenBoundPolicyRule.validate
  rw [hpart]
  rfl

/-- The rules of the migrated policy are parts of rules of the policy. -/
theorem partOf_of_mem_views (h : RulesOfSchemaV1 policy) {view : RuleView}
    (hview : view ∈ policy.migrated.views) :
    ∃ rule, OfSchemaV1 rule ∧ PartOf rule view.scope := by
  simp only [views, migrated, migratedRules, List.mem_append, List.mem_map,
    List.mem_flatMap] at hview
  obtain (((hview | hview) | hview) | hview) | hview := hview
  · obtain ⟨_, ⟨rule, hrule, part, hpart, rfl⟩, rfl⟩ := hview
    exact ⟨_, h.githubActions rule hrule, partOf_of_mem hpart⟩
  · obtain ⟨_, ⟨rule, hrule, part, hpart, rfl⟩, rfl⟩ := hview
    exact ⟨_, h.githubHumans rule hrule, partOf_of_mem hpart⟩
  · obtain ⟨_, ⟨rule, hrule, part, hpart, rfl⟩, rfl⟩ := hview
    exact ⟨_, h.terminalAgents rule hrule, partOf_of_mem hpart⟩
  · obtain ⟨_, ⟨rule, hrule, part, hpart, rfl⟩, rfl⟩ := hview
    exact ⟨_, h.localOperators rule hrule, partOf_of_mem hpart⟩
  · obtain ⟨_, ⟨rule, hrule, part, hpart, rfl⟩, rfl⟩ := hview
    exact ⟨_, h.localAdmins rule hrule, partOf_of_mem hpart⟩

/-- No rule of the migrated policy is managed. -/
theorem managedIdentities_migrated (h : RulesOfSchemaV1 policy) :
    policy.migrated.managedIdentities = [] := by
  have hnone : policy.migrated.ordinaryAgents = [] := rfl
  rw [managedIdentities, hnone, List.map_nil, List.append_nil, List.filterMap_eq_nil_iff]
  intro view hview
  obtain ⟨rule, hrule, hpart⟩ := partOf_of_mem_views h hview
  rw [hpart.managedSetId, hrule.managedSetId]

/-- The quorum is left out under schema 1. -/
theorem Valid.administratorQuorum_v1 (h : policy.Valid isDecimal)
    (hschema : policy.schemaVersion = .v1) : policy.administratorQuorum = none := by
  obtain ⟨-, -, -, -, -, hcheck⟩ := h.parts
  unfold check at hcheck
  split_ifs at hcheck with _ hquorum
  all_goals simpa [hschema] using hquorum

/-- **The migrated policy is accepted.** -/
theorem check_migrated (hvalid : policy.Valid isDecimal) (hschema : policy.schemaVersion = .v1) :
    policy.migrated.check = .ok () := by
  have hrules := hvalid.rulesOfSchemaV1 hschema
  have hquorum : policy.migrated.administratorQuorum = none := hvalid.administratorQuorum_v1 hschema
  have hviews : policy.migrated.views.forM (checkRule .v2) = .ok () := by
    refine forM_eq_ok fun view hview => ?_
    obtain ⟨rule, hrule, hpart⟩ := partOf_of_mem_views hrules hview
    exact checkRule_of_partOf hpart hrule.noReadRole
  have hv2 : policy.migrated.schemaVersion = .v2 := rfl
  have hordinary : policy.migrated.ordinaryAgents = [] := rfl
  unfold check
  rw [hquorum, hv2, hviews, managedIdentities_migrated hrules, hordinary]
  rfl

theorem valid_migrated (hvalid : policy.Valid isDecimal) (hschema : policy.schemaVersion = .v1) :
    policy.migrated.Valid isDecimal := by
  have hrules := hvalid.rulesOfSchemaV1 hschema
  obtain ⟨hactions, hhumans, hterminal, hoperators, hadmins, -⟩ := hvalid.parts
  have htoken := TokenBoundPolicyRule.validate_idempotent
  have hactions' := mapM_migratedRules hactions (GitHubActionsPolicyRule.validate_idempotent _)
    validate_withScope_githubActions hrules.githubActions
  have hhumans' := mapM_migratedRules hhumans (fun _ _ h => (GitHubHumanPolicyRule.validate_eq_ok h).2)
    validate_withScope_githubHumans hrules.githubHumans
  have hterminal' := mapM_migratedRules hterminal htoken validate_withScope_tokenBound
    hrules.terminalAgents
  have hoperators' := mapM_migratedRules hoperators htoken validate_withScope_tokenBound
    hrules.localOperators
  have hadmins' := mapM_migratedRules hadmins htoken validate_withScope_tokenBound
    hrules.localAdmins
  unfold Valid validate
  rw [show policy.migrated.githubActions.mapM (·.validate isDecimal) =
      .ok policy.migrated.githubActions from hactions',
    show policy.migrated.githubHumans.mapM (·.validate) = .ok policy.migrated.githubHumans
      from hhumans',
    show policy.migrated.terminalAgents.mapM (·.validate) = .ok policy.migrated.terminalAgents
      from hterminal',
    show policy.migrated.localOperators.mapM (·.validate) = .ok policy.migrated.localOperators
      from hoperators',
    show policy.migrated.localAdmins.mapM (·.validate) = .ok policy.migrated.localAdmins
      from hadmins']
  have hcheck := check_migrated hvalid hschema
  simp only [bind, Except.bind]
  exact bind_eq_ok.mpr ⟨(), hcheck, rfl⟩

/-- **Migration keeps every decision.** The policy that comes out is accepted, decides as the one
that went in wherever both schemas answer, and has the same administrators and human roles. -/
theorem decisions_of_migrateToSchemaV2 (isDecimal : Char → Bool) (effects : ActionEffects)
    (policy : LaunchplaneAuthzPolicy) (hvalid : policy.Valid isDecimal)
    (hschema : policy.schemaVersion = .v1) :
    ∃ migrated, policy.migrateToSchemaV2 = .ok migrated ∧ migrated.Valid isDecimal ∧
      migrated.schemaVersion = .v2 ∧
      (∀ inherit marked request,
        (¬Excepted request →
          migrated.evaluateInheriting effects inherit marked request =
            policy.evaluateInheriting effects inherit marked request) ∧
        (request.action ∈ exactInstanceWorkflowAuthzActions →
          policy.evaluateInheriting effects inherit marked request =
            .authzPolicySchemaIncompatible) ∧
        (request.action ∈ exclusivelyInstanceScopedAuthzActions → ¬request.target.onInstance →
          migrated.evaluateInheriting effects inherit marked request = .instanceScopeRequired)) ∧
      migrated.strictAdministratorIds = policy.strictAdministratorIds ∧
      (∀ identity, migrated.namesAdministrator identity = policy.namesAdministrator identity) ∧
      (∀ githubId login organizations teams,
        migrated.humanRoleFor githubId login organizations teams =
          policy.humanRoleFor githubId login organizations teams) ∧
      migrated.migrateToSchemaV2 = .ok migrated := by
  have hrules := hvalid.rulesOfSchemaV1 hschema
  have hv2 : policy.migrated.schemaVersion = .v2 := rfl
  refine ⟨policy.migrated, ?_, valid_migrated hvalid hschema, hv2, ?_,
    strictAdministratorIds_migrated hrules, namesAdministrator_migrated hrules,
    humanRoleFor_migrated policy, if_pos (by simp [hv2])⟩
  · rw [migrateToSchemaV2, if_neg (by simp [hschema]), check_migrated hvalid hschema]
    rfl
  · intro inherit marked request
    refine ⟨fun h => evaluateInheriting_migrated hschema hrules h marked, fun hmem => ?_,
      fun hmem htarget => ?_⟩
    · exact if_pos ⟨hschema, hmem⟩
    · rw [evaluateInheriting, if_neg (by simp [hv2]), if_pos ⟨by simp [hv2], hmem, htarget⟩]

/-- A policy whose administrator may also write deployments. -/
def deployingAdministrator : LaunchplaneAuthzPolicy :=
  { githubHumans := [{
      githubIds := [7]
      roles := [.admin]
      products := ["launchplane"]
      contexts := ["launchplane"]
      actions := [authzPolicyAdminAction, "deployment.write"] }] }

theorem decisions_of_deployingAdministrator :
    ∃ migrated, deployingAdministrator.migrateToSchemaV2 = .ok migrated ∧
      migrated.Valid (·.isDigit) ∧ migrated.githubHumans.length = 2 ∧
      migrated.strictAdministratorIds = {7} := by
  have hvalid : deployingAdministrator.Valid (·.isDigit) := by rfl
  obtain ⟨migrated, hmigrated, hmigratedValid, -, -, hids, -⟩ :=
    decisions_of_migrateToSchemaV2 (·.isDigit) ⟨fun _ => false, fun _ => false⟩
      deployingAdministrator hvalid rfl
  refine ⟨migrated, hmigrated, hmigratedValid, ?_, hids.trans (by decide +kernel)⟩
  have hsplit : deployingAdministrator.migrated.githubHumans.length = 2 := by decide +kernel
  unfold migrateToSchemaV2 at hmigrated
  rw [if_neg (by decide)] at hmigrated
  obtain ⟨⟨⟩, -, hmigrated⟩ := bind_eq_ok.mp hmigrated
  cases hmigrated
  exact hsplit

end

end LaunchplaneAuthzPolicy

end Launchplane.Authz
