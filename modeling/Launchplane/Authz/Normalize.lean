import Mathlib.Data.List.Sort
import Mathlib.Data.String.Basic
import Launchplane.Authz.Inheritance

/-!
# Launchplane.Authz.Normalize

**A desired policy, normalised.** Every selector of a rule is trimmed, blanks and
repetitions are dropped, and the rules stand in the order of their ids. A rule
without selectors in a field is not restricted by it, so a field that loses its
last selector, or gains one that it did not have, lets more through than before.
-/

namespace Launchplane.Authz

/-! ### Rules -/

/-- `tuple(sorted({value.strip() for value in values if value.strip()}))`. -/
def sortedSelectors (values : List String) : List String :=
  ((values.map pyStrip).filter (· ≠ "")).dedup.insertionSort (· ≤ ·)

/-- The literal of a role. -/
def HumanRole.text : HumanRole → String
  | readOnly => "read_only"
  | admin => "admin"
  | owner => "owner"

/-- The literal of an ordinary agent's action. -/
def OrdinaryAgentAction.text : OrdinaryAgentAction → String
  | selfRead => "self_read"
  | preflight => "preflight"
  | guardedMerge => "guarded_merge"

/-- The fields of `_AUTHZ_RULE_SELECTOR_FIELDS` that every rule has. -/
def ScopedRule.normalizeAuthzRule (rule : ScopedRule) : ScopedRule :=
  { rule with
    products := sortedSelectors rule.products
    contexts := sortedSelectors rule.contexts
    instances := sortedSelectors rule.instances
    actions := sortedSelectors rule.actions }

/-- `_normalize_authz_rule`, of a rule for workflows. -/
def GitHubActionsPolicyRule.normalizeAuthzRule (rule : GitHubActionsPolicyRule) :
    GitHubActionsPolicyRule :=
  { rule with
    toScopedRule := rule.toScopedRule.normalizeAuthzRule
    workflowRefs := sortedSelectors rule.workflowRefs
    jobWorkflowRefs := sortedSelectors rule.jobWorkflowRefs
    eventNames := sortedSelectors rule.eventNames
    refs := sortedSelectors rule.refs
    environments := sortedSelectors rule.environments }

/-- `_normalize_authz_rule`, of a rule for humans. The roles have no blanks around them. -/
def GitHubHumanPolicyRule.normalizeAuthzRule (rule : GitHubHumanPolicyRule) :
    GitHubHumanPolicyRule :=
  { rule with
    toScopedRule := rule.toScopedRule.normalizeAuthzRule
    logins := sortedSelectors rule.logins
    organizations := sortedSelectors rule.organizations
    teams := sortedSelectors rule.teams
    roles := rule.roles.dedup.insertionSort fun a b => a.text ≤ b.text }

/-- `_normalize_authz_rule`, of a token-bound rule. -/
def TokenBoundPolicyRule.normalizeAuthzRule (rule : TokenBoundPolicyRule) : TokenBoundPolicyRule :=
  { rule with
    toScopedRule := rule.toScopedRule.normalizeAuthzRule
    subjects := sortedSelectors rule.subjects
    tokenLabels := sortedSelectors rule.tokenLabels }

/-- `_normalize_authz_rule`, of a rule for ordinary agents, whose one selector is the actions. -/
def OrdinaryAgentPolicyRule.normalizeAuthzRule (rule : OrdinaryAgentPolicyRule) :
    OrdinaryAgentPolicyRule :=
  { rule with actions := rule.actions.dedup.insertionSort fun a b => a.text ≤ b.text }

/-- The rules of a collection in the order of their ids. -/
def sortedByRuleId {α : Type} (ruleId : α → Option String) (rules : List α) : List α :=
  rules.insertionSort fun a b => (ruleId a).getD "" ≤ (ruleId b).getD ""

namespace LaunchplaneAuthzPolicy

/-- The normalised policy, before it is checked. -/
def normalized (policy : LaunchplaneAuthzPolicy) : LaunchplaneAuthzPolicy :=
  { schemaVersion := policy.schemaVersion
    administratorQuorum := policy.administratorQuorum
    githubActions := sortedByRuleId (·.managedRuleId)
      (policy.githubActions.map (·.normalizeAuthzRule))
    githubHumans := sortedByRuleId (·.managedRuleId)
      (policy.githubHumans.map (·.normalizeAuthzRule))
    terminalAgents := sortedByRuleId (·.managedRuleId)
      (policy.terminalAgents.map (·.normalizeAuthzRule))
    localOperators := sortedByRuleId (·.managedRuleId)
      (policy.localOperators.map (·.normalizeAuthzRule))
    localAdmins := sortedByRuleId (·.managedRuleId)
      (policy.localAdmins.map (·.normalizeAuthzRule))
    ordinaryAgents := (policy.ordinaryAgents.map (·.normalizeAuthzRule)).insertionSort fun a b =>
      a.managedSetId < b.managedSetId ∨
        (a.managedSetId = b.managedSetId ∧ a.managedRuleId ≤ b.managedRuleId) }

/-- `_normalize_desired_authz_policy`: the rules are taken as they are, the policy is checked. -/
def normalizeDesiredAuthzPolicy (policy : LaunchplaneAuthzPolicy) :
    Except String LaunchplaneAuthzPolicy := do
  policy.normalized.check
  return policy.normalized

end LaunchplaneAuthzPolicy

/-! ### Fields -/

section Fields

variable {values : List String} {text : String}

theorem mem_sortedSelectors :
    text ∈ sortedSelectors values ↔ text ≠ "" ∧ ∃ value ∈ values, pyStrip value = text := by
  simp only [sortedSelectors, List.mem_insertionSort, List.mem_dedup, List.mem_filter,
    List.mem_map, decide_eq_true_eq]
  exact and_comm

theorem nodup_sortedSelectors : (sortedSelectors values).Nodup :=
  (List.perm_insertionSort _ _).nodup_iff.mpr (List.nodup_dedup _)

/-- A field that trimming leaves as it is, but for the order. -/
theorem perm_sortedSelectors (htrimmed : ∀ value ∈ values, pyStrip value = value ∧ value ≠ "")
    (hnodup : values.Nodup) : (sortedSelectors values).Perm values := by
  have hmap : values.map pyStrip = values :=
    (List.map_congr_left fun value hvalue => (htrimmed value hvalue).1).trans (List.map_id _)
  have hfilter : values.filter (· ≠ "") = values :=
    List.filter_eq_self.mpr fun value hvalue => by simpa using (htrimmed value hvalue).2
  have hsorted := List.perm_insertionSort (· ≤ ·) ((values.map pyStrip).filter (· ≠ "")).dedup
  rw [hmap, hfilter, List.dedup_eq_self.mpr hnodup] at hsorted
  rw [sortedSelectors, hmap, hfilter, List.dedup_eq_self.mpr hnodup]
  exact hsorted

/-- The selectors of a field restrict, once they are trimmed, what they restricted before. -/
def FieldKept (selectorMatches : String → List String → Bool) (values : List String) : Prop :=
  (∀ text, selectorMatches text (sortedSelectors values) = true →
    selectorMatches text values = true) ∧
  (values ≠ [] → ∃ value ∈ values, pyStrip value ≠ "")

/-- A field that has no selectors after it was trimmed had none before. -/
theorem FieldKept.eq_nil {sel : String → List String → Bool} (h : FieldKept sel values)
    (hempty : sortedSelectors values = []) : values = [] := by
  by_contra hne
  obtain ⟨value, hvalue, hblank⟩ := h.2 hne
  have hmem : pyStrip value ∈ sortedSelectors values :=
    mem_sortedSelectors.mpr ⟨hblank, value, hvalue, rfl⟩
  rw [hempty] at hmem
  exact List.not_mem_nil hmem

/-- A field that lets a text through after it was trimmed let it through before. -/
theorem FieldKept.allows {sel : String → List String → Bool} (h : FieldKept sel values)
    (hallows : sortedSelectors values = [] ∨ sel text (sortedSelectors values) = true) :
    values = [] ∨ sel text values = true := hallows.imp h.eq_nil (h.1 text)

/-- A field that is compared exactly has selectors that are not all blank, and each of them that is
not blank stands in it trimmed as well. -/
def KeptExactly (values : List String) : Prop :=
  (∀ value ∈ values, pyStrip value = "" ∨ pyStrip value ∈ values) ∧
  (values ≠ [] → ∃ value ∈ values, pyStrip value ≠ "")

/-- A field of patterns has patterns that are not all blank, and what each of them that is not blank
matches when it is trimmed, the patterns match as they were submitted. -/
def KeptAsPatterns (values : List String) : Prop :=
  (∀ value ∈ values, pyStrip value = "" ∨ ∀ text,
    fnmatchcase (pyStrip text) (pyStrip value) = true → authzSelectorMatches text values = true) ∧
  (values ≠ [] → ∃ value ∈ values, pyStrip value ≠ "")

/-- No other field that is compared exactly keeps what it restricts. -/
theorem fieldKept_exact_iff : FieldKept exactSelectorMatches values ↔ KeptExactly values := by
  unfold FieldKept KeptExactly
  refine and_congr_left' ⟨fun h value hvalue => ?_, fun h text htext => ?_⟩
  · by_cases hblank : pyStrip value = ""
    · exact .inl hblank
    · have hmem : pyStrip value ∈ sortedSelectors values :=
        mem_sortedSelectors.mpr ⟨hblank, value, hvalue, rfl⟩
      have hkept := h (pyStrip value)
      simp only [exactSelectorMatches, decide_eq_true_eq] at hkept
      exact .inr (hkept hmem)
  · simp only [exactSelectorMatches, decide_eq_true_eq] at htext ⊢
    obtain ⟨hblank, value, hvalue, rfl⟩ := mem_sortedSelectors.mp htext
    exact (h value hvalue).resolve_left hblank

/-- No other field of patterns keeps what it restricts. -/
theorem fieldKept_patterns_iff : FieldKept authzSelectorMatches values ↔ KeptAsPatterns values := by
  unfold FieldKept KeptAsPatterns
  refine and_congr_left' ⟨fun h value hvalue => ?_, fun h text htext => ?_⟩
  · by_cases hblank : pyStrip value = ""
    · exact .inl hblank
    · have hmem : pyStrip value ∈ sortedSelectors values :=
        mem_sortedSelectors.mpr ⟨hblank, value, hvalue, rfl⟩
      exact .inr fun text htext => h text (List.any_eq_true.mpr ⟨_, hmem, htext⟩)
  · obtain ⟨pattern, hpattern, hmatches⟩ := List.any_eq_true.mp htext
    obtain ⟨hblank, value, hvalue, rfl⟩ := mem_sortedSelectors.mp hpattern
    exact (h value hvalue).resolve_left hblank text hmatches

/-- Patterns that stand trimmed beside their untrimmed selves. -/
theorem KeptExactly.asPatterns (h : KeptExactly values) : KeptAsPatterns values :=
  ⟨fun value hvalue => (h.1 value hvalue).imp_right fun hmem _ hmatches =>
    List.any_eq_true.mpr ⟨_, hmem, hmatches⟩, h.2⟩

/-- A field that names one text and nothing else, blanks and repetitions aside. -/
def NamesOnly (name : String) (values : List String) : Prop :=
  (∃ value ∈ values, pyStrip value = name) ∧
  ∀ value ∈ values, pyStrip value = "" ∨ pyStrip value = name

theorem namesOnly_of_sortedSelectors {name : String} (h : sortedSelectors values = [name]) :
    NamesOnly name values := by
  constructor
  · exact (mem_sortedSelectors.mp (h ▸ List.mem_singleton_self name)).2
  · intro value hvalue
    by_cases hblank : pyStrip value = ""
    · exact .inl hblank
    · have hmem : pyStrip value ∈ sortedSelectors values :=
        mem_sortedSelectors.mpr ⟨hblank, value, hvalue, rfl⟩
      rw [h] at hmem
      exact .inr (List.mem_singleton.mp hmem)

/-- The instances of a rule were trimmed when it was validated. -/
theorem instancesAllowed_sortedSelectors {instances : List String}
    (hvalid : validatedInstanceSelectors instances = .ok instances) (target : AuthorizationTarget)
    (schema : SchemaVersion) :
    instancesAllowed (sortedSelectors instances) target schema =
      instancesAllowed instances target schema := by
  have hself : normalizedSelectors instances = instances := by
    unfold validatedInstanceSelectors at hvalid
    split_ifs at hvalid
    exact Except.ok.inj hvalid
  have htrimmed : ∀ value ∈ instances, pyStrip value = value ∧ value ≠ "" := by
    intro value hvalue
    rw [← hself] at hvalue
    simp only [normalizedSelectors, mem_fromKeys, List.mem_filter, List.mem_map,
      decide_eq_true_eq] at hvalue
    obtain ⟨⟨raw, -, rfl⟩, hne⟩ := hvalue
    exact ⟨pyStrip_pyStrip raw, hne⟩
  have hperm := perm_sortedSelectors htrimmed (hself ▸ nodup_fromKeys _)
  have hempty : sortedSelectors instances = [] ↔ instances = [] := by
    constructor
    · exact fun h => (h ▸ hperm).nil_eq.symm
    · intro h
      rw [h]
      rfl
  have hstar : sortedSelectors instances = ["*"] ↔ instances = ["*"] := by
    constructor
    · exact fun h => List.perm_singleton.mp (h ▸ hperm).symm
    · exact fun h => List.perm_singleton.mp (hperm.trans (h ▸ List.Perm.refl _))
  unfold instancesAllowed
  cases target with
  | instances wanted => simp only [hempty, hstar, hperm.mem_iff]
  | _ => simp only [hempty]

end Fields

/-! ### What keeps a policy from being widened -/

/-- The fields that every rule has keep what they restrict, the products and contexts as they are
read. -/
structure ScopedRule.Kept (field : List String → Prop) (rule : ScopedRule) : Prop where
  products : field rule.products
  contexts : field rule.contexts
  actions : KeptExactly rule.actions

/-- A workflow's rule keeps what it restricts. -/
structure GitHubActionsPolicyRule.Kept (rule : GitHubActionsPolicyRule) : Prop where
  scope : rule.toScopedRule.Kept KeptAsPatterns
  workflowRefs : KeptAsPatterns rule.workflowRefs
  jobWorkflowRefs : KeptAsPatterns rule.jobWorkflowRefs
  eventNames : KeptExactly rule.eventNames
  refs : KeptExactly rule.refs
  environments : KeptExactly rule.environments

/-- A human's rule keeps what it restricts. Where nothing but its products and contexts keep it from
being a strict administrator's, and these name no other than such a rule has to, it has them once
and trimmed. -/
structure GitHubHumanPolicyRule.Kept (rule : GitHubHumanPolicyRule) : Prop where
  scope : rule.toScopedRule.Kept KeptExactly
  logins : KeptAsPatterns rule.logins
  organizations : KeptAsPatterns rule.organizations
  teams : KeptAsPatterns rule.teams
  strict : ({ rule with products := ["launchplane"], contexts := ["launchplane"] } :
      GitHubHumanPolicyRule).isStrictAdministrator = true →
    NamesOnly "launchplane" rule.products → NamesOnly "launchplane" rule.contexts →
    rule.products = ["launchplane"] ∧ rule.contexts = ["launchplane"]

/-- A token-bound rule keeps what it restricts. -/
structure TokenBoundPolicyRule.Kept (field : List String → Prop) (rule : TokenBoundPolicyRule) :
    Prop where
  scope : rule.toScopedRule.Kept field
  subjects : KeptAsPatterns rule.subjects
  tokenLabels : KeptAsPatterns rule.tokenLabels

/-- Every rule of a policy keeps what it restricts. -/
structure LaunchplaneAuthzPolicy.Kept (policy : LaunchplaneAuthzPolicy) : Prop where
  githubActions : ∀ rule ∈ policy.githubActions, rule.Kept
  githubHumans : ∀ rule ∈ policy.githubHumans, rule.Kept
  terminalAgents : ∀ rule ∈ policy.terminalAgents, rule.Kept KeptExactly
  localOperators : ∀ rule ∈ policy.localOperators, rule.Kept KeptAsPatterns
  localAdmins : ∀ rule ∈ policy.localAdmins, rule.Kept KeptAsPatterns

/-! ### Rules that keep what they restrict -/

section Rules

variable {request : AuthzRequest} {schema : SchemaVersion}

theorem instances_of_validate {rule rule' : ScopedRule} (h : rule.validate = .ok rule') :
    validatedInstanceSelectors rule'.instances = .ok rule'.instances := by
  unfold ScopedRule.validate at h
  obtain ⟨instances, hinstances, h⟩ := bind_eq_ok.mp h
  obtain ⟨ids, -, h⟩ := bind_eq_ok.mp h
  cases h
  exact validatedInstanceSelectors_idempotent _ _ hinstances

/-- A field that is compared exactly. -/
theorem KeptExactly.allows {values : List String} {text : String} (h : KeptExactly values)
    (hallows : sortedSelectors values = [] ∨ text ∈ sortedSelectors values) :
    values = [] ∨ text ∈ values := by
  have hkept : values = [] ∨ exactSelectorMatches text values = true :=
    (fieldKept_exact_iff.mpr h).allows (hallows.imp_right (by simp [exactSelectorMatches]))
  exact hkept.imp_right (by simp [exactSelectorMatches])

/-- A field of patterns. -/
theorem KeptAsPatterns.allows {values : List String} {text : String} (h : KeptAsPatterns values)
    (hallows : sortedSelectors values = [] ∨
      authzSelectorMatches text (sortedSelectors values) = true) :
    values = [] ∨ authzSelectorMatches text values = true :=
  (fieldKept_patterns_iff.mpr h).allows hallows

theorem ScopedRule.allowsScope_iff {sel : String → List String → Bool} {rule : ScopedRule} :
    rule.allowsScope sel request schema = true ↔
      (rule.products = [] ∨ sel request.product rule.products = true) ∧
      (rule.contexts = [] ∨ sel request.context rule.contexts = true) ∧
      instancesAllowed rule.instances request.target schema = true ∧
      (rule.actions = [] ∨ request.action ∈ rule.actions) := by
  simp only [ScopedRule.allowsScope, Bool.and_eq_true, Bool.or_eq_true, decide_eq_true_eq,
    and_assoc]

theorem ScopedRule.Kept.allowsScope {sel : String → List String → Bool}
    {field : List String → Prop} (hfield : ∀ values, FieldKept sel values ↔ field values)
    {rule : ScopedRule} (h : rule.Kept field) (hinstances : validatedInstanceSelectors rule.instances = .ok rule.instances)
    (hallows : rule.normalizeAuthzRule.allowsScope sel request schema = true) :
    rule.allowsScope sel request schema = true := by
  obtain ⟨hproducts, hcontexts, htarget, hactions⟩ := ScopedRule.allowsScope_iff.mp hallows
  exact ScopedRule.allowsScope_iff.mpr ⟨((hfield _).mpr h.products).allows hproducts,
    ((hfield _).mpr h.contexts).allows hcontexts,
    (instancesAllowed_sortedSelectors hinstances _ _).symm.trans htarget,
    h.actions.allows hactions⟩

theorem GitHubActionsPolicyRule.allows_iff {rule : GitHubActionsPolicyRule}
    {identity : GitHubActionsIdentity} :
    rule.allows identity request schema = true ↔
      pyStrip rule.repository = identity.repository ∧
      (rule.repositoryId = "" ∨ rule.repositoryId = identity.repositoryId) ∧
      (rule.repositoryOwnerId = "" ∨ rule.repositoryOwnerId = identity.repositoryOwnerId) ∧
      (rule.workflowRefs = [] ∨
        authzSelectorMatches identity.workflowRef rule.workflowRefs = true) ∧
      (rule.jobWorkflowRefs = [] ∨
        authzSelectorMatches identity.jobWorkflowRef rule.jobWorkflowRefs = true) ∧
      (rule.eventNames = [] ∨ identity.eventName ∈ rule.eventNames) ∧
      (rule.refs = [] ∨ identity.ref ∈ rule.refs) ∧
      (rule.environments = [] ∨ identity.environment ∈ rule.environments) ∧
      rule.allowsScope authzSelectorMatches request schema = true := by
  simp only [GitHubActionsPolicyRule.allows, Bool.and_eq_true, Bool.or_eq_true, decide_eq_true_eq,
    and_assoc]

theorem GitHubActionsPolicyRule.Kept.allows {rule : GitHubActionsPolicyRule} (h : rule.Kept)
    (hinstances : validatedInstanceSelectors rule.instances = .ok rule.instances)
    {identity : GitHubActionsIdentity}
    (hallows : rule.normalizeAuthzRule.allows identity request schema = true) :
    rule.allows identity request schema = true := by
  obtain ⟨hrepository, hid, howner, hworkflow, hjob, hevent, href, henvironment, hscope⟩ :=
    GitHubActionsPolicyRule.allows_iff.mp hallows
  exact GitHubActionsPolicyRule.allows_iff.mpr ⟨hrepository, hid, howner,
    h.workflowRefs.allows hworkflow, h.jobWorkflowRefs.allows hjob, h.eventNames.allows hevent,
    h.refs.allows href, h.environments.allows henvironment,
    h.scope.allowsScope (fun _ => fieldKept_patterns_iff) hinstances hscope⟩

/-- A field of which an identity has several values. -/
theorem KeptAsPatterns.intersects {values allowed : List String} (h : KeptAsPatterns allowed)
    (hallows : sortedSelectors allowed = [] ∨
      selectorsIntersect values (sortedSelectors allowed) = true) :
    allowed = [] ∨ selectorsIntersect values allowed = true := by
  obtain hempty | hany := hallows
  · exact .inl ((fieldKept_patterns_iff.mpr h).eq_nil hempty)
  · obtain ⟨value, hvalue, hmatches⟩ := List.any_eq_true.mp hany
    exact .inr (List.any_eq_true.mpr
      ⟨value, hvalue, (fieldKept_patterns_iff.mpr h).1 value hmatches⟩)

theorem GitHubHumanPolicyRule.matchesPrincipal_iff {rule : GitHubHumanPolicyRule} {githubId : Int}
    {login : String} {organizations teams : List String} {role : HumanRole} :
    rule.matchesPrincipal githubId login organizations teams role = true ↔
      role ≠ .owner ∧ (rule.githubIds = [] ∨ githubId ∈ rule.githubIds) ∧
      (rule.logins = [] ∨ authzSelectorMatches login rule.logins = true) ∧
      (rule.organizations = [] ∨ selectorsIntersect organizations rule.organizations = true) ∧
      (rule.teams = [] ∨ selectorsIntersect teams rule.teams = true) ∧
      (rule.roles = [] ∨ role ∈ rule.roles) := by
  simp only [GitHubHumanPolicyRule.matchesPrincipal, Bool.and_eq_true, Bool.or_eq_true,
    decide_eq_true_eq, and_assoc]

theorem mem_normalized_roles {rule : GitHubHumanPolicyRule} {role : HumanRole} :
    role ∈ rule.normalizeAuthzRule.roles ↔ role ∈ rule.roles := by
  simp [GitHubHumanPolicyRule.normalizeAuthzRule]

theorem normalized_roles_eq_nil {rule : GitHubHumanPolicyRule}
    (h : rule.normalizeAuthzRule.roles = []) : rule.roles = [] :=
  List.eq_nil_iff_forall_not_mem.mpr fun role hrole => by
    have hmem := mem_normalized_roles.mpr hrole
    rw [h] at hmem
    exact List.not_mem_nil hmem

theorem GitHubHumanPolicyRule.Kept.matchesPrincipal {rule : GitHubHumanPolicyRule} (h : rule.Kept)
    {githubId : Int} {login : String} {organizations teams : List String} {role : HumanRole}
    (hmatches : rule.normalizeAuthzRule.matchesPrincipal githubId login organizations teams role =
      true) :
    rule.matchesPrincipal githubId login organizations teams role = true := by
  obtain ⟨howner, hid, hlogin, horganization, hteam, hrole⟩ :=
    GitHubHumanPolicyRule.matchesPrincipal_iff.mp hmatches
  exact GitHubHumanPolicyRule.matchesPrincipal_iff.mpr ⟨howner, hid, h.logins.allows hlogin,
    h.organizations.intersects horganization, h.teams.intersects hteam,
    hrole.imp normalized_roles_eq_nil mem_normalized_roles.mp⟩

theorem GitHubHumanPolicyRule.Kept.allows {rule : GitHubHumanPolicyRule} (h : rule.Kept)
    (hinstances : validatedInstanceSelectors rule.instances = .ok rule.instances)
    {identity : GitHubHumanIdentity}
    (hallows : rule.normalizeAuthzRule.allows identity request schema = true) :
    rule.allows identity request schema = true := by
  obtain ⟨hprincipal, hscope⟩ := Bool.and_eq_true_iff.mp hallows
  exact Bool.and_eq_true_iff.mpr
    ⟨h.matchesPrincipal hprincipal,
      h.scope.allowsScope (fun _ => fieldKept_exact_iff) hinstances hscope⟩

theorem TokenBoundPolicyRule.allows_iff {sel : String → List String → Bool}
    {rule : TokenBoundPolicyRule} {identity : TokenIdentity} :
    rule.allows sel identity request schema = true ↔
      (rule.subjects = [] ∨ authzSelectorMatches identity.subject rule.subjects = true) ∧
      (rule.tokenLabels = [] ∨
        authzSelectorMatches identity.tokenLabel rule.tokenLabels = true) ∧
      rule.allowsScope sel request schema = true := by
  simp only [TokenBoundPolicyRule.allows, Bool.and_eq_true, Bool.or_eq_true, decide_eq_true_eq,
    and_assoc]

theorem TokenBoundPolicyRule.Kept.allows {sel : String → List String → Bool}
    {field : List String → Prop} (hfield : ∀ values, FieldKept sel values ↔ field values)
    {rule : TokenBoundPolicyRule} (h : rule.Kept field)
    (hinstances : validatedInstanceSelectors rule.instances = .ok rule.instances)
    {identity : TokenIdentity}
    (hallows : rule.normalizeAuthzRule.allows sel identity request schema = true) :
    rule.allows sel identity request schema = true := by
  obtain ⟨hsubject, hlabel, hscope⟩ := TokenBoundPolicyRule.allows_iff.mp hallows
  exact TokenBoundPolicyRule.allows_iff.mpr ⟨h.subjects.allows hsubject,
    h.tokenLabels.allows hlabel, h.scope.allowsScope hfield hinstances hscope⟩

/-- The read role is inherited from the same actions. -/
theorem inheritedRequest_normalize {effects : ActionEffects} {inherit : Bool} {rule : ScopedRule}
    (h : KeptExactly rule.actions)
    (hraw : agentReadRoleAction ∈ rule.actions → agentReadRoleAction ∈ sortedSelectors rule.actions) :
    inheritedRequest effects inherit rule.normalizeAuthzRule request =
      inheritedRequest effects inherit rule request := by
  have hsame : agentReadRoleAction ∈ rule.normalizeAuthzRule.actions ↔
      agentReadRoleAction ∈ rule.actions := by
    refine ⟨fun hmem => ?_, hraw⟩
    obtain hempty | hmem' := h.allows (.inr hmem)
    · rw [ScopedRule.normalizeAuthzRule, hempty] at hmem
      exact absurd hmem List.not_mem_nil
    · exact hmem'
  simp only [inheritedRequest, hsame]

theorem readRole_mem_sortedSelectors {actions : List String} (h : agentReadRoleAction ∈ actions) :
    agentReadRoleAction ∈ sortedSelectors actions :=
  mem_sortedSelectors.mpr ⟨by decide, agentReadRoleAction, h, by decide +kernel⟩

theorem TokenBoundPolicyRule.Kept.allowsInheriting {sel : String → List String → Bool}
    {field : List String → Prop} (hfield : ∀ values, FieldKept sel values ↔ field values)
    {effects : ActionEffects} {inherit : Bool} {rule : TokenBoundPolicyRule} (h : rule.Kept field)
    (hinstances : validatedInstanceSelectors rule.instances = .ok rule.instances)
    {identity : TokenIdentity}
    (hallows : rule.normalizeAuthzRule.allowsInheriting effects inherit sel identity request schema =
      true) :
    rule.allowsInheriting effects inherit sel identity request schema = true := by
  have hrequest : inheritedRequest effects inherit rule.normalizeAuthzRule.toScopedRule request =
      inheritedRequest effects inherit rule.toScopedRule request :=
    inheritedRequest_normalize h.scope.actions readRole_mem_sortedSelectors
  unfold TokenBoundPolicyRule.allowsInheriting at hallows ⊢
  rw [hrequest] at hallows
  exact h.allows hfield hinstances hallows

theorem GitHubHumanPolicyRule.isStrictAdministrator_iff {rule : GitHubHumanPolicyRule} :
    rule.isStrictAdministrator = true ↔
      rule.githubIds ≠ [] ∧ HumanRole.admin ∈ rule.roles ∧
      authzPolicyAdminAction ∈ rule.actions ∧ rule.products = ["launchplane"] ∧
      rule.contexts = ["launchplane"] ∧ rule.logins = [] ∧ rule.organizations = [] ∧
      rule.teams = [] ∧ rule.instances = [] := by
  simp only [GitHubHumanPolicyRule.isStrictAdministrator, Bool.and_eq_true, decide_eq_true_eq,
    and_assoc]

theorem sortedSelectors_instances_eq_nil {instances : List String}
    (hvalid : validatedInstanceSelectors instances = .ok instances)
    (h : sortedSelectors instances = []) : instances = [] := by
  have hnone := instancesAllowed_sortedSelectors hvalid .global .v1
  unfold instancesAllowed at hnone
  simpa [h] using hnone

/-- Trimming makes no rule a strict administrator's. -/
theorem GitHubHumanPolicyRule.Kept.isStrictAdministrator {rule : GitHubHumanPolicyRule}
    (h : rule.Kept) (hinstances : validatedInstanceSelectors rule.instances = .ok rule.instances)
    (hstrict : rule.normalizeAuthzRule.isStrictAdministrator = true) :
    rule.isStrictAdministrator = true := by
  obtain ⟨hids, hrole, hadmin, hproducts, hcontexts, hlogins, horganizations, hteams, hnone⟩ :=
    GitHubHumanPolicyRule.isStrictAdministrator_iff.mp hstrict
  have hrole' := mem_normalized_roles.mp hrole
  have hadmin' : authzPolicyAdminAction ∈ rule.actions := by
    obtain hempty | hmem := h.scope.actions.allows (.inr hadmin)
    · rw [GitHubHumanPolicyRule.normalizeAuthzRule, ScopedRule.normalizeAuthzRule, hempty] at hadmin
      exact absurd hadmin List.not_mem_nil
    · exact hmem
  have hlogins' := (fieldKept_patterns_iff.mpr h.logins).eq_nil hlogins
  have horganizations' := (fieldKept_patterns_iff.mpr h.organizations).eq_nil horganizations
  have hteams' := (fieldKept_patterns_iff.mpr h.teams).eq_nil hteams
  have hinstances' := sortedSelectors_instances_eq_nil hinstances hnone
  obtain ⟨hproducts', hcontexts'⟩ := h.strict
    (GitHubHumanPolicyRule.isStrictAdministrator_iff.mpr ⟨hids, hrole', hadmin', rfl, rfl, hlogins',
      horganizations', hteams', hinstances'⟩) (namesOnly_of_sortedSelectors hproducts)
    (namesOnly_of_sortedSelectors hcontexts)
  exact GitHubHumanPolicyRule.isStrictAdministrator_iff.mpr ⟨hids, hrole', hadmin', hproducts',
    hcontexts', hlogins', horganizations', hteams', hinstances'⟩

end Rules

/-! ### Policies -/

namespace LaunchplaneAuthzPolicy

section

variable {isDecimal : Char → Bool} {policy : LaunchplaneAuthzPolicy} {effects : ActionEffects}
  {inherit : Bool} {request : AuthzRequest}

/-- A collection, normalised: what one of its rules grants, one of the submitted rules granted. -/
theorem any_of_any_normalized {α : Type} {rules : List α} {ruleId : α → Option String}
    {normalize : α → α} {grants : α → Bool}
    (hkept : ∀ rule ∈ rules, grants (normalize rule) = true → grants rule = true)
    (h : (sortedByRuleId ruleId (rules.map normalize)).any grants = true) :
    rules.any grants = true := by
  obtain ⟨_, hmem, hgrants⟩ := List.any_eq_true.mp h
  rw [sortedByRuleId, List.mem_insertionSort] at hmem
  obtain ⟨rule, hrule, rfl⟩ := List.mem_map.mp hmem
  exact List.any_eq_true.mpr ⟨rule, hrule, hkept rule hrule hgrants⟩

/-- The instances of the rules were trimmed when the policy was validated. -/
theorem instances_of_mapM {α : Type} {validate : α → Except String α} {rules : List α}
    (scope : α → ScopedRule)
    (hscope : ∀ a b, validate a = .ok b → (scope a).validate = .ok (scope b))
    (hrules : rules.mapM validate = .ok rules) :
    ∀ rule ∈ rules, validatedInstanceSelectors (scope rule).instances = .ok (scope rule).instances := by
  intro rule hrule
  obtain ⟨raw, -, hraw⟩ := forall_of_mapM hrules rule hrule
  exact instances_of_validate (hscope _ _ hraw)

theorem namesAdministrator_of_normalized (hvalid : policy.Valid isDecimal) (hkept : policy.Kept)
    {identity : GitHubHumanIdentity}
    (h : policy.normalized.namesAdministrator identity = true) :
    policy.namesAdministrator identity = true := by
  obtain ⟨-, hhumans, -⟩ := hvalid.parts
  have hinstances := instances_of_mapM (·.toScopedRule)
    (fun _ _ => GitHubHumanPolicyRule.scope_of_validate) hhumans
  simp only [namesAdministrator, allowsImmutableGithubIdAdministration, Bool.and_eq_true,
    decide_eq_true_eq] at h ⊢
  obtain ⟨hrole, hpositive, hid⟩ := h
  refine ⟨hrole, hpositive, ?_⟩
  obtain ⟨_, hmem, hstrict, hlisted⟩ := mem_strictAdministratorIds.mp hid
  simp only [normalized, sortedByRuleId, List.mem_insertionSort] at hmem
  obtain ⟨rule, hrule, rfl⟩ := List.mem_map.mp hmem
  exact mem_strictAdministratorIds.mpr ⟨rule, hrule,
    (hkept.githubHumans rule hrule).isStrictAdministrator (hinstances rule hrule) hstrict, hlisted⟩

theorem hasGrant_of_normalized (hvalid : policy.Valid isDecimal) (hkept : policy.Kept)
    {marked : MarkedIdentity}
    (h : policy.normalized.hasGrantInheriting effects inherit request marked = true) :
    policy.hasGrantInheriting effects inherit request marked = true := by
  obtain ⟨hactions, hhumans, hterminal, hoperators, hadmins, -⟩ := hvalid.parts
  have htokenScope (a b : TokenBoundPolicyRule) := @TokenBoundPolicyRule.scope_of_validate a b
  unfold hasGrantInheriting at h ⊢
  cases hidentity : marked.identity with
  | githubActions identity =>
      rw [hidentity] at h
      have hinstances := instances_of_mapM (·.toScopedRule)
        (fun _ _ => GitHubActionsPolicyRule.scope_of_validate) hactions
      exact any_of_any_normalized (fun rule hrule hgrants =>
        (hkept.githubActions rule hrule).allows (hinstances rule hrule) hgrants) h
  | githubHuman identity =>
      rw [hidentity] at h
      have hinstances := instances_of_mapM (·.toScopedRule)
        (fun _ _ => GitHubHumanPolicyRule.scope_of_validate) hhumans
      refine Bool.or_eq_true_iff.mpr ((Bool.or_eq_true_iff.mp h).imp
        (namesAdministrator_of_normalized hvalid hkept) fun hany => ?_)
      exact any_of_any_normalized (fun rule hrule hgrants =>
        (hkept.githubHumans rule hrule).allows (hinstances rule hrule) hgrants) hany
  | terminalAgent identity =>
      rw [hidentity] at h
      have hinstances := instances_of_mapM (·.toScopedRule) htokenScope hterminal
      refine Bool.or_eq_true_iff.mpr ((Bool.or_eq_true_iff.mp h).imp_right fun hany => ?_)
      exact any_of_any_normalized (fun rule hrule hgrants =>
        (hkept.terminalAgents rule hrule).allowsInheriting (fun _ => fieldKept_exact_iff)
          (hinstances rule hrule) hgrants) hany
  | localOperator identity =>
      rw [hidentity] at h
      have hinstances := instances_of_mapM (·.toScopedRule) htokenScope hoperators
      refine Bool.or_eq_true_iff.mpr ((Bool.or_eq_true_iff.mp h).imp_right fun hany => ?_)
      exact any_of_any_normalized (fun rule hrule hgrants =>
        (hkept.localOperators rule hrule).allowsInheriting (fun _ => fieldKept_patterns_iff)
          (hinstances rule hrule) hgrants) hany
  | localAdmin identity =>
      rw [hidentity] at h
      have hinstances := instances_of_mapM (·.toScopedRule) htokenScope hadmins
      exact any_of_any_normalized (fun rule hrule hgrants =>
        (hkept.localAdmins rule hrule).allows (fun _ => fieldKept_patterns_iff)
          (hinstances rule hrule) hgrants) h

/-- No identity is turned away for the reason of an allowed decision. -/
theorem restriction_ne_allowed {identity : LaunchplaneIdentity} :
    restriction request identity ≠ some .allowed := by
  cases identity with
  | githubActions identity => simp [restriction]
  | terminalAgent identity => simp [restriction]
  | githubHuman identity =>
      rw [restriction]
      split_ifs
      · simp
      · simp
  | localOperator identity =>
      rw [restriction]
      split_ifs
      · simp
      · simp
  | localAdmin identity =>
      rw [restriction]
      split_ifs
      · simp
      · simp

theorem evaluateInheriting_eq_allowed {marked : MarkedIdentity} :
    policy.evaluateInheriting effects inherit marked request = .allowed ↔
      ¬(policy.schemaVersion = .v1 ∧ request.action ∈ exactInstanceWorkflowAuthzActions) ∧
      ¬(policy.schemaVersion ≠ .v1 ∧ request.action ∈ exclusivelyInstanceScopedAuthzActions ∧
        ¬request.target.onInstance) ∧
      restriction request marked.identity = none ∧
      policy.hasGrantInheriting effects inherit request marked = true := by
  unfold evaluateInheriting
  by_cases hschema : policy.schemaVersion = .v1 ∧ request.action ∈ exactInstanceWorkflowAuthzActions
  · simp [hschema]
  · by_cases hinstance : policy.schemaVersion ≠ .v1 ∧
        request.action ∈ exclusivelyInstanceScopedAuthzActions ∧ ¬request.target.onInstance
    · rw [if_neg hschema, if_pos hinstance]
      exact ⟨nofun, fun h => absurd hinstance h.2.1⟩
    · rw [if_neg hschema, if_neg hinstance]
      cases hrestriction : restriction request marked.identity with
      | some reason =>
          refine ⟨fun h => ?_, fun h => nomatch h.2.2.1⟩
          rw [show reason = .allowed from h] at hrestriction
          exact absurd hrestriction restriction_ne_allowed
      | none =>
          by_cases hgrant : policy.hasGrantInheriting effects inherit request marked = true
          · simp only [hgrant, if_true, true_iff]
            exact ⟨hschema, hinstance, trivial, trivial⟩
          · simp [hgrant]

/-- **Where every rule keeps what it restricts, normalising widens nothing.** -/
theorem allowed_of_normalizeDesiredAuthzPolicy (isDecimal : Char → Bool) (effects : ActionEffects)
    (policy normalized : LaunchplaneAuthzPolicy) (hvalid : policy.Valid isDecimal)
    (hkept : policy.Kept) (hnormalized : policy.normalizeDesiredAuthzPolicy = .ok normalized)
    (inherit : Bool) (marked : MarkedIdentity) (request : AuthzRequest)
    (h : normalized.evaluateInheriting effects inherit marked request = .allowed) :
    policy.evaluateInheriting effects inherit marked request = .allowed := by
  unfold normalizeDesiredAuthzPolicy at hnormalized
  obtain ⟨⟨⟩, -, hnormalized⟩ := bind_eq_ok.mp hnormalized
  cases hnormalized
  obtain ⟨hschema, hinstance, hfree, hgrant⟩ := evaluateInheriting_eq_allowed.mp h
  exact evaluateInheriting_eq_allowed.mpr
    ⟨hschema, hinstance, hfree, hasGrant_of_normalized hvalid hkept hgrant⟩

/-- An agent's rule for some products. -/
def agentPolicy (subjects products : List String) : LaunchplaneAuthzPolicy :=
  { schemaVersion := .v2
    terminalAgents := [{
      managedSetId := some "operator.agent"
      managedRuleId := some "config"
      subjects
      tokenLabels := ["laptop"]
      products
      contexts := ["prod"]
      actions := ["product_config.apply"] }] }

/-- The agent, and the product, once more with a blank before them, and a blank by itself. -/
def untrimmedPolicy : LaunchplaneAuthzPolicy := agentPolicy ["agent", " agent"] [" shop", "shop", " "]

theorem kept_untrimmedPolicy : untrimmedPolicy.Kept where
  githubActions := by simp [untrimmedPolicy, agentPolicy]
  githubHumans := by simp [untrimmedPolicy, agentPolicy]
  terminalAgents := by
    intro rule hrule
    obtain rfl := List.mem_singleton.mp hrule
    have hsubjects : KeptExactly ["agent", " agent"] := by
      unfold KeptExactly
      decide +kernel
    have hproducts : KeptExactly [" shop", "shop", " "] := by
      unfold KeptExactly
      decide +kernel
    have hone {text : String} (htext : pyStrip text = text) (hne : text ≠ "") :
        KeptExactly [text] := by
      simp [KeptExactly, htext, hne]
    exact ⟨⟨hproducts, hone (by decide +kernel) (by decide), hone (by decide +kernel) (by decide)⟩,
      hsubjects.asPatterns, (hone (by decide +kernel) (by decide)).asPatterns⟩
  localOperators := by simp [untrimmedPolicy, agentPolicy]
  localAdmins := by simp [untrimmedPolicy, agentPolicy]

/-- The agent of the policy, asking about a product. -/
def agentRequest (product : String) : AuthzRequest :=
  { action := "product_config.apply", product, context := "prod" }

def agentIdentity : MarkedIdentity := { identity := .terminalAgent ⟨"agent", "laptop"⟩ }

/-- What the trimmed policy allows, the policy allowed as it was submitted. -/
theorem allowed_of_normalized_untrimmedPolicy :
    untrimmedPolicy.normalized = agentPolicy ["agent"] ["shop"] ∧
      untrimmedPolicy.evaluateInheriting ⟨fun _ => false, fun _ => false⟩ false agentIdentity
        (agentRequest "shop") = .allowed :=
  ⟨by decide +kernel, allowed_of_normalizeDesiredAuthzPolicy (·.isDigit)
    ⟨fun _ => false, fun _ => false⟩ untrimmedPolicy untrimmedPolicy.normalized (by rfl)
    kept_untrimmedPolicy (by rfl) false agentIdentity (agentRequest "shop") (by decide +kernel)⟩

/-- A blank product, with which the rule grants nothing, is dropped, and the rule then grants every
product. -/
theorem normalized_widens : ∃ policy normalized : LaunchplaneAuthzPolicy,
    policy.Valid (·.isDigit) ∧ policy.normalizeDesiredAuthzPolicy = .ok normalized ∧
      normalized.evaluateInheriting ⟨fun _ => false, fun _ => false⟩ false agentIdentity
        (agentRequest "shop") = .allowed ∧
      policy.evaluateInheriting ⟨fun _ => false, fun _ => false⟩ false agentIdentity
        (agentRequest "shop") ≠ .allowed :=
  ⟨agentPolicy ["agent"] [" "], (agentPolicy ["agent"] [" "]).normalized, by rfl, by rfl, by decide +kernel,
    by decide +kernel⟩

end

end LaunchplaneAuthzPolicy

end Launchplane.Authz
