import Launchplane.Authz.Plan

/-!
# Launchplane.Authz.PinnedWorkflows

**A plan opens nothing sensitive to a workflow that is not pinned.** A desired
rule names the workflows it lets do something sensitive by full commits. Where it
names another reference, an active rule that is otherwise the same names that
reference already, and lets the workflow through without the plan.
-/

namespace Launchplane.Authz

/-! ### Selectors without wildcards -/

theorem patternTokens_of_plain {cs : List Char} (h : ∀ c ∈ cs, c ∉ ['*', '?', '[']) {fuel : Nat}
    (hfuel : cs.length ≤ fuel) : patternTokens fuel cs = cs.map .char := by
  induction cs generalizing fuel with
  | nil => cases fuel <;> rfl
  | cons c cs ih =>
      obtain ⟨fuel, rfl⟩ : ∃ n, fuel = n + 1 := ⟨fuel - 1, by simp at hfuel; omega⟩
      have hc := h c List.mem_cons_self
      simp only [List.mem_cons, List.not_mem_nil, or_false, not_or] at hc
      rw [patternTokens, ih (fun c hc => h c (List.mem_cons_of_mem _ hc)) (by simpa using hfuel)]
      · rfl
      all_goals simp_all

theorem matchTokens_chars {pattern cs : List Char} :
    matchTokens (pattern.map .char) cs = true ↔ cs = pattern := by
  induction pattern generalizing cs with
  | nil => simp [matchTokens]
  | cons c pattern ih =>
      cases cs with
      | nil => simp [matchTokens]
      | cons d cs => simp [matchTokens, PatternToken.takes, ih]

/-- A selector without wildcards selects itself. -/
theorem fnmatchcase_of_plain {name pattern : String} (h : containsSelectorGlob pattern = false) :
    fnmatchcase name pattern = true ↔ name = pattern := by
  have hplain : ∀ c ∈ pattern.toList, c ∉ ['*', '?', '['] := by
    simpa [containsSelectorGlob, List.any_eq_false] using h
  rw [fnmatchcase, patternTokens_of_plain hplain le_rfl, matchTokens_chars, String.toList_inj]

/-! ### Selectors in normal form -/

section

variable {values : List String}

/-- Selectors are in normal form that are trimmed, not blank, in order and named once. -/
theorem sortedSelectors_eq_self_iff : sortedSelectors values = values ↔
    values.Pairwise (· ≤ ·) ∧ values.Nodup ∧ ∀ value ∈ values, pyStrip value = value ∧ value ≠ "" := by
  constructor
  · intro h
    rw [← h]
    refine ⟨List.pairwise_insertionSort _ _, nodup_sortedSelectors, fun value hvalue => ?_⟩
    obtain ⟨hblank, raw, -, rfl⟩ := mem_sortedSelectors.mp hvalue
    exact ⟨pyStrip_pyStrip raw, hblank⟩
  · rintro ⟨hsorted, hnodup, htrimmed⟩
    have hmap : values.map pyStrip = values :=
      (List.map_congr_left fun value hvalue => (htrimmed value hvalue).1).trans (List.map_id _)
    have hfilter : values.filter (· ≠ "") = values :=
      List.filter_eq_self.mpr fun value hvalue => by simpa using (htrimmed value hvalue).2
    rw [sortedSelectors, hmap, hfilter, List.dedup_eq_self.mpr hnodup, hsorted.insertionSort_eq]

@[simp] theorem sortedSelectors_sortedSelectors :
    sortedSelectors (sortedSelectors values) = sortedSelectors values := by
  refine sortedSelectors_eq_self_iff.mpr
    ⟨List.pairwise_insertionSort _ _, nodup_sortedSelectors, fun value hvalue => ?_⟩
  obtain ⟨hblank, raw, -, rfl⟩ := mem_sortedSelectors.mp hvalue
  exact ⟨pyStrip_pyStrip raw, hblank⟩

theorem sortedSelectors_filter (h : sortedSelectors values = values) (p : String → Bool) :
    sortedSelectors (values.filter p) = values.filter p := by
  obtain ⟨hsorted, hnodup, htrimmed⟩ := sortedSelectors_eq_self_iff.mp h
  exact sortedSelectors_eq_self_iff.mpr ⟨hsorted.sublist List.filter_sublist, hnodup.filter p,
    fun value hvalue => htrimmed value (List.mem_of_mem_filter hvalue)⟩

end

/-- The selectors of a workflow's rule are in the form that normalising gives them. -/
def GitHubActionsPolicyRule.Normal (rule : GitHubActionsPolicyRule) : Prop :=
  rule.normalizeAuthzRule = rule

theorem GitHubActionsPolicyRule.normal_normalizeAuthzRule (rule : GitHubActionsPolicyRule) :
    rule.normalizeAuthzRule.Normal := by
  simp [Normal, normalizeAuthzRule, ScopedRule.normalizeAuthzRule]

/-- A part of a rule in normal form is in normal form. -/
theorem GitHubActionsPolicyRule.Normal.part {rule : GitHubActionsPolicyRule} (h : rule.Normal)
    {scope : ScopedRule} (hscope : scope ∈ migratedScopes rule.toScopedRule) :
    ({ rule with toScopedRule := scope } : GitHubActionsPolicyRule).Normal := by
  have hfields := GitHubActionsPolicyRule.mk.inj h
  obtain ⟨hrule, -, -, -, hworkflow, hjob, hevent, href, henvironment⟩ := hfields
  obtain ⟨-, -, hproducts, hcontexts, hinstances, hactions⟩ := ScopedRule.mk.inj hrule
  have hnone : sortedSelectors [] = [] := rfl
  have hall : sortedSelectors ["*"] = ["*"] := by decide +kernel
  by_cases hempty : rule.actions = []
  · obtain rfl | rfl := (mem_migratedScopes_all hempty).mp hscope
    · simp_all [Normal, normalizeAuthzRule, ScopedRule.normalizeAuthzRule]
    · simp_all [Normal, normalizeAuthzRule, ScopedRule.normalizeAuthzRule]
  · obtain ⟨-, rfl⟩ | ⟨-, rfl⟩ := (mem_migratedScopes hempty).mp hscope
    · simp_all [Normal, normalizeAuthzRule, ScopedRule.normalizeAuthzRule, sortedSelectors_filter]
    · simp_all [Normal, normalizeAuthzRule, ScopedRule.normalizeAuthzRule, sortedSelectors_filter]

/-! ### The base of a plan -/

section Base

variable {R : PlanRuntime} {currentPolicy basePolicy : LaunchplaneAuthzPolicy}
  {request : ReconcileEnvelope}

theorem normal_of_reconcileBase (hvalid : currentPolicy.Valid R.digests.isDecimal)
    (h : reconcileBase R currentPolicy request = .ok basePolicy)
    (hnormal : ∀ rule ∈ currentPolicy.githubActions, rule.Normal) :
    ∀ rule ∈ basePolicy.githubActions, rule.Normal := by
  obtain ⟨rfl, -⟩ | ⟨rfl, -⟩ | ⟨rfl, -⟩ := reconcileBase_cases hvalid h
  · exact hnormal
  · intro rule hrule
    simp only [LaunchplaneAuthzPolicy.migrated, migratedRules, List.mem_flatMap, List.mem_map] at hrule
    obtain ⟨whole, hwhole, scope, hscope, rfl⟩ := hrule
    exact (hnormal whole hwhole).part hscope
  · exact hnormal

end Base

/-! ### Sensitive requests -/

/-- Whether the target names an instance. -/
def AuthorizationTarget.names (target : AuthorizationTarget) (instanceName : String) : Bool :=
  match target with
  | instances names => instanceName ∈ names
  | _ => false

/-- A request that is only to be granted to reviewed workflows. -/
def AuthzRequest.sensitive (request : AuthzRequest) : Bool :=
  request.action ∈ exactInstanceWorkflowAuthzActions ||
    (request.action ∈ instancePinnedWorkflowAuthzActions && request.target.onInstance) ||
    actionSafety request.action ∈ immutableActionSafeties || request.target.names "prod"

section Rule

variable {rule currentRule desiredRule : GitHubActionsPolicyRule} {identity : GitHubActionsIdentity}
  {request : AuthzRequest} {schema : SchemaVersion}

/-- A rule that grants a sensitive request has to name its workflows. -/
theorem requiresImmutableWorkflow_of_sensitive (hactions : rule.actions ≠ [])
    (hschema : schema ≠ .v1) (hsensitive : request.sensitive = true)
    (hallows : rule.allows identity request schema = true) :
    rule.requiresImmutableWorkflow = true := by
  obtain ⟨-, -, -, -, -, -, -, -, hscope⟩ := GitHubActionsPolicyRule.allows_iff.mp hallows
  obtain ⟨-, -, htarget, haction⟩ := ScopedRule.allowsScope_iff.mp hscope
  have haction := haction.resolve_left hactions
  have hany (h : (request.action ∈ exactInstanceWorkflowAuthzActions ||
      (rule.instances ≠ [] && request.action ∈ instancePinnedWorkflowAuthzActions) ||
      actionSafety request.action ∈ immutableActionSafeties) = true) :
      rule.requiresImmutableWorkflow = true :=
    Bool.or_eq_true_iff.mpr (.inl (List.any_eq_true.mpr ⟨request.action, haction, h⟩))
  simp only [AuthzRequest.sensitive, Bool.or_eq_true, Bool.and_eq_true, decide_eq_true_eq] at hsensitive
  obtain ((hexact | ⟨hpinned, hinstance⟩) | hsafety) | hprod := hsensitive
  · exact hany (by simp [hexact])
  · cases htargetOf : request.target with
    | instances names =>
        have hinstances : rule.instances ≠ [] := by
          rintro hnone
          simp [instancesAllowed, htargetOf, hnone, hschema] at htarget
        exact hany (by simp [hinstances, hpinned])
    | _ => simp [AuthorizationTarget.onInstance, htargetOf] at hinstance
  · exact hany (by simp [hsafety])
  · cases htargetOf : request.target with
    | instances names =>
        have hnamed : "prod" ∈ names := by simpa [AuthorizationTarget.names, htargetOf] using hprod
        refine Bool.or_eq_true_iff.mpr (.inr (List.any_eq_true.mpr ?_))
        unfold instancesAllowed at htarget
        rw [htargetOf] at htarget
        dsimp only at htarget
        split_ifs at htarget with hnone
        · exact absurd (of_decide_eq_true htarget) hschema
        · rcases Bool.or_eq_true_iff.mp htarget with hstar | hlisted
          · exact ⟨"*", by simp [of_decide_eq_true hstar], by decide⟩
          · exact ⟨"prod", by simpa using List.all_eq_true.mp hlisted _ hnamed, by decide⟩
    | _ => simp [AuthorizationTarget.names, htargetOf] at hprod

/-- A rule that a desired one leaves as it is but for its workflow references, of which the current
one has the given reference, lets through by that reference whom the desired rule lets through. -/
theorem allows_of_transitionBase (hcurrent : currentRule.Normal) (hdesired : desiredRule.Normal)
    (hbase : githubRuleTransitionBaseMatches currentRule desiredRule = true)
    (hjob : authzSelectorMatches identity.jobWorkflowRef currentRule.jobWorkflowRefs = true)
    (hallows : desiredRule.allows identity request schema = true) :
    currentRule.allows identity request schema = true := by
  simp only [githubRuleTransitionBaseMatches, repositoryNarrowed, Bool.and_eq_true, Bool.or_eq_true,
    decide_eq_true_eq] at hbase
  obtain ⟨⟨-, hpayload⟩, hid, howner⟩ := hbase
  unfold GitHubActionsPolicyRule.transitionSelectorPayload at hpayload
  rw [hcurrent, hdesired] at hpayload
  obtain ⟨hscopes, hrepository, -, -, hworkflow, -, hevent, href, henvironment⟩ :=
    GitHubActionsPolicyRule.mk.inj hpayload
  obtain ⟨-, -, hproducts, hcontexts, hinstances, hactions⟩ := ScopedRule.mk.inj hscopes
  obtain ⟨hrepository', hid', howner', hworkflow', -, hevent', href', henvironment', hscope⟩ :=
    GitHubActionsPolicyRule.allows_iff.mp hallows
  have hnumber {current desired own : String} (hnarrowed : current = "" ∨ current = desired)
      (hnumber : desired = "" ∨ desired = own) : current = "" ∨ current = own := by
    rcases hnarrowed with h | rfl
    · exact .inl h
    · exact hnumber
  obtain ⟨hproducts', hcontexts', htarget, haction⟩ := ScopedRule.allowsScope_iff.mp hscope
  refine GitHubActionsPolicyRule.allows_iff.mpr ⟨hrepository ▸ hrepository', hnumber hid hid',
    hnumber howner howner', hworkflow ▸ hworkflow', .inr hjob, hevent ▸ hevent', href ▸ href',
    henvironment ▸ henvironment', ScopedRule.allowsScope_iff.mpr ⟨?_, ?_, ?_, ?_⟩⟩
  · rwa [hproducts]
  · rwa [hcontexts]
  · rwa [hinstances]
  · rwa [hactions]

/-- A desired rule that passed the check grants an unpinned workflow a sensitive request only where
an active rule does. -/
theorem exists_current_of_allows {currentRules : List GitHubActionsPolicyRule}
    (hnormal : ∀ rule ∈ currentRules, rule.Normal) (hdesired : desiredRule.Normal)
    (hactions : desiredRule.actions ≠ [])
    (hvalidated : validateWorkflowTransition currentRules desiredRule = .ok ())
    (hmutable : isImmutableJobWorkflowRef (pyStrip identity.jobWorkflowRef) = false)
    (hschema : schema ≠ .v1) (hsensitive : request.sensitive = true)
    (hallows : desiredRule.allows identity request schema = true) :
    ∃ rule ∈ currentRules, rule.allows identity request schema = true := by
  have hrequires := requiresImmutableWorkflow_of_sensitive hactions hschema hsensitive hallows
  unfold validateWorkflowTransition at hvalidated
  rw [if_neg (by simp [hrequires])] at hvalidated
  cases hruleId : desiredRule.managedRuleId with
  | none => simp [hruleId] at hvalidated
  | some managedRuleId =>
      simp only [hruleId] at hvalidated
      split_ifs at hvalidated with hworkflow hnone hpinned hrefs
      obtain ⟨-, -, -, -, hjob, -⟩ := GitHubActionsPolicyRule.allows_iff.mp hallows
      obtain ⟨selector, hselector, hmatch⟩ := List.any_eq_true.mp (hjob.resolve_left hnone)
      have hcovered := List.all_eq_true.mp hrefs selector hselector
      rcases Bool.or_eq_true_iff.mp hcovered with hpinned | hpreserved
      · -- a pinned reference selects itself only
        have hplain : containsSelectorGlob selector = false := by
          simpa using (Bool.and_eq_true_iff.mp hpinned).2
        rw [(fnmatchcase_of_plain hplain).mp hmatch, hpinned] at hmutable
        cases hmutable
      · obtain ⟨-, hany⟩ := Bool.and_eq_true_iff.mp hpreserved
        obtain ⟨currentRule, hcurrent, hpreserves⟩ := List.any_eq_true.mp hany
        obtain ⟨hbase, hnamed⟩ := Bool.and_eq_true_iff.mp hpreserves
        exact ⟨currentRule, hcurrent, allows_of_transitionBase (hnormal _ hcurrent) hdesired hbase
          (List.any_eq_true.mpr ⟨selector, of_decide_eq_true hnamed, hmatch⟩) hallows⟩

end Rule

/-! ### Plans -/

section Plan

variable {R : PlanRuntime} {activeRecords : List LaunchplaneAuthzPolicyRecord}
  {request checked : ReconcileEnvelope} {authorizedPolicySha256 : String} {plan : ManagedPolicyPlan}

/-- The workflow rules of a normalised policy are in normal form. -/
theorem normal_of_checked (h : checked.Checked) :
    ∀ rule ∈ checked.desiredPolicy.githubActions, rule.Normal := by
  obtain ⟨raw, hraw⟩ := h.normalized
  intro rule hrule
  simp only [hraw, LaunchplaneAuthzPolicy.normalized, sortedByRuleId, List.mem_insertionSort,
    List.mem_map] at hrule
  obtain ⟨rule, -, rfl⟩ := hrule
  exact rule.normal_normalizeAuthzRule

/-- A workflow is allowed what a workflow rule allows it, unless the action asks for an instance. -/
theorem evaluate_githubActions {policy : LaunchplaneAuthzPolicy} {identity : GitHubActionsIdentity}
    {asked : AuthzRequest} :
    policy.evaluate (.githubActions identity) asked = .allowed ↔
      ¬(policy.schemaVersion = .v1 ∧ asked.action ∈ exactInstanceWorkflowAuthzActions) ∧
      ¬(policy.schemaVersion ≠ .v1 ∧ asked.action ∈ exclusivelyInstanceScopedAuthzActions ∧
        ¬asked.target.onInstance) ∧
      ∃ rule ∈ policy.githubActions, rule.allows identity asked policy.schemaVersion = true := by
  rw [← LaunchplaneAuthzPolicy.evaluateInheriting_false ⟨fun _ => false, fun _ => false⟩ policy
      { identity := .githubActions identity },
    LaunchplaneAuthzPolicy.evaluateInheriting_eq_allowed]
  simp [LaunchplaneAuthzPolicy.restriction, LaunchplaneAuthzPolicy.hasGrantInheriting,
    LaunchplaneAuthzPolicy.hasGrant]

/-- **A plan never opens a sensitive action to a workflow that is not pinned**: what the planned
policy lets such a workflow do, the base policy let it do already. -/
theorem allowed_of_planManagedAuthzPolicyReconcile (R : PlanRuntime)
    (activeRecords : List LaunchplaneAuthzPolicyRecord) (request checked : ReconcileEnvelope)
    (authorizedPolicySha256 : String) (plan : ManagedPolicyPlan)
    (hrecords : ∀ record ∈ activeRecords, record.Valid R.digests)
    (hrequest : request.validate = .ok checked)
    (hplan : planManagedAuthzPolicyReconcile R activeRecords checked authorizedPolicySha256 = .ok plan)
    (hnormal : ∀ rule ∈ plan.currentRecord.policy.githubActions, rule.Normal)
    (identity : GitHubActionsIdentity)
    (hmutable : isImmutableJobWorkflowRef (pyStrip identity.jobWorkflowRef) = false)
    (asked : AuthzRequest) (hsensitive : asked.sensitive = true)
    (hallowed : plan.updatedPolicy.evaluate (.githubActions identity) asked = .allowed) :
    plan.basePolicy.evaluate (.githubActions identity) asked = .allowed := by
  obtain ⟨reconciled, hby⟩ := plannedBy_of_ok hplan
  obtain ⟨-, hschema, hsame, adopted, retired, hreplaces⟩ := hby.replaces hrecords hrequest
  have hchecked := ReconcileEnvelope.checked_of_validate hrequest
  have hbase := normal_of_reconcileBase (hrecords _ hby.active).policy hby.base hnormal
  obtain ⟨hcatalog, hinstance, rule, hrule, hallows⟩ := evaluate_githubActions.mp hallowed
  rw [hsame] at hcatalog hinstance hallows
  refine evaluate_githubActions.mpr ⟨hcatalog, hinstance, ?_⟩
  rcases hreplaces.mem_or_mem (mem_githubActions.mpr hrule) with hkept | hdesired
  · exact ⟨rule, mem_githubActions.mp hkept, hallows⟩
  · obtain ⟨-, -, hactions⟩ := of_validateDesiredRule (hchecked.rules _ hdesired)
    have hdesired := mem_githubActions.mp hdesired
    exact exists_current_of_allows hbase (normal_of_checked hchecked rule hdesired)
      (by simpa [AuthzPolicyRule.lacksActions] using hactions) (hby.transition rule hdesired)
      hmutable hschema hsensitive hallows

/-- The site's workflow, which runs the other one from its branch. -/
def siteWorkflow : GitHubActionsIdentity :=
  { repository := "acme/site"
    repositoryId := "11"
    repositoryOwnerId := "7"
    workflowRef := "acme/site/.github/workflows/ci.yml@refs/heads/main"
    jobWorkflowRef := branchWorkflow
    eventName := "push"
    ref := "refs/heads/main"
    environment := "" }

/-- The site's workflow reads a secret. -/
def secretRead : AuthzRequest := { action := "secret.read", product := "shop", context := "shop" }

theorem allowed_of_sitePlan : ∃ plan,
    planManagedAuthzPolicyReconcile siteRuntime [siteRecord 1 sitePolicy] siteRequest "" = .ok plan ∧
    plan.updatedPolicy.evaluate (.githubActions siteWorkflow) secretRead = .allowed ∧
    plan.basePolicy.evaluate (.githubActions siteWorkflow) secretRead = .allowed := by
  have hrun : (planManagedAuthzPolicyReconcile siteRuntime [siteRecord 1 sitePolicy] siteRequest
      "").map (fun plan =>
        (plan.updatedPolicy.evaluate (.githubActions siteWorkflow) secretRead,
          decide (∀ rule ∈ plan.currentRecord.policy.githubActions,
            rule.normalizeAuthzRule = rule))) = .ok (.allowed, true) := by decide +kernel
  obtain ⟨plan, hplan, hshape⟩ := map_eq_ok.mp hrun
  obtain ⟨hallowed, hnormal⟩ := Prod.mk.inj hshape
  have hnormal := of_decide_eq_true hnormal
  exact ⟨plan, hplan, hallowed, allowed_of_planManagedAuthzPolicyReconcile siteRuntime
    [siteRecord 1 sitePolicy] siteRequest siteRequest "" plan valid_siteRecord validate_siteRequest
    hplan hnormal siteWorkflow (by decide +kernel) secretRead (by decide +kernel)
    hallowed⟩

end Plan

end Launchplane.Authz
