import Launchplane.Authz.Plan

/-!
# Launchplane.Authz.Replan

**Planning a set again changes nothing.** Over the planned policy every desired
rule is there already, under its own id and in its own collection. Nothing is left
to adopt, and a workflow reference that was preserved is preserved by the rule
itself.
-/

namespace Launchplane.Authz

section

variable {ruleSha256 : AuthzPolicyRule → String} {policy desiredPolicy : LaunchplaneAuthzPolicy}
  {managedSetId : String}

/-- A policy has the rules of a desired set, and no others of the set. -/
structure HasSet (policy desiredPolicy : LaunchplaneAuthzPolicy) (managedSetId : String) : Prop where
  ids : policy.managedIdentities.Nodup
  desired : DesiredFor managedSetId desiredPolicy
  rules : ∀ rule, rule ∈ policy.rules ∧ rule.managedSetId = some managedSetId ↔
    rule ∈ desiredPolicy.rules

theorem hasSet_of_replaces {currentPolicy : LaunchplaneAuthzPolicy}
    {unmanagedAdoption : UnmanagedAdoptionMode} {adopted retired : Adoptions}
    (h : Replaces currentPolicy desiredPolicy managedSetId unmanagedAdoption policy adopted retired)
    (hids : policy.managedIdentities.Nodup) (hdesired : DesiredFor managedSetId desiredPolicy) :
    HasSet policy desiredPolicy managedSetId where
  ids := hids
  desired := hdesired
  rules rule := by
    have hmem := (h.managed rule.collectionType).mem_iff (a := rule)
    simpa [LaunchplaneAuthzPolicy.mem_rules, List.mem_filter, AuthzPolicyRule.inSet] using hmem

namespace HasSet

variable (h : HasSet policy desiredPolicy managedSetId)

include h

/-- The policy and the desired one have the same rule under every id. -/
theorem get_eq (managedRuleId : String) :
    (policy.managedRulesById managedSetId).get managedRuleId =
      (desiredPolicy.managedRulesById managedSetId).get managedRuleId := by
  refine Option.ext fun rule => ?_
  rw [LaunchplaneAuthzPolicy.get_managedRulesById h.ids, h.desired.get_iff, ← and_assoc, h.rules]

theorem mem_keys {managedRuleId : String} :
    managedRuleId ∈ (policy.managedRulesById managedSetId).keys ↔
      managedRuleId ∈ (desiredPolicy.managedRulesById managedSetId).keys := by
  rw [← Dict.isSome_get, h.get_eq, Dict.isSome_get]

/-- There is nothing to adopt. -/
theorem adoptRules_eq (entries : List ManagedEntry)
    (hentries : ∀ entry ∈ entries, entry ∈ desiredPolicy.managedRulesById managedSetId) :
    adoptRules policy (policy.managedRulesById managedSetId) .reject [] entries = .ok [] := by
  induction entries with
  | nil => rfl
  | cons entry entries ih =>
      have hknown : entry.1 ∈ (policy.managedRulesById managedSetId).keys :=
        h.mem_keys.mpr (Dict.mem_keys_of_mem (hentries entry List.mem_cons_self))
      have hfirst : adoptRule policy (policy.managedRulesById managedSetId) .reject [] entry =
          .ok [] := if_pos hknown
      rw [adoptRules, hfirst]
      exact ih fun entry hentry => hentries entry (List.mem_cons_of_mem _ hentry)

/-- Every rule stays in its place. -/
theorem placeRule_eq {item : LocatedRule} (hitem : item ∈ policy.located) :
    placeRule ruleSha256 managedSetId (desiredPolicy.managedRulesById managedSetId) [] [] item =
      .ok { rule := some item.2
            managedRuleId := if item.2.managedSetId = some managedSetId then item.2.managedRuleId
              else none } := by
  by_cases hset : item.2.managedSetId = some managedSetId
  · have hdesired := (h.rules item.2).mp ⟨LaunchplaneAuthzPolicy.mem_rules_of_located hitem, hset⟩
    obtain ⟨-, managedRuleId, hid⟩ := h.desired.managed _ hdesired
    have hget := h.desired.get_iff.mpr ⟨hdesired, hid⟩
    simp only [placeRule, hset, if_true, hid, hget,
      LaunchplaneAuthzPolicy.collectionType_of_mem_located hitem]
  · simp only [placeRule, hset, if_false, Dict.get_nil]

/-- Every desired rule has a place. -/
theorem unplaced_eq_nil :
    (sortedItems (desiredPolicy.managedRulesById managedSetId)).filter (·.1 ∉
      policy.located.filterMap fun item =>
        if item.2.managedSetId = some managedSetId then item.2.managedRuleId else none) = [] := by
  refine List.filter_eq_nil_iff.mpr fun entry hentry => ?_
  obtain ⟨hdesired, hid⟩ := h.desired.of_mem_sortedItems hentry
  obtain ⟨hrule, hset⟩ := (h.rules entry.2).mpr hdesired
  rw [← LaunchplaneAuthzPolicy.map_snd_located] at hrule
  obtain ⟨item, hitem, hsame⟩ := List.mem_map.mp hrule
  simp only [decide_eq_true_eq, not_not, List.mem_filterMap]
  exact ⟨item, hitem, by rw [hsame, if_pos hset, hid]⟩

theorem changeOf_eq_none (managedRuleId : String) :
    changeOf ruleSha256 (policy.managedRulesById managedSetId)
      (desiredPolicy.managedRulesById managedSetId) [] managedRuleId = none := by
  unfold changeOf
  rw [h.get_eq]
  cases (desiredPolicy.managedRulesById managedSetId).get managedRuleId with
  | none => rfl
  | some rule => simp

theorem length_managedRuleIds :
    (managedRuleIds (policy.managedRulesById managedSetId)
      (desiredPolicy.managedRulesById managedSetId)).length = desiredPolicy.rules.length := by
  have hkeys : (desiredPolicy.managedRulesById managedSetId).keys.Nodup :=
    LaunchplaneAuthzPolicy.nodup_keys_managedRulesById managedSetId
  have hids : (managedRuleIds (policy.managedRulesById managedSetId)
      (desiredPolicy.managedRulesById managedSetId)).Perm
      (desiredPolicy.managedRulesById managedSetId).keys := by
    refine (List.perm_insertionSort _ _).trans
      ((List.perm_ext_iff_of_nodup (List.nodup_dedup _) hkeys).mpr fun managedRuleId => ?_)
    rw [List.mem_dedup, List.mem_append, h.mem_keys, or_self]
  have hentry : ∀ entry ∈ desiredPolicy.managedRulesById managedSetId,
      entry.2 ∈ desiredPolicy.rules ∧ entry.2.managedRuleId = some entry.1 := fun entry hentry =>
    h.desired.get_iff.mp (Dict.get_of_mem hkeys hentry)
  have hrules : ((desiredPolicy.managedRulesById managedSetId).map Prod.snd).Perm
      desiredPolicy.rules := by
    have hnodup : (((desiredPolicy.managedRulesById managedSetId).map Prod.snd).map
        (·.managedRuleId)).Nodup := by
      have hsame : ((desiredPolicy.managedRulesById managedSetId).map Prod.snd).map
          (·.managedRuleId) = (desiredPolicy.managedRulesById managedSetId).keys.map some := by
        rw [Dict.keys, List.map_map, List.map_map]
        exact List.map_congr_left fun entry hmem => (hentry entry hmem).2
      rw [hsame]
      exact List.Nodup.map (Option.some_injective _) hkeys
    refine (List.perm_ext_iff_of_nodup hnodup.of_map h.desired.nodup).mpr fun rule => ?_
    rw [List.mem_map]
    constructor
    · rintro ⟨entry, hmem, rfl⟩
      exact (hentry entry hmem).1
    · intro hrule
      obtain ⟨-, managedRuleId, hid⟩ := h.desired.managed rule hrule
      exact ⟨(managedRuleId, rule), Dict.mem_of_get (h.desired.get_iff.mpr ⟨hrule, hid⟩), rfl⟩
  rw [hids.length_eq, ← hrules.length_eq, Dict.keys, List.length_map, List.length_map]

/-- Reconciling the set again leaves the policy as it is. -/
theorem reconcile_eq (ruleSha256 : AuthzPolicyRule → String)
    (hcheck : { policy with administratorQuorum := none }.check = .ok ()) :
    reconcileManagedPolicy ruleSha256 policy desiredPolicy managedSetId .reject =
      .ok { policy := { policy with administratorQuorum := none }
            changes := []
            unchangedRuleCount := desiredPolicy.rules.length
            candidateCount := (retirementCandidates (policy.managedRulesById managedSetId)
              (retirementMatches policy (desiredPolicy.managedRulesById managedSetId))).length
            retirements := [] } := by
  have hadopt := h.adoptRules_eq (sortedItems (desiredPolicy.managedRulesById managedSetId))
    fun entry hentry => mem_sortedItems.mp hentry
  have hplace : policy.located.mapM (placeRule ruleSha256 managedSetId
      (desiredPolicy.managedRulesById managedSetId) [] []) =
      .ok (policy.located.map fun item =>
        { rule := some item.2
          managedRuleId := if item.2.managedSetId = some managedSetId then item.2.managedRuleId
            else none }) :=
    mapM_eq_map fun item hitem => h.placeRule_eq hitem
  have hrules : LaunchplaneAuthzPolicy.ofRules policy.schemaVersion
      ((policy.located.map fun item =>
        ({ rule := some item.2
           managedRuleId := if item.2.managedSetId = some managedSetId then item.2.managedRuleId
             else none } : Placed)).filterMap (·.rule) ++
        ((sortedItems (desiredPolicy.managedRulesById managedSetId)).filter (·.1 ∉
          (policy.located.map fun item =>
            ({ rule := some item.2
               managedRuleId := if item.2.managedSetId = some managedSetId then
                 item.2.managedRuleId else none } : Placed)).filterMap (·.managedRuleId))).map
          Prod.snd) = { policy with administratorQuorum := none } := by
    rw [List.filterMap_map, List.filterMap_map]
    simp only [Function.comp_def]
    rw [h.unplaced_eq_nil, List.map_nil, List.append_nil, ← LaunchplaneAuthzPolicy.ofRules_rules,
      ← LaunchplaneAuthzPolicy.map_snd_located, ← List.filterMap_eq_map]
    rfl
  unfold reconcileManagedPolicy
  refine bind_eq_ok.mpr ⟨_, hadopt, bind_eq_ok.mpr ⟨[], rfl, bind_eq_ok.mpr ⟨_, hplace, ?_⟩⟩⟩
  refine bind_eq_ok.mpr ⟨(), hrules ▸ hcheck, ?_⟩
  simp only [hrules]
  simp only [pure, Except.pure, Except.ok.injEq, ReconciledPolicy.mk.injEq, true_and]
  refine ⟨?_, ?_, ?_⟩
  · exact List.filterMap_eq_nil_iff.mpr fun id _ => h.changeOf_eq_none id
  · rw [← h.length_managedRuleIds]
    exact List.countP_eq_length.mpr fun id _ => by simp [h.changeOf_eq_none id]
  · simp [List.filterMap_map]

end HasSet

end

/-! ### Plans -/

/-- The request without what it asks of a policy that is not there yet. -/
def ReconcileEnvelope.again (request : ReconcileEnvelope) : ReconcileEnvelope :=
  { request with
    mode := .dryRun, schemaMigration := .reject, unmanagedAdoption := .reject
    administratorQuorumChange := none, soloAdministrationConfirmationId := ""
    reviewedPlanSha256 := "" }

section

variable {R : PlanRuntime} {activeRecords : List LaunchplaneAuthzPolicyRecord}
  {request checked : ReconcileEnvelope} {plan : ManagedPolicyPlan} {reconciled : ReconciledPolicy}

/-- A rule keeps the workflow references that it names itself. -/
theorem preservesExistingMutableRef_self {rule : GitHubActionsPolicyRule} {jobWorkflowRef : String}
    (h : jobWorkflowRef ∈ rule.jobWorkflowRefs) :
    preservesExistingMutableRef rule rule jobWorkflowRef = true := by
  simp [preservesExistingMutableRef, githubRuleTransitionBaseMatches, repositoryNarrowed, h]

/-- A desired rule that was accepted is accepted again where it is in force itself. -/
theorem validateWorkflowTransition_again {currentRules updatedRules : List GitHubActionsPolicyRule}
    {rule : GitHubActionsPolicyRule} (hrule : rule ∈ updatedRules)
    (h : validateWorkflowTransition currentRules rule = .ok ()) :
    validateWorkflowTransition updatedRules rule = .ok () := by
  unfold validateWorkflowTransition at h ⊢
  by_cases hrequires : rule.requiresImmutableWorkflow = false
  · rw [if_pos hrequires]
  · rw [if_neg hrequires] at h ⊢
    cases hid : rule.managedRuleId with
    | none => simp [hid] at h
    | some managedRuleId =>
        simp only [hid] at h ⊢
        split_ifs at h with hworkflow hnone hpinned hrefs
        rw [if_neg hworkflow, if_neg hnone, if_neg (not_not.mpr hpinned), if_pos]
        refine List.all_eq_true.mpr fun jobWorkflowRef hnamed => ?_
        rcases Bool.or_eq_true_iff.mp (List.all_eq_true.mp hrefs _ hnamed) with h | h
        · simp [h]
        · have hplain := (Bool.and_eq_true_iff.mp h).1
          simp only [Bool.or_eq_true, Bool.and_eq_true, List.any_eq_true]
          exact .inr ⟨hplain, rule, hrule, preservesExistingMutableRef_self hnamed⟩

/-- The planned policy is the base of the same request. -/
theorem reconcileBase_again (hplan : PlannedBy R activeRecords checked plan reconciled)
    (hsame : plan.updatedPolicy.schemaVersion = plan.basePolicy.schemaVersion) :
    reconcileBase R plan.updatedPolicy checked.again = .ok plan.updatedPolicy := by
  have hbase := hplan.base
  unfold reconcileBase resolveManagedAuthzReconcileBase at hbase ⊢
  rw [hsame]
  by_cases hdown : plan.currentRecord.policy.schemaVersion = .v3 ∧
      checked.desiredPolicy.schemaVersion = .v2
  · rw [if_pos hdown] at hbase
    split_ifs at hbase with hempty
    obtain ⟨-, hempty⟩ := hempty
    simp only [Bool.and_eq_true, decide_eq_true_eq] at hempty
    rw [← Except.ok.inj hbase]
    simp [hdown.1, hdown.2, ReconcileEnvelope.again, hempty.2]
  · rw [if_neg hdown] at hbase
    split at hbase
    next hschema _ hdesired =>
      rw [LaunchplaneAuthzPolicy.migrateToSchemaV2, if_neg (by simp [hschema])] at hbase
      obtain ⟨⟨⟩, -, hbase⟩ := bind_eq_ok.mp hbase
      rw [← Except.ok.inj hbase]
      simp [ReconcileEnvelope.again, hdesired, LaunchplaneAuthzPolicy.migrated]
    next hschema _ hdesired =>
      rw [← Except.ok.inj hbase]
      simp [ReconcileEnvelope.again, hschema, hdesired]
    next hschema _ hdesired =>
      have hv3 : plan.basePolicy.schemaVersion = .v3 := by
        unfold LaunchplaneAuthzPolicy.validate at hbase
        obtain ⟨_, -, hbase⟩ := bind_eq_ok.mp hbase
        obtain ⟨_, -, hbase⟩ := bind_eq_ok.mp hbase
        obtain ⟨_, -, hbase⟩ := bind_eq_ok.mp hbase
        obtain ⟨_, -, hbase⟩ := bind_eq_ok.mp hbase
        obtain ⟨_, -, hbase⟩ := bind_eq_ok.mp hbase
        obtain ⟨_, -, hbase⟩ := bind_eq_ok.mp hbase
        obtain ⟨⟨⟩, -, hbase⟩ := bind_eq_ok.mp hbase
        rw [← Except.ok.inj hbase]
      simp [ReconcileEnvelope.again, hv3, hdesired]
    next hschema _ hdesired =>
      rw [← Except.ok.inj hbase]
      simp [ReconcileEnvelope.again, hschema, hdesired]
    next => cases hbase

/-- **Planning a set again changes nothing.** Over any record of the planned policy the same
request, without migration, adoption and change of the quorum, plans that policy again, with no
change, no retirement and every rule of the set unchanged. -/
theorem replan_of_planManagedAuthzPolicyReconcile (R : PlanRuntime)
    (activeRecords : List LaunchplaneAuthzPolicyRecord) (request checked : ReconcileEnvelope)
    (authorizedPolicySha256 : String) (plan : ManagedPolicyPlan)
    (hrecords : ∀ record ∈ activeRecords, record.Valid R.digests)
    (hrequest : request.validate = .ok checked)
    (hplan : planManagedAuthzPolicyReconcile R activeRecords checked authorizedPolicySha256 = .ok plan)
    (record : LaunchplaneAuthzPolicyRecord) (hpolicy : record.policy = plan.updatedPolicy)
    (hsha : record.policySha256 = R.digests.policySha256 record.policy) :
    ∃ again, planManagedAuthzPolicyReconcile R [record] checked.again "" = .ok again ∧
      again.updatedPolicy = plan.updatedPolicy ∧ again.diff.changed = false ∧
      again.diff.candidateRevision = record.revision ∧ again.diff.changes = [] ∧
      again.diff.retirements = [] ∧
      again.diff.unchangedRuleCount = checked.desiredPolicy.rules.length := by
  obtain ⟨reconciled, hby⟩ := plannedBy_of_ok hplan
  obtain ⟨-, -, hsame, adopted, retired, hreplaces⟩ := hby.replaces hrecords hrequest
  obtain ⟨_, _, place, hsteps⟩ := reconciledBy_of_ok hby.steps
  have hnone : { plan.updatedPolicy with administratorQuorum := none } = reconciled.policy := by
    rw [hby.updated, hsteps.policy]
    rfl
  have hids : plan.updatedPolicy.managedIdentities.Nodup := by
    have := LaunchplaneAuthzPolicy.nodup_of_check hsteps.check
    rwa [← hnone] at this
  have hset := hasSet_of_replaces hreplaces hids (desiredFor_of_validate hrequest)
  have hreconcile := hset.reconcile_eq R.ruleSha256 (hnone ▸ hsteps.check)
  have htransition : validateGithubManagedWorkflowTransition plan.updatedPolicy.githubActions
      checked.again.desiredPolicy.githubActions = .ok () := by
    refine forM_eq_ok fun rule hrule => ?_
    have hdesired : rule ∈ checked.desiredPolicy.githubActions := hrule
    have hupdated := ((hset.rules _).mpr (mem_githubActions.mpr hdesired)).1
    exact validateWorkflowTransition_again (mem_githubActions.mp hupdated)
      (hby.transition rule hdesired)
  have hquorum : (none : Option Nat).or plan.updatedPolicy.administratorQuorum =
      plan.updatedPolicy.administratorQuorum := rfl
  have hcurrent : currentRecordOf [record] "" = .ok record := rfl
  unfold planManagedAuthzPolicyReconcile
  refine ⟨_, bind_eq_ok.mpr ⟨record, hcurrent, bind_eq_ok.mpr ⟨plan.updatedPolicy, ?_,
    bind_eq_ok.mpr ⟨(), htransition, bind_eq_ok.mpr ⟨_, hreconcile, bind_eq_ok.mpr ⟨(), ?_, rfl⟩⟩⟩⟩⟩,
    ?_⟩
  · rw [hpolicy]
    exact reconcileBase_again hby hsame
  · exact raiseIf_eq_ok.mpr fun h => by cases h.1
  · simp [managedPolicyDiff, ReconcileEnvelope.again, hpolicy, hsha]

theorem replan_of_sitePlan : ∃ plan again,
    planManagedAuthzPolicyReconcile siteRuntime [siteRecord 1 sitePolicy] siteRequest "" = .ok plan ∧
    planManagedAuthzPolicyReconcile siteRuntime [siteRecord 2 plan.updatedPolicy] siteRequest.again ""
      = .ok again ∧ plan.diff.changed = true ∧ again.diff.changed = false ∧
    again.diff.unchangedRuleCount = 2 := by
  have hrun : (planManagedAuthzPolicyReconcile siteRuntime [siteRecord 1 sitePolicy] siteRequest
      "").map (·.diff.changed) = .ok true := by decide +kernel
  obtain ⟨plan, hplan, hchanged⟩ := map_eq_ok.mp hrun
  obtain ⟨again, hagain, -, hunchanged, -, -, -, hcount⟩ :=
    replan_of_planManagedAuthzPolicyReconcile siteRuntime [siteRecord 1 sitePolicy] siteRequest
      siteRequest "" plan valid_siteRecord validate_siteRequest hplan
      (siteRecord 2 plan.updatedPolicy) rfl rfl
  exact ⟨plan, again, hplan, hagain, hchanged, hunchanged, hcount.trans (by decide)⟩

end

end Launchplane.Authz
