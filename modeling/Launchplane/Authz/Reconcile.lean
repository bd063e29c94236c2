import Launchplane.Authz.ManagedRules

/-!
# Launchplane.Authz.Reconcile

**Reconciling a managed set.** The rules of the set are replaced by the desired
ones. A desired rule that is new to the policy may adopt the one unmanaged rule
it matches, and an unmanaged rule that a managed one makes superfluous may be
retired. The other rules stay where they are.
-/

namespace Launchplane.Authz

/-! ### Which rule matches which -/

/-- `_github_rule_matches_with_identity_narrowing`. -/
def matchesWithIdentityNarrowing (currentRule desiredRule : GitHubActionsPolicyRule) : Bool :=
  ({ currentRule.normalizeAuthzRule with
      managedSetId := none, managedRuleId := none, repositoryId := "", repositoryOwnerId := "" } :
    GitHubActionsPolicyRule) =
  { desiredRule.normalizeAuthzRule with
      managedSetId := none, managedRuleId := none, repositoryId := "", repositoryOwnerId := "" } &&
    repositoryNarrowed currentRule desiredRule

/-- `_managed_rule_adoption_matches`. -/
def managedRuleAdoptionMatches (currentRule desiredRule : AuthzPolicyRule) : Bool :=
  match currentRule, desiredRule with
  | .ordinaryAgent _, _ | _, .ordinaryAgent _ => false
  | .githubActions current, .githubActions desired =>
      current.managedSetId = none &&
        (currentRule.withoutManagedIdentity.normalizeAuthzRule =
            desiredRule.withoutManagedIdentity.normalizeAuthzRule ||
          matchesWithIdentityNarrowing current desired ||
          (githubRuleTransitionBaseMatches current desired &&
            current.jobWorkflowRefs.all (· ∈ desired.jobWorkflowRefs)))
  | _, _ =>
      currentRule.managedSetId = none &&
        currentRule.withoutManagedIdentity.normalizeAuthzRule =
          desiredRule.withoutManagedIdentity.normalizeAuthzRule

/-- `_glob_selectors_cover`. -/
def globSelectorsCover (compatibilityValues managedValues : List String) : Bool :=
  if compatibilityValues = [] ∨ "*" ∈ compatibilityValues then true
  else if managedValues = [] then false
  else managedValues.all fun managedValue =>
    if containsSelectorGlob managedValue then managedValue ∈ compatibilityValues
    else compatibilityValues.any (fnmatchcase managedValue)

/-- `_exact_selectors_cover`. -/
def exactSelectorsCover (compatibilityValues managedValues : List String) : Bool :=
  if compatibilityValues = [] then true
  else if managedValues = [] then false
  else managedValues.all (· ∈ compatibilityValues)

/-- `_instance_selectors_cover`. -/
def instanceSelectorsCover (compatibilityValues managedValues : List String) : Bool :=
  if compatibilityValues = [] ∨ managedValues = [] then compatibilityValues = managedValues
  else if compatibilityValues = ["*"] then true
  else if managedValues = ["*"] then false
  else managedValues.all (· ∈ compatibilityValues)

/-- `_managed_github_compatibility_retirement_matches`. -/
def compatibilityRetirementMatches (currentRule desiredRule : GitHubActionsPolicyRule) : Bool :=
  let current := currentRule.normalizeAuthzRule
  let desired := desiredRule.normalizeAuthzRule
  (currentRule.managedSetId = none && currentRule.managedRuleId = none &&
      currentRule.repositoryId = "" && currentRule.repositoryOwnerId = "") &&
    current.repository = desired.repository && current.actions ≠ [] &&
    current.actions = desired.actions &&
    globSelectorsCover current.workflowRefs desired.workflowRefs &&
    globSelectorsCover current.jobWorkflowRefs desired.jobWorkflowRefs &&
    exactSelectorsCover current.eventNames desired.eventNames &&
    exactSelectorsCover current.refs desired.refs &&
    exactSelectorsCover current.environments desired.environments &&
    globSelectorsCover current.products desired.products &&
    globSelectorsCover current.contexts desired.contexts &&
    instanceSelectorsCover current.instances desired.instances

/-! ### Where a rule stands -/

/-- `AuthzRuleLocation`. -/
structure RuleLocation where
  collectionType : CollectionType
  index : Nat
  deriving Repr, DecidableEq

/-- A rule under its managed id. -/
abbrev ManagedEntry : Type := String × AuthzPolicyRule

/-- A rule where it stands. -/
abbrev LocatedRule : Type := RuleLocation × AuthzPolicyRule

/-- The managed id of a rule of the set. -/
def managedEntry (managedSetId : String) (rule : AuthzPolicyRule) : Option ManagedEntry :=
  if rule.managedSetId = some managedSetId then rule.managedRuleId.map (·, rule) else none

namespace LaunchplaneAuthzPolicy

/-- The rules with their locations, collection by collection. -/
def located (policy : LaunchplaneAuthzPolicy) : List LocatedRule :=
  collectionTypes.flatMap fun type =>
    (policy.collection type).zipIdx.map fun item => (⟨type, item.2⟩, item.1)

/-- `_managed_rules_by_id`. -/
def managedRulesById (policy : LaunchplaneAuthzPolicy) (managedSetId : String) :
    Dict String AuthzPolicyRule :=
  Dict.update [] (policy.rules.filterMap (managedEntry managedSetId))

end LaunchplaneAuthzPolicy

/-- The items of a map in the order of their keys. -/
def sortedItems (rules : Dict String AuthzPolicyRule) : List ManagedEntry :=
  rules.insertionSort fun a b => a.1 ≤ b.1

/-! ### Adoption -/

/-- The unmanaged rules that a desired rule matches. -/
def adoptionCandidates (currentPolicy : LaunchplaneAuthzPolicy) (desiredRule : AuthzPolicyRule) :
    List RuleLocation :=
  (currentPolicy.located.filter fun item =>
    item.2.managedSetId = none && managedRuleAdoptionMatches item.2 desiredRule).map Prod.fst

/-- Whether the desired rule leaves out a workflow reference that an unmanaged rule names, which it
otherwise matches. -/
def narrowsActiveReferences (currentPolicy : LaunchplaneAuthzPolicy) : AuthzPolicyRule → Bool
  | .githubActions desiredRule =>
      currentPolicy.githubActions.any fun currentRule =>
        currentRule.managedSetId = none &&
          githubRuleTransitionBaseMatches currentRule desiredRule &&
          currentRule.jobWorkflowRefs.any (· ∉ desiredRule.jobWorkflowRefs)
  | _ => false

/-- The adopted rules by their location, each with the desired rule that takes its place. -/
abbrev Adoptions : Type := Dict RuleLocation ManagedEntry

/-- One turn of the adoption loop. -/
def adoptRule (currentPolicy : LaunchplaneAuthzPolicy) (current : Dict String AuthzPolicyRule)
    (unmanagedAdoption : UnmanagedAdoptionMode) (adopted : Adoptions) (desired : ManagedEntry) :
    Except String Adoptions :=
  if desired.1 ∈ current.keys then .ok adopted
  else match adoptionCandidates currentPolicy desired.2 with
    | [] =>
        if narrowsActiveReferences currentPolicy desired.2 then
          .error ("Managed authz policy must include the active reusable workflow refs in the " ++
            "reviewed overlap plan before narrowing the same managed rule.")
        else .ok adopted
    | [candidate] =>
        if unmanagedAdoption ≠ .adoptMatching then
          .error ("Managed authz policy would adopt an unmanaged rule; repeat the reviewed plan " ++
            "with unmanaged_adoption='adopt_matching'.")
        else if candidate.collectionType ≠ desired.2.collectionType ∨ candidate ∈ adopted.keys then
          .error "Managed authz policy adoption is ambiguous across desired managed identities."
        else .ok (adopted.set candidate desired)
    | _ =>
        .error ("Managed authz policy adoption is ambiguous because multiple unmanaged rules " ++
          "match '" ++ desired.1 ++ "'.")

/-- The adoption loop, over the desired rules in the order of their ids. -/
def adoptRules (currentPolicy : LaunchplaneAuthzPolicy) (current : Dict String AuthzPolicyRule)
    (unmanagedAdoption : UnmanagedAdoptionMode) :
    Adoptions → List ManagedEntry → Except String Adoptions
  | adopted, [] => .ok adopted
  | adopted, desired :: rest => do
      let adopted ← adoptRule currentPolicy current unmanagedAdoption adopted desired
      adoptRules currentPolicy current unmanagedAdoption adopted rest

/-! ### Retirement -/

/-- The desired rules that an unmanaged workflow rule is superfluous beside. -/
def retirementMatchesOf (desired : Dict String AuthzPolicyRule) : AuthzPolicyRule → List ManagedEntry
  | .githubActions currentRule =>
      if currentRule.managedSetId ≠ none then []
      else (sortedItems desired).filter fun entry =>
        match entry.2 with
        | .githubActions desiredRule => compatibilityRetirementMatches currentRule desiredRule
        | _ => false
  | _ => []

/-- `retirement_matches_by_location`. -/
def retirementMatches (currentPolicy : LaunchplaneAuthzPolicy)
    (desired : Dict String AuthzPolicyRule) : List (RuleLocation × List ManagedEntry) :=
  (currentPolicy.located.map fun item => (item.1, retirementMatchesOf desired item.2)).filter
    (·.2 ≠ [])

/-- `retirement_locations_by_managed_rule_id[managed_rule_id]`. -/
def retirementLocations (found : List (RuleLocation × List ManagedEntry)) (managedRuleId : String) :
    List RuleLocation :=
  (found.filter fun item => item.2.any (·.1 = managedRuleId)).map Prod.fst

/-- `retirement_candidates`: the one rule that a managed rule makes superfluous which the policy
has already as it is desired. -/
def retirementCandidates (current : Dict String AuthzPolicyRule)
    (found : List (RuleLocation × List ManagedEntry)) : Adoptions :=
  found.filterMap fun item =>
    match item.2 with
    | [entry] =>
        if (retirementLocations found entry.1).length = 1 ∧ current.get entry.1 = some entry.2 then
          some (item.1, entry)
        else none
    | _ => none

/-- Which of the candidates are retired: all, or none. -/
def retireRules (unmanagedAdoption : UnmanagedAdoptionMode) (adopted : Adoptions)
    (found : List (RuleLocation × List ManagedEntry)) (candidates : Adoptions) :
    Except String Adoptions :=
  if unmanagedAdoption ≠ .adoptMatching then .ok []
  else if found.any (fun item => 1 < item.2.length ||
      item.2.any fun entry => 1 < (retirementLocations found entry.1).length) then
    .error ("Managed authz compatibility retirement is ambiguous; each unmanaged rule and " ++
      "managed identity must have exactly one safe match.")
  else if candidates.any (·.1 ∈ adopted.keys) then
    .error "Managed authz compatibility retirement conflicts with unmanaged adoption."
  else .ok candidates

/-! ### The reconciled policy -/

/-- `AuthzManagedCompatibilityRetirement`. -/
structure CompatibilityRetirement where
  managedRuleId : String
  retiredRuleSha256 : String
  retainedManagedRuleSha256 : String
  deriving Repr, DecidableEq

/-- What stands in the place of a rule of the policy afterwards. -/
structure Placed where
  rule : Option AuthzPolicyRule := none
  managedRuleId : Option String := none
  retirement : Option CompatibilityRetirement := none
  deriving Repr, DecidableEq

variable (ruleSha256 : AuthzPolicyRule → String)

/-- One turn of the loop over the rules of the policy. -/
def placeRule (managedSetId : String) (desired : Dict String AuthzPolicyRule)
    (adopted retired : Adoptions) (item : LocatedRule) : Except String Placed :=
  if item.2.managedSetId = some managedSetId then
    match item.2.managedRuleId with
    | none =>
        .error "Managed authz policy contains a managed rule without managed_rule_id."
    | some managedRuleId =>
        match desired.get managedRuleId with
        | some rule =>
            if rule.collectionType = item.1.collectionType then
              .ok { rule := some rule, managedRuleId := some managedRuleId }
            else .ok {}
        | none => .ok {}
  else match adopted.get item.1 with
    | some entry => .ok { rule := some entry.2, managedRuleId := some entry.1 }
    | none =>
        match retired.get item.1 with
        | some entry => .ok { retirement := some ⟨entry.1, ruleSha256 item.2, ruleSha256 entry.2⟩ }
        | none => .ok { rule := some item.2 }

/-- `AuthzManagedRuleChangeKind`. -/
inductive ChangeKind
  | added | adopted | updated | removed
  deriving Repr, DecidableEq

/-- `AuthzManagedRuleChange`. -/
structure ManagedRuleChange where
  managedRuleId : String
  change : ChangeKind
  previousPrincipalType : Option CollectionType := none
  desiredPrincipalType : Option CollectionType := none
  previousRuleSha256 : String := ""
  desiredRuleSha256 : String := ""
  deriving Repr, DecidableEq

/-- The change of one managed id, where there is any. -/
def changeOf (current desired : Dict String AuthzPolicyRule) (adopted : Adoptions)
    (managedRuleId : String) : Option ManagedRuleChange :=
  match current.get managedRuleId, desired.get managedRuleId with
  | none, none => none
  | none, some rule => some
      { managedRuleId
        change := if adopted.any (·.2.1 = managedRuleId) then .adopted else .added
        desiredPrincipalType := some rule.collectionType
        desiredRuleSha256 := ruleSha256 rule }
  | some rule, none => some
      { managedRuleId, change := .removed
        previousPrincipalType := some rule.collectionType
        previousRuleSha256 := ruleSha256 rule }
  | some previous, some rule =>
      if previous = rule then none
      else some
        { managedRuleId, change := .updated
          previousPrincipalType := some previous.collectionType
          desiredPrincipalType := some rule.collectionType
          previousRuleSha256 := ruleSha256 previous
          desiredRuleSha256 := ruleSha256 rule }

/-- The managed ids of both policies, in order. -/
def managedRuleIds (current desired : Dict String AuthzPolicyRule) : List String :=
  (current.keys ++ desired.keys).dedup.insertionSort (· ≤ ·)

/-- What `_reconcile_managed_policy` returns. -/
structure ReconciledPolicy where
  policy : LaunchplaneAuthzPolicy
  changes : List ManagedRuleChange
  unchangedRuleCount : Nat
  candidateCount : Nat
  retirements : List CompatibilityRetirement
  deriving Repr, DecidableEq

/-- `_reconcile_managed_policy`. -/
def reconcileManagedPolicy (currentPolicy desiredPolicy : LaunchplaneAuthzPolicy)
    (managedSetId : String) (unmanagedAdoption : UnmanagedAdoptionMode) :
    Except String ReconciledPolicy := do
  let current := currentPolicy.managedRulesById managedSetId
  let desired := desiredPolicy.managedRulesById managedSetId
  let adopted ← adoptRules currentPolicy current unmanagedAdoption [] (sortedItems desired)
  let found := retirementMatches currentPolicy desired
  let candidates := retirementCandidates current found
  let retired ← retireRules unmanagedAdoption adopted found candidates
  let placed ← currentPolicy.located.mapM
    (placeRule ruleSha256 managedSetId desired adopted retired)
  let placedDesiredRuleIds := placed.filterMap (·.managedRuleId)
  let unplaced := (sortedItems desired).filter (·.1 ∉ placedDesiredRuleIds)
  let policy := LaunchplaneAuthzPolicy.ofRules currentPolicy.schemaVersion
    (placed.filterMap (·.rule) ++ unplaced.map Prod.snd)
  policy.check
  let ids := managedRuleIds current desired
  return {
    policy
    changes := ids.filterMap (changeOf ruleSha256 current desired adopted)
    unchangedRuleCount := ids.countP (changeOf ruleSha256 current desired adopted · = none)
    candidateCount := candidates.length
    retirements := placed.filterMap (·.retirement) }

/-! ### Rules and their ids -/

theorem managedEntry_eq_some {managedSetId : String} {rule : AuthzPolicyRule} {entry : ManagedEntry} :
    managedEntry managedSetId rule = some entry ↔
      rule.managedSetId = some managedSetId ∧ rule.managedRuleId = some entry.1 ∧ entry.2 = rule := by
  obtain ⟨id, other⟩ := entry
  unfold managedEntry
  split_ifs with hset
  · simp only [hset, true_and, Option.map_eq_some_iff, Prod.mk.injEq]
    constructor
    · rintro ⟨_, hid, rfl, rfl⟩
      exact ⟨hid, rfl⟩
    · rintro ⟨hid, rfl⟩
      exact ⟨id, hid, rfl, rfl⟩
  · simp [hset]

theorem mem_sortedItems {rules : Dict String AuthzPolicyRule} {entry : ManagedEntry} :
    entry ∈ sortedItems rules ↔ entry ∈ rules := List.mem_insertionSort _

theorem nodup_sortedItems {rules : Dict String AuthzPolicyRule} (h : rules.keys.Nodup) :
    ((sortedItems rules).map Prod.fst).Nodup :=
  ((List.perm_insertionSort _ rules).map Prod.fst).nodup_iff.mpr h

namespace LaunchplaneAuthzPolicy

variable {policy : LaunchplaneAuthzPolicy} {item : LocatedRule}

theorem map_snd_located : policy.located.map Prod.snd = policy.rules := by
  simp [located, rules, List.map_flatMap, Function.comp_def, List.zipIdx_map_fst]

theorem collectionType_of_mem_located (h : item ∈ policy.located) :
    item.2.collectionType = item.1.collectionType := by
  simp only [located, List.mem_flatMap, List.mem_map] at h
  obtain ⟨type, -, indexed, hindexed, rfl⟩ := h
  exact collectionType_of_mem (List.fst_mem_of_mem_zipIdx hindexed)

/-- No two rules stand in the same place. -/
theorem nodup_keys_located : (Dict.keys policy.located).Nodup := by
  have hindices (type : CollectionType) :
      ((policy.collection type).zipIdx.map fun item =>
        ((⟨type, item.2⟩, item.1) : LocatedRule)).map Prod.fst =
        (List.range' 0 (policy.collection type).length).map (RuleLocation.mk type) := by
    rw [← List.zipIdx_map_snd 0 (policy.collection type), List.map_map, List.map_map]
    rfl
  rw [Dict.keys, located, List.map_flatMap, List.nodup_flatMap]
  constructor
  · intro type _
    rw [hindices]
    exact List.Nodup.map (fun i j h => (RuleLocation.mk.inj h).2)
      (List.nodup_range' : (List.range' 0 (policy.collection type).length 1).Nodup)
  · have htypes : collectionTypes.Pairwise (· ≠ ·) := by decide
    refine htypes.imp fun {a b} hne => ?_
    simp only [Function.onFun, hindices, List.disjoint_left, List.mem_map]
    rintro _ ⟨i, -, rfl⟩ ⟨j, -, h⟩
    exact hne (RuleLocation.mk.inj h).1.symm

theorem mem_rules_of_located (h : item ∈ policy.located) : item.2 ∈ policy.rules :=
  map_snd_located ▸ List.mem_map_of_mem h

/-- Two rules of a set do not share their managed id. -/
theorem nodup_keys_managedEntries (hids : policy.managedIdentities.Nodup) (managedSetId : String) :
    (Dict.keys (policy.rules.filterMap (managedEntry managedSetId))).Nodup := by
  rw [managedIdentities_eq, List.Nodup, List.pairwise_filterMap] at hids
  rw [Dict.keys, List.Nodup, List.pairwise_map, List.pairwise_filterMap]
  refine hids.imp fun {a b} h entry hentry entry' hentry' heq => ?_
  obtain ⟨hset, hid, -⟩ := managedEntry_eq_some.mp hentry
  obtain ⟨hset', hid', -⟩ := managedEntry_eq_some.mp hentry'
  refine h (managedSetId, entry.1) ?_ (managedSetId, entry.1) ?_ rfl
  · simp [AuthzPolicyRule.managedIdentity, hset, hid]
  · simp [AuthzPolicyRule.managedIdentity, hset', hid', heq]

/-- The rule of an id, where no id is given to two rules. -/
theorem get_managedRulesById (hids : policy.managedIdentities.Nodup) {managedSetId : String}
    {managedRuleId : String} {rule : AuthzPolicyRule} :
    (policy.managedRulesById managedSetId).get managedRuleId = some rule ↔
      rule ∈ policy.rules ∧ rule.managedSetId = some managedSetId ∧
        rule.managedRuleId = some managedRuleId := by
  have hkeys := nodup_keys_managedEntries hids managedSetId
  rw [managedRulesById, Dict.get_update_or_of_nodup hkeys, Dict.get_nil, Option.or_none,
    ← Dict.mem_iff_get hkeys, List.mem_filterMap]
  constructor
  · rintro ⟨other, hother, hentry⟩
    obtain ⟨hset, hid, rfl⟩ := managedEntry_eq_some.mp hentry
    exact ⟨hother, hset, hid⟩
  · rintro ⟨hrule, hset, hid⟩
    exact ⟨rule, hrule, managedEntry_eq_some.mpr ⟨hset, hid, rfl⟩⟩

theorem nodup_keys_managedRulesById (managedSetId : String) :
    (policy.managedRulesById managedSetId).keys.Nodup :=
  Dict.nodup_keys_update (d := []) List.nodup_nil _

end LaunchplaneAuthzPolicy

/-! ### What is adopted, and what is retired -/

section Adoption

variable {currentPolicy : LaunchplaneAuthzPolicy} {current desired : Dict String AuthzPolicyRule}
  {unmanagedAdoption : UnmanagedAdoptionMode} {adopted adopted' retired candidates : Adoptions}
  {entry : ManagedEntry}

/-- A desired rule adopts nothing, or the one unmanaged rule that it matches. -/
theorem adoptRule_cases
    (h : adoptRule currentPolicy current unmanagedAdoption adopted entry = .ok adopted') :
    adopted' = adopted ∨
      ∃ location, adoptionCandidates currentPolicy entry.2 = [location] ∧
        unmanagedAdoption = .adoptMatching ∧ entry.1 ∉ current.keys ∧
        location.collectionType = entry.2.collectionType ∧ location ∉ adopted.keys ∧
        adopted' = adopted ++ [(location, entry)] := by
  unfold adoptRule at h
  by_cases hcurrent : entry.1 ∈ current.keys
  · rw [if_pos hcurrent] at h
    exact .inl (Except.ok.inj h).symm
  · rw [if_neg hcurrent] at h
    cases hcandidates : adoptionCandidates currentPolicy entry.2 with
    | nil =>
        simp only [hcandidates] at h
        split_ifs at h
        exact .inl (Except.ok.inj h).symm
    | cons location others =>
        cases others with
        | cons _ _ => simp [hcandidates] at h
        | nil =>
            simp only [hcandidates] at h
            split_ifs at h with hmode hplace
            obtain ⟨htype, hnew⟩ := not_or.mp hplace
            rw [Dict.set, if_neg hnew] at h
            exact .inr ⟨location, rfl, not_not.mp hmode, hcurrent, not_not.mp htype, hnew,
              (Except.ok.inj h).symm⟩

/-- What the adoption loop has found among the desired rules it went through. -/
structure Adopts (currentPolicy : LaunchplaneAuthzPolicy) (current : Dict String AuthzPolicyRule)
    (unmanagedAdoption : UnmanagedAdoptionMode) (entries : List ManagedEntry) (adopted : Adoptions) :
    Prop where
  locations : adopted.keys.Nodup
  ids : (adopted.map (·.2.1)).Nodup
  mode : unmanagedAdoption = .reject → adopted = []
  entry : ∀ item ∈ adopted, item.2 ∈ entries
  unknown : ∀ item ∈ adopted, item.2.1 ∉ current.keys
  collectionType : ∀ item ∈ adopted, item.1.collectionType = item.2.2.collectionType
  matched : ∀ item ∈ adopted, adoptionCandidates currentPolicy item.2.2 = [item.1]

theorem adopts_nil (entries : List ManagedEntry) :
    Adopts currentPolicy current unmanagedAdoption entries [] where
  locations := List.nodup_nil
  ids := List.nodup_nil
  mode _ := rfl
  entry := by simp
  unknown := by simp
  collectionType := by simp
  matched := by simp

theorem Adopts.step {entries : List ManagedEntry}
    (hadopts : Adopts currentPolicy current unmanagedAdoption entries adopted)
    (hnew : entry.1 ∉ entries.map Prod.fst)
    (h : adoptRule currentPolicy current unmanagedAdoption adopted entry = .ok adopted') :
    Adopts currentPolicy current unmanagedAdoption (entries ++ [entry]) adopted' := by
  obtain rfl | ⟨location, hcandidates, hmode, hunknown, htype, hfree, rfl⟩ := adoptRule_cases h
  · exact { hadopts with entry := fun item h => List.mem_append_left _ (hadopts.entry item h) }
  · have hid : entry.1 ∉ adopted.map (·.2.1) := by
      simp only [List.mem_map, not_exists, not_and]
      intro item hitem heq
      exact hnew (heq ▸ List.mem_map_of_mem (f := Prod.fst) (hadopts.entry item hitem))
    have hitem {p : RuleLocation × ManagedEntry → Prop} (hold : ∀ item ∈ adopted, p item)
        (hlast : p (location, entry)) : ∀ item ∈ adopted ++ [(location, entry)], p item := by
      intro item hmem
      rcases List.mem_append.mp hmem with hmem | hmem
      · exact hold item hmem
      · rwa [List.mem_singleton.mp hmem]
    exact {
      locations := by
        rw [Dict.keys, List.map_append, List.nodup_append]
        refine ⟨hadopts.locations, by simp, ?_⟩
        intro a ha b hb hab
        obtain rfl : b = location := by simpa using hb
        exact hfree (hab ▸ ha)
      ids := by
        rw [List.map_append, List.nodup_append]
        refine ⟨hadopts.ids, by simp, ?_⟩
        intro a ha b hb hab
        obtain rfl : b = entry.1 := by simpa using hb
        exact hid (hab ▸ ha)
      mode := by simp [hmode]
      entry := hitem (fun item h => List.mem_append_left _ (hadopts.entry item h)) (by simp)
      unknown := hitem hadopts.unknown hunknown
      collectionType := hitem hadopts.collectionType htype
      matched := hitem hadopts.matched hcandidates }

/-- The loop adopts for different ids what stands in different places. -/
theorem adopts_of_adoptRules {entries rest : List ManagedEntry}
    (hadopts : Adopts currentPolicy current unmanagedAdoption entries adopted)
    (hids : ((entries ++ rest).map Prod.fst).Nodup)
    (h : adoptRules currentPolicy current unmanagedAdoption adopted rest = .ok adopted') :
    Adopts currentPolicy current unmanagedAdoption (entries ++ rest) adopted' := by
  induction rest generalizing entries adopted with
  | nil =>
      cases h
      rwa [List.append_nil]
  | cons entry rest ih =>
      rw [adoptRules] at h
      obtain ⟨next, hnext, h⟩ := bind_eq_ok.mp h
      have hnew : entry.1 ∉ entries.map Prod.fst := by
        rw [List.map_append, List.nodup_append] at hids
        exact fun hmem => hids.2.2 _ hmem _ (by simp) rfl
      rw [List.append_cons] at hids ⊢
      exact ih (hadopts.step hnew hnext) hids h

/-- A candidate is an unmanaged workflow rule that covers the one managed rule it matches, which
the policy has as it is desired. -/
theorem of_mem_retirementCandidates {item : RuleLocation × ManagedEntry}
    (h : item ∈ retirementCandidates current (retirementMatches currentPolicy desired)) :
    ∃ currentRule desiredRule : GitHubActionsPolicyRule,
      (item.1, AuthzPolicyRule.githubActions currentRule) ∈ currentPolicy.located ∧
      currentRule.managedSetId = none ∧ item.2.2 = .githubActions desiredRule ∧
      compatibilityRetirementMatches currentRule desiredRule = true ∧
      item.2 ∈ sortedItems desired ∧ current.get item.2.1 = some item.2.2 := by
  obtain ⟨found, hfound, hitem⟩ := List.mem_filterMap.mp h
  obtain ⟨located, hlocated, rfl⟩ := List.mem_map.mp (List.mem_filter.mp hfound).1
  cases hmatches : retirementMatchesOf desired located.2 with
  | nil => simp [hmatches] at hitem
  | cons entry others =>
      cases others with
      | cons _ _ => simp [hmatches] at hitem
      | nil =>
          simp only [hmatches, Option.ite_none_right_eq_some, Option.some.injEq] at hitem
          obtain ⟨⟨-, hcurrent⟩, rfl⟩ := hitem
          obtain ⟨location, rule⟩ := located
          cases rule with
          | githubActions currentRule =>
              rw [retirementMatchesOf] at hmatches
              split_ifs at hmatches with hset
              have hentry : entry ∈ [entry] := List.mem_singleton_self _
              rw [← hmatches, List.mem_filter] at hentry
              obtain ⟨hdesired, hcovers⟩ := hentry
              obtain ⟨id, rule⟩ := entry
              cases rule with
              | githubActions desiredRule =>
                  exact ⟨currentRule, desiredRule, hlocated, not_not.mp hset, rfl, hcovers,
                    hdesired, hcurrent⟩
              | _ => cases hcovers
          | _ => cases hmatches

/-- Nothing is retired, or in the mode that allows it every candidate, and none that is adopted. -/
theorem retireRules_cases {found : List (RuleLocation × List ManagedEntry)}
    (h : retireRules unmanagedAdoption adopted found candidates = .ok retired) :
    (unmanagedAdoption = .reject ∧ retired = []) ∨
      (unmanagedAdoption = .adoptMatching ∧ retired = candidates ∧
        ∀ item ∈ candidates, item.1 ∉ adopted.keys) := by
  unfold retireRules at h
  split_ifs at h with hmode hambiguous hconflict
  · cases h
    cases unmanagedAdoption with
    | reject => exact .inl ⟨rfl, rfl⟩
    | adoptMatching => exact absurd rfl hmode
  · cases h
    refine .inr ⟨not_not.mp hmode, rfl, fun item hitem hadopted => hconflict ?_⟩
    exact List.any_eq_true.mpr ⟨item, hitem, by simpa using hadopted⟩

end Adoption

/-! ### What stands in the place of a rule -/

section Place

variable {managedSetId : String} {desired : Dict String AuthzPolicyRule} {adopted retired : Adoptions}
  {item : LocatedRule} {placed : Placed}

/-- A rule of the set gives way to the desired rule of its id, an adopted rule to the one that
adopts it, a retired rule to nothing, and every other rule stays. -/
theorem placeRule_cases
    (h : placeRule ruleSha256 managedSetId desired adopted retired item = .ok placed) :
    (item.2.managedSetId = some managedSetId ∧ ∃ managedRuleId,
        item.2.managedRuleId = some managedRuleId ∧
        ((∃ rule, desired.get managedRuleId = some rule ∧
            rule.collectionType = item.1.collectionType ∧
            placed = { rule := some rule, managedRuleId := some managedRuleId }) ∨
          ((∀ rule, desired.get managedRuleId = some rule →
            rule.collectionType ≠ item.1.collectionType) ∧ placed = {}))) ∨
      (item.2.managedSetId ≠ some managedSetId ∧
        ((∃ entry, adopted.get item.1 = some entry ∧
            placed = { rule := some entry.2, managedRuleId := some entry.1 }) ∨
          (adopted.get item.1 = none ∧ ∃ entry, retired.get item.1 = some entry ∧
            placed =
              { retirement := some ⟨entry.1, ruleSha256 item.2, ruleSha256 entry.2⟩ }) ∨
          (adopted.get item.1 = none ∧ retired.get item.1 = none ∧
            placed = { rule := some item.2 }))) := by
  unfold placeRule at h
  by_cases hset : item.2.managedSetId = some managedSetId
  · rw [if_pos hset] at h
    refine .inl ⟨hset, ?_⟩
    cases hid : item.2.managedRuleId with
    | none => simp [hid] at h
    | some managedRuleId =>
        refine ⟨managedRuleId, rfl, ?_⟩
        simp only [hid] at h
        cases hdesired : desired.get managedRuleId with
        | none =>
            simp only [hdesired, Except.ok.injEq] at h
            exact .inr ⟨by simp, h.symm⟩
        | some rule =>
            simp only [hdesired] at h
            split_ifs at h with htype
            · exact .inl ⟨rule, rfl, htype, (Except.ok.inj h).symm⟩
            · refine .inr ⟨?_, (Except.ok.inj h).symm⟩
              rintro _ ⟨⟩
              exact htype
  · rw [if_neg hset] at h
    refine .inr ⟨hset, ?_⟩
    cases hadopted : adopted.get item.1 with
    | some entry =>
        simp only [hadopted, Except.ok.injEq] at h
        exact .inl ⟨entry, rfl, h.symm⟩
    | none =>
        simp only [hadopted] at h
        cases hretired : retired.get item.1 with
        | some entry =>
            simp only [hretired, Except.ok.injEq] at h
            exact .inr (.inl ⟨rfl, entry, rfl, h.symm⟩)
        | none =>
            simp only [hretired, Except.ok.injEq] at h
            exact .inr (.inr ⟨rfl, rfl, h.symm⟩)

end Place

end Launchplane.Authz
