import Launchplane.Authz.Reconcile

/-!
# Launchplane.Authz.Reconciled

**What a reconciliation leaves.** In every collection the rules of the set are
the desired ones, and the other rules are those of the policy before, in the same
order, without the ones that were adopted or retired.
-/

namespace Launchplane.Authz

variable {ruleSha256 : AuthzPolicyRule → String}

/-! ### The parts of a reconciliation -/

/-- A pass of which every step succeeds has the result of each of them. -/
theorem exists_map_of_mapM {α β : Type} [Inhabited β] {f : α → Except String β} {xs : List α}
    {ys : List β} (h : xs.mapM f = .ok ys) :
    ∃ g : α → β, ys = xs.map g ∧ ∀ x ∈ xs, f x = .ok (g x) := by
  refine ⟨fun x => (f x).toOption.getD default, ?_⟩
  induction xs generalizing ys with
  | nil =>
      cases h
      exact ⟨rfl, by simp⟩
  | cons x xs ih =>
      rw [List.mapM_cons] at h
      obtain ⟨y, hy, h⟩ := bind_eq_ok.mp h
      obtain ⟨rest, hrest, h⟩ := bind_eq_ok.mp h
      cases h
      obtain ⟨hsame, hall⟩ := ih hrest
      refine ⟨by rw [List.map_cons, ← hsame, hy]; rfl, fun z hz => ?_⟩
      rcases List.mem_cons.mp hz with rfl | hz
      · simp [hy, Except.toOption]
      · exact hall z hz

/-- A pass of which every step succeeds. -/
theorem mapM_eq_map {α β : Type} {f : α → Except String β} {g : α → β} {xs : List α}
    (h : ∀ x ∈ xs, f x = .ok (g x)) : xs.mapM f = .ok (xs.map g) := by
  induction xs with
  | nil => rfl
  | cons x xs ih =>
      rw [List.mapM_cons, h x List.mem_cons_self, ih fun y hy => h y (List.mem_cons_of_mem _ hy)]
      rfl

instance inhabitedPlaced : Inhabited Placed := ⟨{}⟩

/-- What a reconciliation has adopted, retired and placed, and what it makes of it. -/
structure ReconciledBy (ruleSha256 : AuthzPolicyRule → String)
    (currentPolicy desiredPolicy : LaunchplaneAuthzPolicy) (managedSetId : String)
    (unmanagedAdoption : UnmanagedAdoptionMode) (plan : ReconciledPolicy)
    (adopted retired : Adoptions) (place : LocatedRule → Placed) : Prop where
  adopts : Adopts currentPolicy (currentPolicy.managedRulesById managedSetId) unmanagedAdoption
    (sortedItems (desiredPolicy.managedRulesById managedSetId)) adopted
  retires : (unmanagedAdoption = .reject ∧ retired = []) ∨
    (unmanagedAdoption = .adoptMatching ∧
      retired = retirementCandidates (currentPolicy.managedRulesById managedSetId)
        (retirementMatches currentPolicy (desiredPolicy.managedRulesById managedSetId)) ∧
      ∀ item ∈ retired, item.1 ∉ adopted.keys)
  placed : ∀ item ∈ currentPolicy.located, placeRule ruleSha256 managedSetId
    (desiredPolicy.managedRulesById managedSetId) adopted retired item = .ok (place item)
  policy : plan.policy = LaunchplaneAuthzPolicy.ofRules currentPolicy.schemaVersion
    (currentPolicy.located.filterMap (fun item => (place item).rule) ++
      ((sortedItems (desiredPolicy.managedRulesById managedSetId)).filter (·.1 ∉
        currentPolicy.located.filterMap fun item => (place item).managedRuleId)).map Prod.snd)
  check : plan.policy.check = .ok ()
  changes : plan.changes = (managedRuleIds (currentPolicy.managedRulesById managedSetId)
      (desiredPolicy.managedRulesById managedSetId)).filterMap
    (changeOf ruleSha256 (currentPolicy.managedRulesById managedSetId)
      (desiredPolicy.managedRulesById managedSetId) adopted)
  unchanged : plan.unchangedRuleCount = (managedRuleIds (currentPolicy.managedRulesById managedSetId)
      (desiredPolicy.managedRulesById managedSetId)).countP
    (changeOf ruleSha256 (currentPolicy.managedRulesById managedSetId)
      (desiredPolicy.managedRulesById managedSetId) adopted · = none)
  retirements : plan.retirements =
    currentPolicy.located.filterMap fun item => (place item).retirement

section

variable {currentPolicy desiredPolicy : LaunchplaneAuthzPolicy} {managedSetId : String}
  {unmanagedAdoption : UnmanagedAdoptionMode} {plan : ReconciledPolicy}
  {adopted retired : Adoptions} {place : LocatedRule → Placed}

theorem reconciledBy_of_ok (h : reconcileManagedPolicy ruleSha256 currentPolicy desiredPolicy
    managedSetId unmanagedAdoption = .ok plan) :
    ∃ adopted retired place, ReconciledBy ruleSha256 currentPolicy desiredPolicy managedSetId
      unmanagedAdoption plan adopted retired place := by
  unfold reconcileManagedPolicy at h
  obtain ⟨adopted, hadopted, h⟩ := bind_eq_ok.mp h
  obtain ⟨retired, hretired, h⟩ := bind_eq_ok.mp h
  obtain ⟨placed, hplaced, h⟩ := bind_eq_ok.mp h
  obtain ⟨⟨⟩, hcheck, h⟩ := bind_eq_ok.mp h
  obtain ⟨place, rfl, hplace⟩ := exists_map_of_mapM hplaced
  cases h
  have hids := nodup_sortedItems
    (@LaunchplaneAuthzPolicy.nodup_keys_managedRulesById desiredPolicy managedSetId)
  have hadopts := adopts_of_adoptRules (adopts_nil []) (by simpa using hids) hadopted
  refine ⟨adopted, retired, place, ?_⟩
  simp only [List.filterMap_map, Function.comp_def] at hcheck ⊢
  exact {
    adopts := by simpa using hadopts
    retires := by
      rcases retireRules_cases hretired with h | ⟨hmode, hcandidates, hfree⟩
      · exact .inl h
      · exact .inr ⟨hmode, hcandidates, hcandidates ▸ hfree⟩
    placed := hplace
    policy := rfl
    check := hcheck
    changes := rfl
    unchanged := rfl
    retirements := rfl }

/-! ### The rules of the set -/

/-- The rules of a desired policy belong to the set, each under an id of its own. -/
structure DesiredFor (managedSetId : String) (desiredPolicy : LaunchplaneAuthzPolicy) : Prop where
  ids : desiredPolicy.managedIdentities.Nodup
  managed : ∀ rule ∈ desiredPolicy.rules, rule.managedSetId = some managedSetId ∧
    ∃ managedRuleId, rule.managedRuleId = some managedRuleId

theorem DesiredFor.get_iff (hdesired : DesiredFor managedSetId desiredPolicy) {managedRuleId : String}
    {rule : AuthzPolicyRule} :
    (desiredPolicy.managedRulesById managedSetId).get managedRuleId = some rule ↔
      rule ∈ desiredPolicy.rules ∧ rule.managedRuleId = some managedRuleId := by
  rw [LaunchplaneAuthzPolicy.get_managedRulesById hdesired.ids]
  exact ⟨fun h => ⟨h.1, h.2.2⟩, fun h => ⟨h.1, (hdesired.managed rule h.1).1, h.2⟩⟩

theorem DesiredFor.of_mem_sortedItems (hdesired : DesiredFor managedSetId desiredPolicy)
    {entry : ManagedEntry} (h : entry ∈ sortedItems (desiredPolicy.managedRulesById managedSetId)) :
    entry.2 ∈ desiredPolicy.rules ∧ entry.2.managedRuleId = some entry.1 :=
  hdesired.get_iff.mp (Dict.get_of_mem
    (LaunchplaneAuthzPolicy.nodup_keys_managedRulesById managedSetId) (mem_sortedItems.mp h))

theorem DesiredFor.inSet (hdesired : DesiredFor managedSetId desiredPolicy) {rule : AuthzPolicyRule}
    (h : rule ∈ desiredPolicy.rules) : rule.inSet managedSetId = true := by
  simpa [AuthzPolicyRule.inSet] using (hdesired.managed rule h).1

/-- No two rules with identities are the same. -/
theorem nodup_rules_of_managed {policy : LaunchplaneAuthzPolicy} (hids : policy.managedIdentities.Nodup)
    (hmanaged : ∀ rule ∈ policy.rules, ∃ identity, rule.managedIdentity = some identity) :
    policy.rules.Nodup := by
  rw [LaunchplaneAuthzPolicy.managedIdentities_eq, List.Nodup, List.pairwise_filterMap] at hids
  refine List.Pairwise.imp_of_mem (fun {a b} ha _ h heq => ?_) hids
  obtain ⟨identity, hidentity⟩ := hmanaged a ha
  exact h identity hidentity identity (heq ▸ hidentity) rfl

theorem DesiredFor.nodup (hdesired : DesiredFor managedSetId desiredPolicy) :
    desiredPolicy.rules.Nodup := by
  refine nodup_rules_of_managed hdesired.ids fun rule hrule => ?_
  obtain ⟨hset, id, hid⟩ := hdesired.managed rule hrule
  exact ⟨(managedSetId, id), by simp [AuthzPolicyRule.managedIdentity, hset, hid]⟩

namespace ReconciledBy

variable (hplan : ReconciledBy ruleSha256 currentPolicy desiredPolicy managedSetId unmanagedAdoption
  plan adopted retired place)

include hplan

/-- No id is placed twice: not by two rules of the set, not by two adoptions, and an adoption is
for an id that the policy did not have. -/
theorem nodup_placedIds (hcurrent : currentPolicy.managedIdentities.Nodup) :
    (currentPolicy.located.filterMap fun item => (place item).managedRuleId).Nodup := by
  have hkeys : currentPolicy.located.Pairwise (fun a b => a.1 ≠ b.1) :=
    List.pairwise_map.mp LaunchplaneAuthzPolicy.nodup_keys_located
  have hids : currentPolicy.located.Pairwise fun a b => ∀ identity,
      a.2.managedIdentity = some identity → b.2.managedIdentity ≠ some identity := by
    rw [LaunchplaneAuthzPolicy.managedIdentities_eq, ← LaunchplaneAuthzPolicy.map_snd_located,
      List.filterMap_map, List.Nodup, List.pairwise_filterMap] at hcurrent
    exact hcurrent.imp fun h identity ha hb => h identity ha identity hb rfl
  -- where an id comes from
  have hsource : ∀ item ∈ currentPolicy.located, ∀ id, (place item).managedRuleId = some id →
      (item.2.managedIdentity = some (managedSetId, id) ∧ item.2 ∈ currentPolicy.rules) ∨
      ∃ entry, adopted.get item.1 = some entry ∧ entry.1 = id := by
    intro item hitem id h
    obtain ⟨hset, id', hid, hplaced⟩ | ⟨-, hplaced⟩ :=
      placeRule_cases ruleSha256 (hplan.placed item hitem)
    · obtain ⟨rule, -, -, hplace⟩ | ⟨-, hplace⟩ := hplaced
      · obtain rfl : id' = id := by simpa [hplace] using h
        exact .inl ⟨by simp [AuthzPolicyRule.managedIdentity, hset, hid],
          LaunchplaneAuthzPolicy.mem_rules_of_located hitem⟩
      · simp [hplace] at h
    · obtain ⟨entry, hget, hplace⟩ | ⟨-, entry, -, hplace⟩ | ⟨-, -, hplace⟩ := hplaced
      · exact .inr ⟨entry, hget, by simpa [hplace] using h⟩
      · simp [hplace] at h
      · simp [hplace] at h
  have hunknown : ∀ rule ∈ currentPolicy.rules, ∀ id,
      rule.managedIdentity = some (managedSetId, id) → ∀ location entry,
      adopted.get location = some entry → entry.1 ≠ id := by
    rintro rule hrule id hidentity location entry hget rfl
    refine hplan.adopts.unknown _ (Dict.mem_of_get hget) ?_
    have hknown : (currentPolicy.managedRulesById managedSetId).get entry.1 = some rule := by
      refine (LaunchplaneAuthzPolicy.get_managedRulesById hcurrent).mpr ⟨hrule, ?_⟩
      simpa [AuthzPolicyRule.managedIdentity, Option.bind_eq_some_iff] using hidentity
    exact Dict.isSome_get.mp (by simp [hknown])
  rw [List.Nodup, List.pairwise_filterMap]
  refine List.Pairwise.imp_of_mem (fun {a b} ha hb h id hida id' hidb heq => ?_) (hkeys.and hids)
  subst heq
  obtain ⟨hidentity, hrule⟩ | ⟨entry, hget, rfl⟩ := hsource a ha id hida
  · obtain ⟨hidentity', -⟩ | ⟨entry, hget, hid⟩ := hsource b hb id hidb
    · exact h.2 _ hidentity hidentity'
    · exact hunknown a.2 hrule id hidentity b.1 entry hget hid
  · obtain ⟨hidentity, hrule⟩ | ⟨entry', hget', hid⟩ := hsource b hb entry.1 hidb
    · exact hunknown b.2 hrule entry.1 hidentity a.1 entry hget rfl
    · have hsame := List.inj_on_of_nodup_map hplan.adopts.ids (Dict.mem_of_get hget)
        (Dict.mem_of_get hget') hid.symm
      exact h.1 (Prod.mk.inj hsame).1

variable (hdesired : DesiredFor managedSetId desiredPolicy)

include hdesired

/-- What adopts a rule is a desired rule. -/
theorem adopted_desired {location : RuleLocation} {entry : ManagedEntry}
    (h : adopted.get location = some entry) :
    entry.2 ∈ desiredPolicy.rules ∧ entry.2.managedRuleId = some entry.1 :=
  hdesired.of_mem_sortedItems (hplan.adopts.entry _ (Dict.mem_of_get h))

/-- What was placed under an id is the desired rule of that id. -/
theorem placed_desired {item : LocatedRule} (hitem : item ∈ currentPolicy.located)
    {managedRuleId : String} (h : (place item).managedRuleId = some managedRuleId) :
    ∃ rule, (place item).rule = some rule ∧ rule ∈ desiredPolicy.rules ∧
      rule.managedRuleId = some managedRuleId := by
  obtain ⟨-, id, -, hplaced⟩ | ⟨-, hplaced⟩ := placeRule_cases ruleSha256 (hplan.placed item hitem)
  · obtain ⟨rule, hget, -, hplace⟩ | ⟨-, hplace⟩ := hplaced
    · obtain ⟨hrule, hid⟩ := hdesired.get_iff.mp hget
      rw [hplace] at h ⊢
      exact ⟨rule, rfl, hrule, h ▸ hid⟩
    · simp [hplace] at h
  · obtain ⟨entry, hget, hplace⟩ | ⟨-, entry, -, hplace⟩ | ⟨-, -, hplace⟩ := hplaced
    · obtain ⟨hrule, hid⟩ := hplan.adopted_desired hdesired hget
      rw [hplace] at h ⊢
      exact ⟨entry.2, rfl, hrule, h ▸ hid⟩
    · simp [hplace] at h
    · simp [hplace] at h

/-- A rule of the set that was placed was placed under its id. -/
theorem filter_placed {item : LocatedRule} (hitem : item ∈ currentPolicy.located) :
    ((place item).rule.filter (·.inSet managedSetId)).map (·.managedRuleId) =
      (place item).managedRuleId.map some := by
  obtain ⟨-, id, -, hplaced⟩ | ⟨hset, hplaced⟩ := placeRule_cases ruleSha256 (hplan.placed item hitem)
  · obtain ⟨rule, hget, -, hplace⟩ | ⟨-, hplace⟩ := hplaced
    · obtain ⟨hrule, hid⟩ := hdesired.get_iff.mp hget
      simp [hplace, Option.filter, hdesired.inSet hrule, hid]
    · simp [hplace]
  · obtain ⟨entry, hget, hplace⟩ | ⟨-, entry, -, hplace⟩ | ⟨-, -, hplace⟩ := hplaced
    · obtain ⟨hrule, hid⟩ := hplan.adopted_desired hdesired hget
      simp [hplace, Option.filter, hdesired.inSet hrule, hid]
    · simp [hplace]
    · simp [hplace, Option.filter, AuthzPolicyRule.inSet, hset]

/-- The rules of the set are the desired ones. -/
theorem perm_inSet (hcurrent : currentPolicy.managedIdentities.Nodup) (type : CollectionType) :
    ((plan.policy.collection type).filter (·.inSet managedSetId)).Perm
      (desiredPolicy.collection type) := by
  let entries := sortedItems (desiredPolicy.managedRulesById managedSetId)
  let placedIds := currentPolicy.located.filterMap fun item => (place item).managedRuleId
  let updated := currentPolicy.located.filterMap (fun item => (place item).rule) ++
    (entries.filter (·.1 ∉ placedIds)).map Prod.snd
  have hpolicy : plan.policy = LaunchplaneAuthzPolicy.ofRules currentPolicy.schemaVersion updated :=
    hplan.policy
  have hunplaced : ∀ entry ∈ entries.filter (·.1 ∉ placedIds),
      entry.2 ∈ desiredPolicy.rules ∧ entry.2.managedRuleId = some entry.1 := fun entry hentry =>
    hdesired.of_mem_sortedItems (List.mem_of_mem_filter hentry)
  have hmem (rule : AuthzPolicyRule) :
      rule ∈ updated ∧ rule.inSet managedSetId = true ↔ rule ∈ desiredPolicy.rules := by
    constructor
    · rintro ⟨hrule, hset⟩
      rcases List.mem_append.mp hrule with hrule | hrule
      · obtain ⟨item, hitem, hplace⟩ := List.mem_filterMap.mp hrule
        have hid := hplan.filter_placed hdesired hitem
        simp only [hplace, Option.filter, hset, if_true, Option.map_some] at hid
        obtain ⟨id, hplaced, -⟩ := Option.map_eq_some_iff.mp hid.symm
        obtain ⟨rule', hplace', hdesired', -⟩ := hplan.placed_desired hdesired hitem hplaced
        rw [hplace] at hplace'
        exact Option.some.inj hplace' ▸ hdesired'
      · obtain ⟨entry, hentry, rfl⟩ := List.mem_map.mp hrule
        exact (hunplaced entry hentry).1
    · intro hrule
      refine ⟨?_, hdesired.inSet hrule⟩
      obtain ⟨-, id, hid⟩ := hdesired.managed rule hrule
      have hget := hdesired.get_iff.mpr ⟨hrule, hid⟩
      by_cases hplaced : id ∈ placedIds
      · obtain ⟨item, hitem, hplace⟩ := List.mem_filterMap.mp hplaced
        obtain ⟨rule', hplace', hrule', hid'⟩ := hplan.placed_desired hdesired hitem hplace
        have hget' := hdesired.get_iff.mpr ⟨hrule', hid'⟩
        obtain rfl : rule = rule' := Option.some.inj (hget.symm.trans hget')
        exact List.mem_append_left _ (List.mem_filterMap.mpr ⟨item, hitem, hplace'⟩)
      · refine List.mem_append_right _ (List.mem_map.mpr ⟨(id, rule), ?_, rfl⟩)
        exact List.mem_filter.mpr ⟨mem_sortedItems.mpr (Dict.mem_of_get hget), by simpa using hplaced⟩
  have hids : ((updated.filter (·.inSet managedSetId)).map (·.managedRuleId)).Nodup := by
    have hplaced : ((currentPolicy.located.filterMap fun item => (place item).rule).filter
        (·.inSet managedSetId)).map (·.managedRuleId) = placedIds.map some := by
      rw [List.filter_filterMap, List.map_filterMap, List.map_filterMap]
      exact List.filterMap_congr fun item hitem => hplan.filter_placed hdesired hitem
    have hrest : (((entries.filter (·.1 ∉ placedIds)).map Prod.snd).filter
        (·.inSet managedSetId)).map (·.managedRuleId) =
        ((entries.filter (·.1 ∉ placedIds)).map Prod.fst).map some := by
      rw [List.filter_eq_self.mpr, List.map_map, List.map_map]
      · exact List.map_congr_left fun entry hentry => (hunplaced entry hentry).2
      · simp only [List.mem_map]
        rintro _ ⟨entry, hentry, rfl⟩
        exact hdesired.inSet (hunplaced entry hentry).1
    rw [List.filter_append, List.map_append, hplaced, hrest, ← List.map_append]
    refine List.Nodup.map (Option.some_injective _) (List.nodup_append.mpr
      ⟨hplan.nodup_placedIds hcurrent, ?_, ?_⟩)
    · exact (nodup_sortedItems (LaunchplaneAuthzPolicy.nodup_keys_managedRulesById _)).sublist
        (List.filter_sublist.map _)
    · rintro id hid _ hrest rfl
      obtain ⟨entry, hentry, rfl⟩ := List.mem_map.mp hrest
      exact absurd hid (by simpa using (List.mem_filter.mp hentry).2)
  rw [hpolicy, LaunchplaneAuthzPolicy.collection_ofRules, List.filter_comm]
  refine (List.perm_ext_iff_of_nodup (hids.of_map.filter _) ?_).mpr fun rule => ?_
  · exact (List.nodup_flatMap.mp hdesired.nodup).1 type (by cases type <;> decide)
  · rw [List.mem_filter, List.mem_filter, hmem, LaunchplaneAuthzPolicy.mem_rules, decide_eq_true_eq]
    constructor
    · rintro ⟨hrule, rfl⟩
      exact hrule
    · intro hrule
      obtain rfl := LaunchplaneAuthzPolicy.collectionType_of_mem hrule
      exact ⟨hrule, rfl⟩

/-- The other rules are those of before, in their order, without the adopted and the retired ones. -/
theorem filter_notInSet (type : CollectionType) :
    (plan.policy.collection type).filter (!·.inSet managedSetId) =
      (currentPolicy.located.filter fun item => item.1.collectionType = type &&
        !item.2.inSet managedSetId && item.1 ∉ adopted.keys && item.1 ∉ retired.keys).map Prod.snd := by
  rw [hplan.policy, LaunchplaneAuthzPolicy.collection_ofRules, List.filter_append, List.filter_append]
  have hrest : (((sortedItems (desiredPolicy.managedRulesById managedSetId)).filter (·.1 ∉
      currentPolicy.located.filterMap fun item => (place item).managedRuleId)).map Prod.snd).filter
      (fun rule => !rule.inSet managedSetId) = [] := by
    simp only [List.filter_eq_nil_iff, List.mem_map]
    rintro _ ⟨entry, hentry, rfl⟩
    simpa using hdesired.inSet (hdesired.of_mem_sortedItems (List.mem_of_mem_filter hentry)).1
  rw [List.filter_comm (l := List.map _ _), hrest, List.filter_nil, List.append_nil,
    List.filter_filter, List.filter_filterMap, ← List.filterMap_eq_map, ← List.filterMap_eq_filter,
    List.filterMap_filterMap]
  refine List.filterMap_congr fun item hitem => ?_
  have htype := LaunchplaneAuthzPolicy.collectionType_of_mem_located hitem
  have hdropped {id : String} {rule : AuthzPolicyRule}
      (hrule : rule ∈ desiredPolicy.rules ∧ rule.managedRuleId = some id) :
      Option.filter (fun rule => !rule.inSet managedSetId && decide (rule.collectionType = type))
        (some rule) = none := by
    simp [Option.filter, hdesired.inSet hrule.1]
  obtain ⟨hset, id, -, hplaced⟩ | ⟨hset, hplaced⟩ :=
    placeRule_cases ruleSha256 (hplan.placed item hitem)
  · have hin : item.2.inSet managedSetId = true := by simpa [AuthzPolicyRule.inSet] using hset
    obtain ⟨rule, hget, -, hplace⟩ | ⟨-, hplace⟩ := hplaced
    · rw [hplace, hdropped (hdesired.get_iff.mp hget)]
      simp [Option.guard, hin]
    · simp [hplace, Option.guard, hin]
  · have hout : item.2.inSet managedSetId = false := by simpa [AuthzPolicyRule.inSet] using hset
    obtain ⟨entry, hget, hplace⟩ | ⟨-, entry, hget, hplace⟩ | ⟨hadopted, hretired, hplace⟩ := hplaced
    · have hkey : item.1 ∈ adopted.keys := Dict.isSome_get.mp (by simp [hget])
      rw [hplace, hdropped (hplan.adopted_desired hdesired hget)]
      simp [Option.guard, hkey]
    · have hkey : item.1 ∈ retired.keys := Dict.isSome_get.mp (by simp [hget])
      simp [hplace, Option.guard, hkey]
    · have hadopted' := Dict.get_eq_none.mp hadopted
      have hretired' := Dict.get_eq_none.mp hretired
      by_cases hsame : item.1.collectionType = type
      · simp [hplace, Option.filter, Option.guard, hout, hadopted', hretired', htype, hsame]
      · simp [hplace, Option.filter, Option.guard, htype, hsame]

end ReconciledBy

/-- The desired policy of an accepted request. -/
theorem desiredFor_of_validate {request checked : ReconcileEnvelope}
    (h : request.validate = .ok checked) : DesiredFor checked.managedSetId checked.desiredPolicy where
  ids := LaunchplaneAuthzPolicy.nodup_of_check (ReconcileEnvelope.checked_of_validate h).check
  managed rule hrule := by
    obtain ⟨hset, hid, -⟩ :=
      of_validateDesiredRule ((ReconcileEnvelope.checked_of_validate h).rules rule hrule)
    exact ⟨hset, hid⟩

/-- The policy `updatedPolicy` has the desired rules in the place of the set's, and is otherwise
the policy before without the rules that were adopted and retired. -/
structure Replaces (currentPolicy desiredPolicy : LaunchplaneAuthzPolicy) (managedSetId : String)
    (unmanagedAdoption : UnmanagedAdoptionMode) (updatedPolicy : LaunchplaneAuthzPolicy)
    (adopted retired : Adoptions) : Prop where
  managed : ∀ type, ((updatedPolicy.collection type).filter (·.inSet managedSetId)).Perm
    (desiredPolicy.collection type)
  others : ∀ type, (updatedPolicy.collection type).filter (!·.inSet managedSetId) =
    (currentPolicy.located.filter fun item => item.1.collectionType = type &&
      !item.2.inSet managedSetId && item.1 ∉ adopted.keys && item.1 ∉ retired.keys).map Prod.snd
  /-- Neither a place nor an id is adopted twice. -/
  once : adopted.keys.Nodup ∧ (adopted.map (·.2.1)).Nodup
  /-- An adopted rule is the one unmanaged rule that a desired rule of a new id matches. -/
  adoption : ∀ item ∈ adopted, item.2.2 ∈ desiredPolicy.rules ∧
    item.2.2.managedRuleId = some item.2.1 ∧
    item.2.1 ∉ (currentPolicy.managedRulesById managedSetId).keys ∧
    adoptionCandidates currentPolicy item.2.2 = [item.1]
  /-- A retired rule is an unmanaged one that covers a desired rule which was there already. -/
  retirement : ∀ item ∈ retired, item.1 ∉ adopted.keys ∧
    item.2.2 ∈ desiredPolicy.rules ∧ item.2.2 ∈ currentPolicy.rules ∧
    ∃ currentRule desiredRule, (item.1, .githubActions currentRule) ∈ currentPolicy.located ∧
      item.2.2 = .githubActions desiredRule ∧ currentRule.managedSetId = none ∧
      compatibilityRetirementMatches currentRule desiredRule = true
  reject : unmanagedAdoption = .reject → adopted = [] ∧ retired = []

theorem ReconciledBy.replaces (hplan : ReconciledBy ruleSha256 currentPolicy desiredPolicy
      managedSetId unmanagedAdoption plan adopted retired place)
    (hdesired : DesiredFor managedSetId desiredPolicy)
    (hcurrent : currentPolicy.managedIdentities.Nodup) :
    Replaces currentPolicy desiredPolicy managedSetId unmanagedAdoption plan.policy adopted retired where
  managed := hplan.perm_inSet hdesired hcurrent
  others := hplan.filter_notInSet hdesired
  once := ⟨hplan.adopts.locations, hplan.adopts.ids⟩
  adoption item hitem := by
    obtain ⟨hrule, hid⟩ := hdesired.of_mem_sortedItems (hplan.adopts.entry item hitem)
    exact ⟨hrule, hid, hplan.adopts.unknown item hitem, hplan.adopts.matched item hitem⟩
  retirement item hitem := by
    obtain ⟨-, rfl⟩ | ⟨-, rfl, hfree⟩ := hplan.retires
    · cases hitem
    · obtain ⟨currentRule, desiredRule, hlocated, hset, hrule, hcovers, hentry, hget⟩ :=
        of_mem_retirementCandidates hitem
      exact ⟨hfree item hitem, (hdesired.of_mem_sortedItems hentry).1,
        ((LaunchplaneAuthzPolicy.get_managedRulesById hcurrent).mp hget).1, currentRule, desiredRule,
        hlocated, hrule, hset, hcovers⟩
  reject hmode := by
    obtain ⟨-, hnone⟩ | ⟨hadopt, -⟩ := hplan.retires
    · exact ⟨hplan.adopts.mode hmode, hnone⟩
    · rw [hmode] at hadopt
      cases hadopt

/-- Every rule of the updated policy was there or is desired. -/
theorem Replaces.mem_or_mem {updatedPolicy : LaunchplaneAuthzPolicy}
    (h : Replaces currentPolicy desiredPolicy managedSetId unmanagedAdoption updatedPolicy
      adopted retired) {rule : AuthzPolicyRule} (hrule : rule ∈ updatedPolicy.rules) :
    rule ∈ currentPolicy.rules ∨ rule ∈ desiredPolicy.rules := by
  rw [LaunchplaneAuthzPolicy.mem_rules] at hrule
  by_cases hset : rule.inSet managedSetId = true
  · have hmem := (h.managed rule.collectionType).mem_iff.mp (List.mem_filter.mpr ⟨hrule, hset⟩)
    exact .inr (LaunchplaneAuthzPolicy.mem_rules.mpr hmem)
  · have hmem : rule ∈ (updatedPolicy.collection rule.collectionType).filter
        (!·.inSet managedSetId) := List.mem_filter.mpr ⟨hrule, by simpa using hset⟩
    rw [h.others] at hmem
    obtain ⟨item, hitem, rfl⟩ := List.mem_map.mp hmem
    exact .inl (LaunchplaneAuthzPolicy.mem_rules_of_located (List.mem_of_mem_filter hitem))

/-- **A reconciliation changes only the rules of its set**, and of the others only those that it
adopts or retires. -/
theorem replaces_of_reconcileManagedPolicy (ruleSha256 : AuthzPolicyRule → String)
    (currentPolicy : LaunchplaneAuthzPolicy) (request checked : ReconcileEnvelope)
    (plan : ReconciledPolicy) (hcurrent : currentPolicy.check = .ok ())
    (hrequest : request.validate = .ok checked)
    (h : reconcileManagedPolicy ruleSha256 currentPolicy checked.desiredPolicy checked.managedSetId
      checked.unmanagedAdoption = .ok plan) :
    ∃ adopted retired, Replaces currentPolicy checked.desiredPolicy checked.managedSetId
      checked.unmanagedAdoption plan.policy adopted retired := by
  obtain ⟨adopted, retired, place, hplan⟩ := reconciledBy_of_ok h
  exact ⟨adopted, retired, hplan.replaces (desiredFor_of_validate hrequest)
    (LaunchplaneAuthzPolicy.nodup_of_check hcurrent)⟩

end

/-! ### A set with a rule to adopt and a rule to retire -/

/-- A workflow at the commit it was reviewed at. -/
def reviewedWorkflow : String :=
  "acme/ops/.github/workflows/secrets.yml@0123456789abcdef0123456789abcdef01234567"

/-- The same workflow on its branch. -/
def branchWorkflow : String := "acme/ops/.github/workflows/secrets.yml@refs/heads/main"

/-- A rule that lets the site's workflow read its secrets through another one. -/
def secretsRule (managedRuleId : Option String) (jobWorkflowRefs : List String) :
    GitHubActionsPolicyRule :=
  { managedSetId := managedRuleId.map fun _ => "operator.site"
    managedRuleId
    repository := "acme/site"
    repositoryId := if managedRuleId.isSome then "11" else ""
    repositoryOwnerId := if managedRuleId.isSome then "7" else ""
    workflowRefs := ["acme/site/.github/workflows/ci.yml@refs/heads/main"]
    jobWorkflowRefs
    products := ["shop"]
    contexts := ["shop"]
    actions := ["secret.read"] }

/-- A rule that lets the site's workflows read its operations. -/
def operationsRule (managedRuleId : Option String) : GitHubActionsPolicyRule :=
  { managedSetId := managedRuleId.map fun _ => "operator.site"
    managedRuleId
    repository := "acme/site"
    repositoryId := if managedRuleId.isSome then "11" else ""
    repositoryOwnerId := if managedRuleId.isSome then "7" else ""
    workflowRefs :=
      if managedRuleId.isSome then ["acme/site/.github/workflows/ci.yml@refs/heads/main"]
      else ["acme/site/.github/workflows/*"]
    products := ["shop"]
    actions := ["operations.read"] }

/-- A policy with a rule that can be adopted, a managed rule, and a rule beside it that can go. -/
def sitePolicy : LaunchplaneAuthzPolicy :=
  { schemaVersion := .v2
    githubActions :=
      [secretsRule none [branchWorkflow], operationsRule (some "operations"), operationsRule none]
    githubHumans := [{
      githubIds := [7, 8]
      roles := [.admin]
      products := ["launchplane"]
      contexts := ["launchplane"]
      actions := [authzPolicyAdminAction] }] }

/-- The set that the site should have. -/
def siteRequest : ReconcileEnvelope :=
  { product := "launchplane"
    managedSetId := "operator.site"
    unmanagedAdoption := .adoptMatching
    desiredPolicy :=
      { schemaVersion := .v2
        githubActions := [operationsRule (some "operations"),
          secretsRule (some "secrets") [reviewedWorkflow, branchWorkflow]] } }

theorem validate_siteRequest : siteRequest.validate = .ok siteRequest := by rfl

theorem replaces_sitePolicy : ∃ (plan : ReconciledPolicy) (adopted retired : Adoptions),
    (plan.changes.map fun change => (change.managedRuleId, change.change)) =
      [("secrets", ChangeKind.adopted)] ∧
    plan.retirements.length = 1 ∧
    Replaces sitePolicy siteRequest.desiredPolicy "operator.site" .adoptMatching plan.policy
      adopted retired := by
  have hrun : (reconcileManagedPolicy (fun _ => "") sitePolicy siteRequest.desiredPolicy
      "operator.site" .adoptMatching).map (fun plan =>
        (plan.changes.map fun change => (change.managedRuleId, change.change),
          plan.retirements.length)) = .ok ([("secrets", ChangeKind.adopted)], 1) := by decide +kernel
  obtain ⟨plan, hplan, hshape⟩ := map_eq_ok.mp hrun
  obtain ⟨adopted, retired, hreplaces⟩ := replaces_of_reconcileManagedPolicy (fun _ => "")
    sitePolicy siteRequest siteRequest plan (by rfl) validate_siteRequest hplan
  exact ⟨plan, adopted, retired, (Prod.mk.inj hshape).1, (Prod.mk.inj hshape).2, hreplaces⟩

end Launchplane.Authz
