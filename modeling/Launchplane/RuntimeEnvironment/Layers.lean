import Launchplane.RuntimeEnvironment.LaneRecords

/-!
# Launchplane.RuntimeEnvironment.Layers

**Which layer a value of a lane comes from.** The context's records, the record
of the instance, the values of the target, the secrets the site shares and the
lane's own secrets are laid one over the other. A key has the value of the last
layer that has it (`values_of_resolve`), and the bindings that are listed as
delivered are the ones whose values are (`delivered_of_resolve`).
-/

namespace Launchplane.RuntimeEnvironment

open Secrets

section Layers

variable (T : CharacterTable) {κ : Type} [LinearOrder κ] (collate : Chars ↪ κ)
  (decrypt : Chars → Chars → Except SecretError Chars)

/-- The value of the last layer that has a key. -/
def lastValue (layers : List (Chars → Option Chars)) (key : Chars) : Option Chars :=
  layers.reverse.findSome? (· key)

/-- The bindings that supply the keys among the secrets of one scope, with their records. -/
def scopeBindings (store : SecretStore) (contextName instanceName : Chars) (scope : SecretScope) :
    Dict Chars (SecretBinding × SecretRecord) :=
  store.resolveEffectiveSecretBindings collate runtimeEnvironmentSecretIntegration contextName
    instanceName (some [scope]) []

/-- The current value of a secret. -/
def currentValue (store : SecretStore) (record : SecretRecord) : Option Chars :=
  (store.versions.get record.currentVersionId).bind fun version =>
    (decrypt version.ciphertext version.keyId).toOption

/-- The value of a key among the secrets of one scope. -/
def scopeValue (store : SecretStore) (contextName instanceName : Chars) (scope : SecretScope)
    (key : Chars) : Option Chars :=
  ((scopeBindings collate store contextName instanceName scope).get key).bind fun pair =>
    currentValue decrypt store pair.2

/-- The layers of a lane's values, the first one first. -/
def laneLayers (store : SiteRuntimeEnvironmentStore) (contextName instanceName : Chars)
    (targetEnvironment : Mapping Chars) : List (Chars → Option Chars) :=
  [fun key => ((contextSettings store contextName).get key).map (·.str),
    fun key => ((instanceRecord store contextName instanceName).bind
      (·.env.items.get key)).map (·.str),
    fun key => targetEnvironment.items.get key,
    fun key =>
      if isStableLane T instanceName then
        scopeValue collate decrypt store.toSecretStore contextName instanceName .context key
      else none,
    scopeValue collate decrypt store.toSecretStore contextName instanceName .contextInstance]

/-! ### The secrets of the lane -/

/-- The secret records whose values the lane may receive. -/
def ReachesLane (contextName instanceName : Chars) (record : SecretRecord) : Prop :=
  record.integration = runtimeEnvironmentSecretIntegration ∧ record.status = .configured ∧
    record.context = contextName ∧
      (record.scope = .contextInstance ∧ record.instanceName = instanceName ∨
        isStableLane T instanceName = true ∧ record.scope = .context)

theorem mem_siteSecretScopes {instanceName : Chars} {scope : SecretScope} :
    scope ∈ siteSecretScopes T instanceName ↔
      scope = .contextInstance ∨ isStableLane T instanceName = true ∧ scope = .context := by
  unfold siteSecretScopes
  split
  · rename_i hstable
    simp [hstable, or_comm]
  · rename_i hstable
    simp [hstable]

theorem mem_laneCandidates {store : SecretStore} {contextName instanceName : Chars}
    {record : SecretRecord} :
    record ∈ store.candidateRecords collate runtimeEnvironmentSecretIntegration contextName
        instanceName (some (siteSecretScopes T instanceName)) ↔
      record ∈ store.records.rows ∧ ReachesLane T contextName instanceName record := by
  have hintegration : runtimeEnvironmentSecretIntegration ≠ [] := by decide
  rw [SecretStore.mem_candidateRecords]
  unfold ReachesLane scopeMatchesRecord
  simp only [Option.mem_some_iff, forall_eq', mem_siteSecretScopes, hintegration, false_or]
  cases hscope : record.scope <;> simp

/-- Candidates of a wider scope come before those of a narrower one. -/
theorem candidateRecords_pair (store : SecretStore)
    (integration contextName instanceName : Chars) {wide narrow : SecretScope}
    (h : scopeRank wide < scopeRank narrow) :
    store.candidateRecords collate integration contextName instanceName (some [wide, narrow]) =
      store.candidateRecords collate integration contextName instanceName (some [wide]) ++
        store.candidateRecords collate integration contextName instanceName (some [narrow]) := by
  have hmem (scopes : List SecretScope) (record : SecretRecord) :
      record ∈ store.candidateRecords collate integration contextName instanceName (some scopes) →
        record ∈ store.records.rows ∧ record.scope ∈ scopes := by
    intro hrecord
    obtain ⟨hrow, -, -, -, hscope⟩ := (SecretStore.mem_candidateRecords collate).mp hrecord
    exact ⟨hrow, hscope scopes rfl⟩
  have hnodup (scopes : Option (List SecretScope)) :
      (store.candidateRecords collate integration contextName instanceName scopes).Nodup :=
    nodup_sortedBy _ ((nodup_sortedBy _ (store.records.nodup_rows.filter _)).filter _)
  have hbefore : ∀ a ∈ store.candidateRecords collate integration contextName instanceName
      (some [wide]), ∀ b ∈ store.candidateRecords collate integration contextName instanceName
        (some [narrow]), candidateRank a < candidateRank b := by
    intro a ha b hb
    have hwide : a.scope = wide := by simpa using (hmem _ a ha).2
    have hnarrow : b.scope = narrow := by simpa using (hmem _ b hb).2
    refine Prod.Lex.toLex_lt_toLex.mpr (.inl ?_)
    rw [hwide, hnarrow]
    exact h
  refine eq_of_pairwise_of_perm ((SecretStore.ranked_candidates store).subset fun record hrecord =>
    (hmem _ record hrecord).1) (pairwise_sortedBy _ _) ?_ ?_
  · refine List.pairwise_append.mpr ⟨pairwise_sortedBy _ _, pairwise_sortedBy _ _, ?_⟩
    intro a ha b hb
    exact (hbefore a ha b hb).le
  · refine (List.perm_ext_iff_of_nodup (hnodup _) ?_).mpr ?_
    · refine List.nodup_append.mpr ⟨hnodup _, hnodup _, ?_⟩
      intro a ha b hb heq
      exact absurd (hbefore a ha b hb) (by simp [heq])
    · intro record
      rw [List.mem_append, SecretStore.mem_candidateRecords, SecretStore.mem_candidateRecords,
        SecretStore.mem_candidateRecords]
      simp only [Option.mem_some_iff, forall_eq', List.mem_cons, List.not_mem_nil, or_false]
      tauto

/-- The records behind the bindings reach the lane. -/
theorem reachesLane_of_mem {store : SecretStore} {contextName instanceName : Chars}
    {item : Chars × SecretBinding × SecretRecord}
    (h : item ∈ store.resolveEffectiveSecretBindings collate runtimeEnvironmentSecretIntegration
      contextName instanceName (some (siteSecretScopes T instanceName)) []) :
    item.2.2 ∈ store.records.rows ∧ ReachesLane T contextName instanceName item.2.2 ∧
      store.bindingForSecret collate item.2.2.secretId (some item.2.2.integration)
        (some item.2.2.context) (some item.2.2.instanceName) = some item.2.1 ∧
      item.2.1.bindingKey = item.1 := by
  rw [SecretStore.resolveEffectiveSecretBindings_eq] at h
  have hget := Dict.get_of_mem (Dict.nodup_keys_update (by simp) _) h
  rcases Dict.mem_of_get_update hget with hmem | ⟨-, hempty⟩
  · obtain ⟨pair, hpair, heq⟩ := List.mem_map.mp hmem
    rw [show item = (pair.1.bindingKey, pair) from heq.symm]
    obtain ⟨hcandidate, hnewest⟩ := SecretStore.of_mem_effectiveBindings collate hpair
    obtain ⟨hrow, hreaches⟩ := (mem_laneCandidates T collate).mp hcandidate
    exact ⟨hrow, hreaches, hnewest, rfl⟩
  · cases hempty

/-- A lane's own secrets come before those its site shares. -/
theorem get_resolveEffectiveSecretBindings (store : SecretStore) (contextName instanceName : Chars)
    (key : Chars) :
    (store.resolveEffectiveSecretBindings collate runtimeEnvironmentSecretIntegration contextName
        instanceName (some (siteSecretScopes T instanceName)) []).get key =
      ((scopeBindings collate store contextName instanceName .contextInstance).get key).or
        (if isStableLane T instanceName then
          (scopeBindings collate store contextName instanceName .context).get key else none) := by
  unfold siteSecretScopes scopeBindings
  split
  · rw [SecretStore.resolveEffectiveSecretBindings_eq, SecretStore.effectiveBindings,
      candidateRecords_pair collate store _ _ _ (by decide), List.filterMap_append, List.map_append,
      Dict.update, List.foldl_append]
    rw [SecretStore.resolveEffectiveSecretBindings_eq, SecretStore.resolveEffectiveSecretBindings_eq]
    exact Dict.get_update_or _ _ key
  · simp

/-- The value of every effective binding is read and decrypted. -/
theorem scopedSecretValues_eq_ok {store : SecretStore} {contextName instanceName : Chars}
    {scopes : Option (List SecretScope)} {secrets : Dict Chars (Chars × SecretScope)}
    (h : store.resolveScopedSecretValues collate decrypt runtimeEnvironmentSecretIntegration
      contextName instanceName scopes none = .ok secrets) :
    secrets.keys = (store.resolveEffectiveSecretBindings collate runtimeEnvironmentSecretIntegration
        contextName instanceName scopes []).keys ∧
      ∀ key pair, (store.resolveEffectiveSecretBindings collate runtimeEnvironmentSecretIntegration
          contextName instanceName scopes []).get key = some pair →
        ∃ value, currentValue decrypt store pair.2 = some value ∧
          secrets.get key = some (value, pair.2.scope) := by
  unfold SecretStore.resolveScopedSecretValues at h
  rw [List.filter_eq_self.mpr (by simp)] at h
  obtain ⟨hkeys, hget⟩ := Dict.mapValues_eq_ok h
  refine ⟨hkeys, ?_⟩
  intro key pair hpair
  obtain ⟨w, hw, hscoped⟩ := hget key pair hpair
  unfold SecretStore.readSecretVersion at hw
  cases hversion : store.versions.get pair.2.currentVersionId with
  | none =>
      rw [hversion] at hw
      cases hw
  | some version =>
      rw [hversion] at hw
      cases hvalue : decrypt version.ciphertext version.keyId with
      | error e => simp [hvalue, bind, Except.bind] at hw
      | ok value =>
          refine ⟨value, ?_, ?_⟩
          · simp [currentValue, hversion, hvalue, Except.toOption]
          · rw [hscoped]
            simp only [hvalue, bind, Except.bind, pure, Except.pure, Except.ok.injEq] at hw
            rw [← hw]

/-- What a lane's secrets give a key. -/
theorem get_scopedSecretValues {store : SecretStore} {contextName instanceName : Chars}
    {secrets : Dict Chars (Chars × SecretScope)}
    (h : store.resolveScopedSecretValues collate decrypt runtimeEnvironmentSecretIntegration
      contextName instanceName (some (siteSecretScopes T instanceName)) none = .ok secrets)
    (key : Chars) :
    (secrets.get key).map Prod.fst =
      (scopeValue collate decrypt store contextName instanceName .contextInstance key).or
        (if isStableLane T instanceName then
          scopeValue collate decrypt store contextName instanceName .context key else none) := by
  obtain ⟨hkeys, hvalues⟩ := scopedSecretValues_eq_ok collate decrypt h
  have heffective := get_resolveEffectiveSecretBindings T collate store contextName instanceName key
  unfold scopeValue
  cases hlane : (scopeBindings collate store contextName instanceName .contextInstance).get key with
  | some pair =>
      obtain ⟨value, hvalue, hscoped⟩ := hvalues key pair (by rw [heffective, hlane]; rfl)
      simp [hscoped, hvalue]
  | none =>
      rw [hlane, Option.none_or] at heffective
      have hout (hnone : (store.resolveEffectiveSecretBindings collate
          runtimeEnvironmentSecretIntegration contextName instanceName
          (some (siteSecretScopes T instanceName)) []).get key = none) : secrets.get key = none := by
        rw [Dict.get_eq_none] at hnone ⊢
        rwa [hkeys]
      split
      · rename_i hstable
        rw [if_pos hstable] at heffective
        cases hshared : (scopeBindings collate store contextName instanceName .context).get key with
        | some pair =>
            obtain ⟨value, hvalue, hscoped⟩ := hvalues key pair (by rw [heffective, hshared])
            simp [hscoped, hvalue]
        | none => simp [hout (by rw [heffective, hshared])]
      · rename_i hstable
        simp [hout (by rw [heffective, if_neg hstable])]

/-! ### The environment of the lane -/

/-- An environment, given the secrets it holds. -/
structure Rendered (store : SiteRuntimeEnvironmentStore) (contextName instanceName : Chars)
    (targetEnvironment : Mapping Chars) (secrets : Dict Chars (Chars × SecretScope))
    (env : SiteRuntimeEnvironment) : Prop where
  resolved : store.toSecretStore.resolveScopedSecretValues collate decrypt
    runtimeEnvironmentSecretIntegration contextName instanceName
    (some (siteSecretScopes T instanceName)) none = .ok secrets
  retired : env.retiredKeys = laneRetiredKeys store contextName instanceName
  values : ∀ key, env.values.get key =
    if key ∈ laneRetiredKeys store contextName instanceName then none
    else ((secrets.get key).map Prod.fst).or ((targetEnvironment.items.get key).or
      ((((instanceRecord store contextName instanceName).bind (·.env.items.get key)).map
        (·.str)).or (((contextSettings store contextName).get key).map (·.str))))
  secretKeys : env.secretKeys = secrets.keys.filter (· ∈ env.values.keys)

/-- The settings below the secrets. -/
theorem get_settings {store : SiteRuntimeEnvironmentStore} {contextName instanceName : Chars}
    {targetEnvironment : Mapping Chars} {context : RuntimeEnvironmentContextDefinition}
    (hshared : context.sharedEnv = contextSettings store contextName)
    (hinstance : context.instances.get instanceName =
      (instanceRecord store contextName instanceName).map (·.env.items)) (key : Chars) :
    (settings context instanceName targetEnvironment.items).get key =
      (targetEnvironment.items.get key).or
        ((((instanceRecord store contextName instanceName).bind (·.env.items.get key)).map
          (·.str)).or (((contextSettings store contextName).get key).map (·.str))) := by
  have hnormalize (d : Dict Chars ScalarValue) :
      (normalizeScalarMap d).get key = (d.get key).map (·.str) := Dict.get_map d _ key
  unfold settings
  rw [Dict.get_update_or_of_nodup targetEnvironment.nodup, hinstance]
  cases instanceRecord store contextName instanceName with
  | none => simp [hnormalize, hshared]
  | some record =>
      have hnodup : (normalizeScalarMap record.env.items).keys.Nodup := by
        rw [normalizeScalarMap, Dict.keys_map]
        exact record.env.nodup
      simp [Dict.get_update_or_of_nodup hnodup, hnormalize, hshared]

theorem rendered_of_resolve {store : SiteRuntimeEnvironmentStore}
    {contextName instanceName : Chars} {targetEnvironment : Mapping Chars}
    {env : SiteRuntimeEnvironment}
    (h : store.resolveSiteRuntimeEnvironment T collate decrypt contextName instanceName
      targetEnvironment = .ok env) :
    ∃ secrets, Rendered T collate decrypt store contextName instanceName targetEnvironment secrets
      env := by
  obtain ⟨context, hcontext, hshared, hinstances⟩ := loadDefinition_eq collate store contextName
  unfold SiteRuntimeEnvironmentStore.resolveSiteRuntimeEnvironment siteRuntimeEnvironment at h
  simp only [retiredProviderKeys_eq, hcontext, bind_eq_ok] at h
  obtain ⟨secrets, hsecrets, retiredKeys, hretired, -, -, henv⟩ := h
  obtain rfl := Except.ok.inj hretired
  obtain rfl := Except.ok.inj henv
  cases hresolved : store.toSecretStore.resolveScopedSecretValues collate decrypt
      runtimeEnvironmentSecretIntegration contextName instanceName
      (some (siteSecretScopes T instanceName)) none with
  | error e =>
      rw [hresolved] at hsecrets
      cases hsecrets
  | ok values =>
      rw [hresolved] at hsecrets
      obtain rfl : values = secrets := Except.ok.inj hsecrets
      have hnodup : Dict.keys (values.map fun item => (item.1, item.2.1)) |>.Nodup := by
        rw [Dict.keys_map values Prod.fst, (scopedSecretValues_eq_ok collate decrypt hresolved).1]
        rw [SecretStore.resolveEffectiveSecretBindings_eq]
        exact Dict.nodup_keys_update (by simp) _
      refine ⟨values, hresolved, rfl, ?_, ?_⟩
      · intro key
        rw [Dict.get_filter _ (fun key => decide (key ∉ _)), Dict.get_update_or_of_nodup hnodup,
          Dict.get_map values Prod.fst, get_settings hshared (hinstances instanceName)]
        simp
      · show List.filter _ (Dict.keys (values.map fun item => (item.1, item.2.1))) = _
        rw [Dict.keys_map values Prod.fst]

/-! ### What a rendered environment holds -/

/-- A key has the value of the last layer that has it, unless the lane's record retires it. -/
theorem values_of_resolve {store : SiteRuntimeEnvironmentStore}
    {contextName instanceName : Chars} {targetEnvironment : Mapping Chars}
    {env : SiteRuntimeEnvironment}
    (h : store.resolveSiteRuntimeEnvironment T collate decrypt contextName instanceName
      targetEnvironment = .ok env) (key : Chars) :
    env.values.get key =
      if key ∈ laneRetiredKeys store contextName instanceName then none
      else lastValue (laneLayers T collate decrypt store contextName instanceName
        targetEnvironment) key := by
  have hor (layer : Chars → Option Chars) (layers : List (Chars → Option Chars)) :
      (layer :: layers).findSome? (· key) = (layer key).or (layers.findSome? (· key)) := by
    rw [List.findSome?_cons]
    cases layer key <;> rfl
  obtain ⟨secrets, hrendered⟩ := rendered_of_resolve T collate decrypt h
  rw [hrendered.values key, get_scopedSecretValues T collate decrypt hrendered.resolved]
  simp only [lastValue, laneLayers, List.reverse_cons, List.reverse_nil, List.nil_append,
    List.cons_append, hor, List.findSome?_nil, Option.or_none, Option.or_assoc]

/-- The bindings that are listed as delivered. -/
theorem siteDeliveredSecretBindings_eq_ok (store : SiteRuntimeEnvironmentStore)
    (contextName instanceName : Chars) :
    ∃ delivered, store.siteDeliveredSecretBindings T collate contextName instanceName =
        .ok delivered ∧ ∀ key, delivered.get key =
      if key ∈ laneRetiredKeys store contextName instanceName then none
      else ((store.resolveEffectiveSecretBindings collate runtimeEnvironmentSecretIntegration
        contextName instanceName (some (siteSecretScopes T instanceName)) []).get key).map
          Prod.fst := by
  refine ⟨_, by rw [SiteRuntimeEnvironmentStore.siteDeliveredSecretBindings,
    retiredProviderKeys_eq]; rfl, ?_⟩
  intro key
  rw [Dict.get_map _ Prod.fst, Dict.get_filter _ (fun key => decide (key ∉ _))]
  by_cases hretired : key ∈ laneRetiredKeys store contextName instanceName
  · rw [if_pos hretired, if_neg (by simpa using hretired), Option.map_none]
  · rw [if_neg hretired, if_pos (by simpa using hretired)]

/-- The bindings that are listed as delivered are those of the secrets that are delivered. -/
theorem delivered_of_resolve {store : SiteRuntimeEnvironmentStore}
    {contextName instanceName : Chars} {targetEnvironment : Mapping Chars}
    {env : SiteRuntimeEnvironment}
    (h : store.resolveSiteRuntimeEnvironment T collate decrypt contextName instanceName
      targetEnvironment = .ok env) :
    ∃ delivered, store.siteDeliveredSecretBindings T collate contextName instanceName =
        .ok delivered ∧
      (∀ key, key ∈ delivered.keys ↔ key ∈ env.secretKeys) ∧
      ∀ key binding, delivered.get key = some binding → ∃ record ∈ store.records.rows,
        ReachesLane T contextName instanceName record ∧
          store.bindingForSecret collate record.secretId (some record.integration)
            (some record.context) (some record.instanceName) = some binding ∧
          binding.bindingKey = key ∧ env.values.get key = currentValue decrypt
            store.toSecretStore record := by
  obtain ⟨secrets, hrendered⟩ := rendered_of_resolve T collate decrypt h
  obtain ⟨hkeys, hvalues⟩ := scopedSecretValues_eq_ok collate decrypt hrendered.resolved
  obtain ⟨delivered, hdelivered, hget⟩ :=
    siteDeliveredSecretBindings_eq_ok T collate store contextName instanceName
  refine ⟨delivered, hdelivered, ?_, ?_⟩
  · intro key
    rw [hrendered.secretKeys, List.mem_filter, hkeys, decide_eq_true_eq, ← Dict.isSome_get,
      ← Dict.isSome_get, ← Dict.isSome_get, hget, hrendered.values]
    by_cases hretired : key ∈ laneRetiredKeys store contextName instanceName
    · simp [hretired]
    · simp only [if_neg hretired, Option.isSome_map]
      refine ⟨fun hsome => ⟨hsome, ?_⟩, fun hboth => hboth.1⟩
      obtain ⟨pair, hpair⟩ := Option.isSome_iff_exists.mp hsome
      obtain ⟨value, -, hvalue⟩ := hvalues key pair hpair
      simp [hvalue]
  · intro key binding hbinding
    rw [hget] at hbinding
    split at hbinding
    · cases hbinding
    · rename_i hretired
      obtain ⟨pair, hpair, rfl⟩ := Option.map_eq_some_iff.mp hbinding
      obtain ⟨value, hcurrent, hvalue⟩ := hvalues key pair hpair
      obtain ⟨hrow, hreaches, hnewest, hkey⟩ := reachesLane_of_mem T collate (Dict.mem_of_get hpair)
      refine ⟨pair.2, hrow, hreaches, hnewest, hkey, ?_⟩
      simp [hrendered.values, hretired, hvalue, hcurrent]

end Layers

end Launchplane.RuntimeEnvironment
