import Launchplane.RuntimeEnvironment.Layers

/-!
# Launchplane.RuntimeEnvironment.Isolation

**A site's environment depends on its own rows only.** Two stores that agree on
the rows of a lane (`AgreeOnLane`) give it the same environment or the same
refusal, whatever else they hold (`isolated_of_agreeOnLane`).
-/

namespace Launchplane.RuntimeEnvironment

open Secrets

section Isolation

variable {T : CharacterTable} {κ : Type} [LinearOrder κ] {collate : Chars ↪ κ}
  {decrypt : Chars → Chars → Except SecretError Chars}

/-- Two stores hold the same rows for a lane. -/
structure AgreeOnLane (T : CharacterTable) (contextName instanceName : Chars)
    (store store' : SiteRuntimeEnvironmentStore) : Prop where
  environments : ∀ record : RuntimeEnvironmentRecord, record.context = contextName →
    record.scope = .context ∨ record.scope = .instance_ ∧ record.instanceName = instanceName →
      (record ∈ store.environments.rows ↔ record ∈ store'.environments.rows)
  records : ∀ record, ReachesLane T contextName instanceName record →
    (record ∈ store.records.rows ↔ record ∈ store'.records.rows)
  bindings : ∀ record ∈ store.records.rows, ReachesLane T contextName instanceName record →
    ∀ binding, SecretStore.Binds record binding →
      (binding ∈ store.bindings.rows ↔ binding ∈ store'.bindings.rows)
  versions : ∀ record ∈ store.records.rows, ReachesLane T contextName instanceName record →
    store.versions.get record.currentVersionId = store'.versions.get record.currentVersionId

namespace AgreeOnLane

variable {contextName instanceName : Chars} {store store' : SiteRuntimeEnvironmentStore}

/-! ### The settings -/

theorem contextSettings_eq (h : AgreeOnLane T contextName instanceName store store') :
    contextSettings store contextName = contextSettings store' contextName := by
  unfold contextSettings
  congr 1
  refine sortedBy_ext ((ranked_environments store).subset (List.filter_subset_self _))
    (store.environments.nodup_rows.filter _) (store'.environments.nodup_rows.filter _) ?_
  intro record
  rw [List.mem_filter, List.mem_filter]
  refine and_congr_left ?_
  intro hrecord
  simp only [IsContextRecord, decide_eq_true_eq] at hrecord
  exact h.environments record hrecord.2 (.inl hrecord.1)

theorem instanceRecord_eq (h : AgreeOnLane T contextName instanceName store store') :
    instanceRecord store contextName instanceName =
      instanceRecord store' contextName instanceName := by
  refine Option.ext ?_
  intro record
  unfold instanceRecord
  rw [Table.get_eq_some, Table.get_eq_some]
  refine and_congr_left ?_
  intro hkey
  simp only [RuntimeEnvironmentRecord.key, Prod.mk.injEq] at hkey
  exact h.environments record hkey.2.1 (.inr ⟨hkey.1, hkey.2.2⟩)

/-! ### The secrets -/

theorem candidateRecords_eq (h : AgreeOnLane T contextName instanceName store store') :
    store.candidateRecords collate runtimeEnvironmentSecretIntegration contextName instanceName
        (some (siteSecretScopes T instanceName)) =
      store'.candidateRecords collate runtimeEnvironmentSecretIntegration contextName instanceName
        (some (siteSecretScopes T instanceName)) := by
  have hnodup (s : SecretStore) : (((s.listSecretRecords collate runtimeEnvironmentSecretIntegration
      [] []).filter fun record => record.status = .configured ∧
        scopeMatchesRecord record contextName instanceName = true ∧
          ∀ allowed ∈ some (siteSecretScopes T instanceName), record.scope ∈ allowed)).Nodup :=
    (nodup_sortedBy _ (s.records.nodup_rows.filter _)).filter _
  have hmem (s : SecretStore) (record : SecretRecord) :=
    @mem_laneCandidates T κ _ collate s contextName instanceName record
  unfold SecretStore.candidateRecords at hmem ⊢
  simp only [mem_sortedBy] at hmem
  refine sortedBy_ext ((SecretStore.ranked_candidates store.toSecretStore).subset ?_) (hnodup _)
    (hnodup _) ?_
  · intro record hrecord
    exact ((hmem _ record).mp hrecord).1
  · intro record
    rw [hmem, hmem]
    exact and_congr_left (h.records record)

theorem bindingForSecret_eq (h : AgreeOnLane T contextName instanceName store store')
    {record : SecretRecord} (hrow : record ∈ store.records.rows)
    (hreaches : ReachesLane T contextName instanceName record) :
    store.bindingForSecret collate record.secretId (some record.integration)
        (some record.context) (some record.instanceName) =
      store'.bindingForSecret collate record.secretId (some record.integration)
        (some record.context) (some record.instanceName) := by
  have hbinding := h.bindings record hrow hreaches
  refine Option.ext ?_
  intro binding
  rw [SecretStore.bindingForSecret_eq_some, SecretStore.bindingForSecret_eq_some]
  constructor
  · intro ⟨hmem, hbinds, hnewest⟩
    refine ⟨(hbinding binding hbinds).mp hmem, hbinds, ?_⟩
    intro other hother hbound
    exact hnewest other ((hbinding other hbound).mpr hother) hbound
  · intro ⟨hmem, hbinds, hnewest⟩
    refine ⟨(hbinding binding hbinds).mpr hmem, hbinds, ?_⟩
    intro other hother hbound
    exact hnewest other ((hbinding other hbound).mp hother) hbound

theorem resolveEffectiveSecretBindings_eq
    (h : AgreeOnLane T contextName instanceName store store') :
    store.resolveEffectiveSecretBindings collate runtimeEnvironmentSecretIntegration contextName
        instanceName (some (siteSecretScopes T instanceName)) [] =
      store'.resolveEffectiveSecretBindings collate runtimeEnvironmentSecretIntegration contextName
        instanceName (some (siteSecretScopes T instanceName)) [] := by
  unfold SecretStore.resolveEffectiveSecretBindings SecretStore.effectiveBindings
  rw [← h.candidateRecords_eq]
  congr 1
  refine List.filterMap_congr ?_
  intro record hrecord
  obtain ⟨hrow, hreaches⟩ := (mem_laneCandidates T collate).mp hrecord
  rw [SecretStore.candidateBinding, SecretStore.candidateBinding,
    h.bindingForSecret_eq hrow hreaches]

theorem resolveScopedSecretValues_eq (h : AgreeOnLane T contextName instanceName store store') :
    store.resolveScopedSecretValues collate decrypt runtimeEnvironmentSecretIntegration contextName
        instanceName (some (siteSecretScopes T instanceName)) none =
      store'.resolveScopedSecretValues collate decrypt runtimeEnvironmentSecretIntegration
        contextName instanceName (some (siteSecretScopes T instanceName)) none := by
  unfold SecretStore.resolveScopedSecretValues
  rw [← h.resolveEffectiveSecretBindings_eq]
  refine Dict.mapValues_congr ?_
  intro item hitem
  obtain ⟨hrow, hreaches, -⟩ := reachesLane_of_mem T collate (List.mem_of_mem_filter hitem)
  rw [SecretStore.readSecretVersion, SecretStore.readSecretVersion, h.versions _ hrow hreaches]

/-! ### The environment -/

omit [LinearOrder κ] in
/-- Of the definition only the context's values and those of the instance are used. -/
theorem siteRuntimeEnvironment_congr {definition definition' : RuntimeEnvironmentDefinition}
    {context context' : RuntimeEnvironmentContextDefinition}
    (hcontext : definition.contexts.get contextName = some context)
    (hcontext' : definition'.contexts.get contextName = some context')
    (hshared : context.sharedEnv = context'.sharedEnv)
    (hinstance : context.instances.get instanceName = context'.instances.get instanceName)
    (targetEnvironment secretValues secretSources : Dict Chars Chars) (retiredKeys : List Chars) :
    siteRuntimeEnvironment definition contextName instanceName targetEnvironment secretValues
        secretSources retiredKeys =
      siteRuntimeEnvironment definition' contextName instanceName targetEnvironment secretValues
        secretSources retiredKeys := by
  have hsettings : settings context instanceName targetEnvironment =
      settings context' instanceName targetEnvironment := by
    unfold settings
    rw [hshared, hinstance]
  have hlayers : recordLayers definition contextName instanceName targetEnvironment =
      recordLayers definition' contextName instanceName targetEnvironment := by
    unfold recordLayers
    simp only [hcontext, hcontext', hshared, hinstance]
  unfold siteRuntimeEnvironment
  simp only [hcontext, hcontext', hsettings, hlayers]

theorem resolveSiteRuntimeEnvironment_eq (h : AgreeOnLane T contextName instanceName store store')
    (targetEnvironment : Mapping Chars) :
    store.resolveSiteRuntimeEnvironment T collate decrypt contextName instanceName
        targetEnvironment =
      store'.resolveSiteRuntimeEnvironment T collate decrypt contextName instanceName
        targetEnvironment := by
  obtain ⟨context, hcontext, hshared, hinstances⟩ := loadDefinition_eq collate store contextName
  obtain ⟨context', hcontext', hshared', hinstances'⟩ :=
    loadDefinition_eq collate store' contextName
  unfold SiteRuntimeEnvironmentStore.resolveSiteRuntimeEnvironment
  rw [← h.resolveScopedSecretValues_eq, retiredProviderKeys_eq, retiredProviderKeys_eq,
    laneRetiredKeys, laneRetiredKeys, h.instanceRecord_eq]
  refine congrArg (_ >>= ·) (funext fun secrets => congrArg (_ >>= ·) (funext fun retiredKeys => ?_))
  refine siteRuntimeEnvironment_congr hcontext hcontext' ?_ ?_ _ _ _ _
  · rw [hshared, hshared', h.contextSettings_eq]
  · rw [hinstances, hinstances', h.instanceRecord_eq]

theorem siteDeliveredSecretBindings_eq (h : AgreeOnLane T contextName instanceName store store') :
    store.siteDeliveredSecretBindings T collate contextName instanceName =
      store'.siteDeliveredSecretBindings T collate contextName instanceName := by
  unfold SiteRuntimeEnvironmentStore.siteDeliveredSecretBindings
  rw [h.resolveEffectiveSecretBindings_eq, retiredProviderKeys_eq, retiredProviderKeys_eq,
    laneRetiredKeys, laneRetiredKeys, h.instanceRecord_eq]

end AgreeOnLane

/-- **Site environments do not leak across scopes**: what a lane gets depends on its own rows only,
each key has the value of the last layer that has it, and the bindings that are listed as delivered
are the delivered ones. -/
theorem isolated_of_agreeOnLane {contextName instanceName : Chars}
    {store store' : SiteRuntimeEnvironmentStore}
    (h : AgreeOnLane T contextName instanceName store store') (targetEnvironment : Mapping Chars) :
    store.resolveSiteRuntimeEnvironment T collate decrypt contextName instanceName
        targetEnvironment =
      store'.resolveSiteRuntimeEnvironment T collate decrypt contextName instanceName
        targetEnvironment ∧
    store.siteDeliveredSecretBindings T collate contextName instanceName =
      store'.siteDeliveredSecretBindings T collate contextName instanceName ∧
    ∀ env, store.resolveSiteRuntimeEnvironment T collate decrypt contextName instanceName
        targetEnvironment = .ok env →
      (∀ key, env.values.get key =
        if key ∈ laneRetiredKeys store contextName instanceName then none
        else lastValue (laneLayers T collate decrypt store contextName instanceName
          targetEnvironment) key) ∧
      ∃ delivered, store.siteDeliveredSecretBindings T collate contextName instanceName =
          .ok delivered ∧
        (∀ key, key ∈ delivered.keys ↔ key ∈ env.secretKeys) ∧
        ∀ key binding, delivered.get key = some binding → ∃ record ∈ store.records.rows,
          ReachesLane T contextName instanceName record ∧
            store.bindingForSecret collate record.secretId (some record.integration)
              (some record.context) (some record.instanceName) = some binding ∧
            binding.bindingKey = key ∧
              env.values.get key = currentValue decrypt store.toSecretStore record := by
  refine ⟨h.resolveSiteRuntimeEnvironment_eq targetEnvironment, h.siteDeliveredSecretBindings_eq,
    ?_⟩
  intro env henv
  exact ⟨values_of_resolve T collate decrypt henv, delivered_of_resolve T collate decrypt henv⟩

end Isolation

/-! ### A preview -/

section Sample

/-- The preview's own secret. -/
private def previewSecret : SecretRecord :=
  { scope := .contextInstance, integration := runtimeEnvironmentSecretIntegration
    name := "db_password".toList, context := "cm".toList, instanceName := "preview".toList
    secretId := "secret-1".toList, currentVersionId := "version-1".toList, createdAt := 1
    updatedAt := 1 }

/-- The secret the site shares. -/
private def sharedSecret : SecretRecord :=
  { previewSecret with
    scope := .context, instanceName := [], secretId := "secret-2".toList
    currentVersionId := "version-2".toList }

/-- The version of a secret, with its value in the clear. -/
private def sampleVersion (record : SecretRecord) (value : Chars) : SecretVersion :=
  { versionId := record.currentVersionId, secretId := record.secretId, createdAt := 1
    keyId := [], ciphertext := value }

/-- The binding of a secret. -/
private def sampleBinding (record : SecretRecord) : SecretBinding :=
  { bindingId := record.secretId, secretId := record.secretId, integration := record.integration
    bindingKey := "DB_PASSWORD".toList, context := record.context
    instanceName := record.instanceName, createdAt := 1, updatedAt := 1 }

/-- A record of every lane. -/
private def everywhere : RuntimeEnvironmentRecord :=
  { scope := .global, env := { items := [("REGION".toList, .text "eu".toList)] } }

/-- The preview's settings. -/
private def previewSettings : RuntimeEnvironmentRecord :=
  { scope := .instance_, context := "cm".toList, instanceName := "preview".toList
    env := { items := [("WORKERS".toList, .integer 2)] } }

/-- The rows of the preview. -/
private def previewStore : SiteRuntimeEnvironmentStore where
  records := Table.empty.merge previewSecret
  versions := Table.empty.merge (sampleVersion previewSecret "one".toList)
  bindings := Table.empty.merge (sampleBinding previewSecret)
  environments := Table.empty.merge previewSettings

/-- The rows of a site with the preview. -/
private def siteStore : SiteRuntimeEnvironmentStore where
  records := previewStore.records.merge sharedSecret
  versions := previewStore.versions.merge (sampleVersion sharedSecret "two".toList)
  bindings := previewStore.bindings.merge (sampleBinding sharedSecret)
  environments := previewStore.environments.merge everywhere

private theorem agreeOnLane_sample :
    AgreeOnLane .ascii "cm".toList "preview".toList previewStore siteStore := by
  have hstable : isStableLane .ascii "preview".toList = false := by decide +kernel
  have hsecrets : previewStore.records.rows = [previewSecret] := rfl
  have hsettings : previewStore.environments.rows = [previewSettings] := rfl
  have hbindings : previewStore.bindings.rows = [sampleBinding previewSecret] := rfl
  refine ⟨?_, ?_, ?_, ?_⟩
  · intro record _ hscope
    have hglobal : record ≠ everywhere := by
      intro heq
      simp [heq, everywhere] at hscope
    have hkey : previewSettings.key ≠ everywhere.key := by decide
    show _ ↔ record ∈ (previewStore.environments.merge everywhere).rows
    rw [Table.mem_merge, hsettings, List.mem_singleton]
    simp only [hglobal, or_false]
    exact ⟨fun heq => ⟨heq, heq ▸ hkey⟩, fun h => h.1⟩
  · intro record hreaches
    have hshared : record ≠ sharedSecret := by
      intro heq
      rcases hreaches.2.2.2 with ⟨hscope, -⟩ | ⟨hlane, -⟩
      · rw [heq] at hscope
        exact absurd hscope (by decide)
      · rw [hstable] at hlane
        cases hlane
    have hkey : previewSecret.secretId ≠ sharedSecret.secretId := by decide
    show _ ↔ record ∈ (previewStore.records.merge sharedSecret).rows
    rw [Table.mem_merge, hsecrets, List.mem_singleton]
    simp only [hshared, or_false]
    exact ⟨fun heq => ⟨heq, heq ▸ hkey⟩, fun h => h.1⟩
  · intro record hrow _ binding hbinds
    rw [hsecrets, List.mem_singleton] at hrow
    have hshared : binding ≠ sampleBinding sharedSecret := by
      intro heq
      rw [hrow, heq] at hbinds
      exact absurd hbinds.1 (by decide)
    have hkey : (sampleBinding previewSecret).bindingId ≠
      (sampleBinding sharedSecret).bindingId := by decide
    show _ ↔ binding ∈ (previewStore.bindings.merge (sampleBinding sharedSecret)).rows
    rw [Table.mem_merge, hbindings, List.mem_singleton]
    simp only [hshared, or_false]
    exact ⟨fun heq => ⟨heq, heq ▸ hkey⟩, fun h => h.1⟩
  · intro record hrow _
    rw [hsecrets, List.mem_singleton] at hrow
    rw [hrow]
    decide +kernel

/-- The preview gets its own value of the secret, also where the site shares another one. -/
theorem isolated_of_agreeOnLane_preview :
    ∃ env, siteStore.resolveSiteRuntimeEnvironment .ascii (Function.Embedding.refl Chars)
        (fun ciphertext _ => .ok ciphertext) "cm".toList "preview".toList { items := [] } =
          .ok env ∧
      env.values = [("WORKERS".toList, "2".toList), ("DB_PASSWORD".toList, "one".toList)] := by
  refine ⟨{ values := [("WORKERS".toList, "2".toList), ("DB_PASSWORD".toList, "one".toList)]
            secretKeys := ["DB_PASSWORD".toList], retiredKeys := []
            siteKeys := ["WORKERS".toList, "DB_PASSWORD".toList]
            settingKeys := ["WORKERS".toList] }, ?_, rfl⟩
  rw [← (isolated_of_agreeOnLane agreeOnLane_sample { items := [] }).1]
  decide +kernel

end Sample

end Launchplane.RuntimeEnvironment
