import Launchplane.RuntimeEnvironment.PlatformCredentials

/-!
# Launchplane.RuntimeEnvironment.Site

**The environment a site's lane runs with.** The records of the lane's context and
instance, the target's own values and the managed secrets of the lane are laid one
over the other; retired keys are dropped, and a platform credential among the
values refuses the whole environment.
-/

namespace Launchplane.RuntimeEnvironment

open Secrets

/-- A value of a runtime-environment record. A float is given by its `repr`. -/
inductive ScalarValue
  | text (value : Chars) | integer (value : Int) | float (repr : Chars) | boolean (value : Bool)
  deriving Repr, DecidableEq

/-- `str(value)`. -/
def ScalarValue.str : ScalarValue → Chars
  | text value => value
  | integer value => (toString value).toList
  | float repr => repr
  | boolean true => "True".toList
  | boolean false => "False".toList

/-- A `dict`: its keys are distinct. -/
structure Mapping (β : Type) where
  items : Dict Chars β
  nodup : items.keys.Nodup := by decide

/-- `RuntimeEnvironmentScope`. -/
inductive RuntimeEnvironmentScope
  | global | context | instance_
  deriving Repr, DecidableEq

/-- The text of a scope, by which scopes are compared. -/
def RuntimeEnvironmentScope.text : RuntimeEnvironmentScope → Chars
  | global => "global".toList
  | context => "context".toList
  | instance_ => "instance".toList

/-- `RuntimeEnvironmentRecord`. -/
structure RuntimeEnvironmentRecord where
  scope : RuntimeEnvironmentScope
  context : Chars := []
  instanceName : Chars := []
  env : Mapping ScalarValue
  retiredProviderKeys : List Chars := []

/-- The primary key of a record's row. -/
def RuntimeEnvironmentRecord.key (record : RuntimeEnvironmentRecord) :
    RuntimeEnvironmentScope × Chars × Chars :=
  (record.scope, record.context, record.instanceName)

/-- The rows a site's environment is read from. -/
structure SiteRuntimeEnvironmentStore extends SecretStore where
  environments : Table RuntimeEnvironmentRecord RuntimeEnvironmentRecord.key := .empty

/-- `RuntimeEnvironmentContextDefinition`. -/
structure RuntimeEnvironmentContextDefinition where
  sharedEnv : Dict Chars ScalarValue := []
  instances : Dict Chars (Dict Chars ScalarValue) := []

/-- `RuntimeEnvironmentDefinition`. -/
structure RuntimeEnvironmentDefinition where
  sharedEnv : Dict Chars ScalarValue := []
  contexts : Dict Chars RuntimeEnvironmentContextDefinition := []

/-- `SiteRuntimeEnvironment`. -/
structure SiteRuntimeEnvironment where
  values : Dict Chars Chars
  secretKeys : List Chars
  retiredKeys : List Chars := []
  siteKeys : List Chars := []
  settingKeys : List Chars := []
  deriving Repr, DecidableEq

/-- The exceptions of the resolver. -/
inductive SiteError
  | secret (error : SecretError)
  /-- `click.ClickException`. -/
  | click (message : String)
  /-- `MissingRuntimeContextDefinitionError`. -/
  | missingContext (contextName : Chars)
  /-- `PlatformCredentialRefusedError`. -/
  | platformCredentialRefused (target : Chars) (findings : List PlatformCredentialFinding)
  deriving Repr, DecidableEq

/-- `RuntimeEnvironmentClass`. -/
inductive RuntimeEnvironmentClass
  | prod | testing | preview | dev | unknown
  deriving Repr, DecidableEq

section Resolve

variable (T : CharacterTable)

/-- `runtime_key_safety_environment_class`. -/
def runtimeKeySafetyEnvironmentClass (instanceName : Chars) : RuntimeEnvironmentClass :=
  let normalized := (stripChars instanceName).flatMap T.lower
  if normalized ∈ ["prod".toList, "production".toList] then .prod
  else if normalized ∈ ["testing".toList, "test".toList, "staging".toList, "stage".toList] then
    .testing
  else if normalized ∈ ["preview".toList, "pr".toList] ∨ "pr-".toList.isPrefixOf normalized then
    .preview
  else if normalized ∈ ["dev".toList, "local".toList, "development".toList] then .dev
  else .unknown

/-- A lane that may receive the secrets its site shares. -/
def isStableLane (instanceName : Chars) : Bool :=
  runtimeKeySafetyEnvironmentClass T instanceName ∈
    [RuntimeEnvironmentClass.prod, RuntimeEnvironmentClass.testing]

/-- `site_secret_scopes`. -/
def siteSecretScopes (instanceName : Chars) : List SecretScope :=
  if isStableLane T instanceName then [.context, .contextInstance] else [.contextInstance]

/-- `RUNTIME_ENVIRONMENT_SECRET_INTEGRATION`. -/
def runtimeEnvironmentSecretIntegration : Chars := "runtime_environment".toList

/-- The sort key of `build_runtime_environment_definition_from_records`. -/
def environmentRank (record : RuntimeEnvironmentRecord) : Chars ×ₗ Chars ×ₗ Chars :=
  toLex (record.scope.text, toLex (record.context, record.instanceName))

/-- The step of the loop in `build_runtime_environment_definition_from_records`. -/
def addRecord (definition : RuntimeEnvironmentDefinition) (record : RuntimeEnvironmentRecord) :
    RuntimeEnvironmentDefinition :=
  let known := (definition.contexts.get record.context).getD {}
  match record.scope with
  | .global => { definition with sharedEnv := definition.sharedEnv.update record.env.items }
  | .context =>
    { definition with
      contexts := definition.contexts.set record.context
        { known with sharedEnv := known.sharedEnv.update record.env.items } }
  | .instance_ =>
    { definition with
      contexts := definition.contexts.set record.context
        { known with instances := known.instances.set record.instanceName record.env.items } }

/-- `build_runtime_environment_definition_from_records`. -/
def buildRuntimeEnvironmentDefinition (records : List RuntimeEnvironmentRecord) :
    RuntimeEnvironmentDefinition :=
  (sortedBy environmentRank records).foldl addRecord {}

/-- `_normalize_scalar_map`. -/
def normalizeScalarMap (values : Dict Chars ScalarValue) : Dict Chars Chars :=
  values.map fun item => (item.1, item.2.str)

/-- `_record_layers` without the global one: the keys of every layer, with its label. -/
def recordLayers (definition : RuntimeEnvironmentDefinition) (contextName instanceName : Chars)
    (targetEnv : Dict Chars Chars) : List (List Chars × Chars) :=
  let lane := contextName ++ '/' :: instanceName
  (match definition.contexts.get contextName with
    | none => []
    | some context =>
      (context.sharedEnv.keys,
        "the ".toList ++ contextName ++ " context runtime-environment record".toList) ::
      match context.instances.get instanceName with
      | none => []
      | some env =>
        [(env.keys, "the ".toList ++ lane ++ " instance runtime-environment record".toList)]) ++
    [(targetEnv.keys, "the ".toList ++ lane ++ " generation resources".toList)]

/-- The label of the last layer that has each key. -/
def layerSources (layers : List (List Chars × Chars)) : Dict Chars Chars :=
  layers.foldl (fun sources layer =>
    layer.1.foldl (fun sources key => sources.set key layer.2) sources) []

/-- `_refuse_platform_credentials`. -/
def refusePlatformCredentials (values sources : Dict Chars Chars) (target : Chars) :
    Except SiteError Unit :=
  let findings := (findPlatformCredentials values).map fun finding =>
    { finding with
      source := (sources.get finding.key).getD "an unattributed runtime value".toList }
  raiseIf (findings ≠ []) (.platformCredentialRefused target findings)

/-- The values `_site_runtime_environment` has before the secrets. -/
def settings (context : RuntimeEnvironmentContextDefinition) (instanceName : Chars)
    (targetEnvironment : Dict Chars Chars) : Dict Chars Chars :=
  let shared := normalizeScalarMap context.sharedEnv
  let recorded := match context.instances.get instanceName with
    | none => shared
    | some env => shared.update (normalizeScalarMap env)
  recorded.update targetEnvironment

/-- `_site_runtime_environment`. -/
def siteRuntimeEnvironment (definition : RuntimeEnvironmentDefinition)
    (contextName instanceName : Chars) (targetEnvironment secretValues : Dict Chars Chars)
    (secretSources : Dict Chars Chars) (retiredKeys : List Chars) :
    Except SiteError SiteRuntimeEnvironment :=
  match definition.contexts.get contextName with
  | none => .error (.missingContext contextName)
  | some context => do
    let settings := settings context instanceName targetEnvironment
    let site := settings.update secretValues
    let values : Dict Chars Chars := site.filter (·.1 ∉ retiredKeys)
    let sources := (layerSources (recordLayers definition contextName instanceName
      targetEnvironment)).update (secretValues.keys.map fun key => (key,
        (secretSources.get key).getD "a site runtime-environment managed secret".toList))
    refusePlatformCredentials values sources (contextName ++ '/' :: instanceName)
    return {
      values
      secretKeys := secretValues.keys.filter (· ∈ values.keys)
      retiredKeys
      siteKeys := site.keys
      settingKeys := settings.keys }

variable {κ : Type} [LinearOrder κ] (collate : Chars ↪ κ)

namespace SiteRuntimeEnvironmentStore

/-- `list_runtime_environment_records`. -/
def listRuntimeEnvironmentRecords (store : SiteRuntimeEnvironmentStore)
    (contextName instanceName : Chars) : List RuntimeEnvironmentRecord :=
  sortedBy (fun record => toLex (collate record.scope.text,
      toLex (collate record.context, collate record.instanceName)))
    (store.environments.rows.filter fun record =>
      matchesFilter contextName record.context && matchesFilter instanceName record.instanceName)

/-- `retired_provider_keys_from_store`. -/
def retiredProviderKeys (store : SiteRuntimeEnvironmentStore) (contextName instanceName : Chars) :
    Except SiteError (List Chars) :=
  let records := (store.listRuntimeEnvironmentRecords collate contextName instanceName).filter
    fun record => record.scope = .instance_ ∧ record.context = contextName ∧
      record.instanceName = instanceName
  if 1 < records.length then
    .error (.click "Ambiguous instance runtime environment records.")
  else .ok ((records.head?.map (·.retiredProviderKeys)).getD [])

/-- `load_optional_runtime_environment_definition_from_store`, with the context added when no record
has it. -/
def loadDefinition (store : SiteRuntimeEnvironmentStore) (contextName : Chars) :
    RuntimeEnvironmentDefinition :=
  let records := store.listRuntimeEnvironmentRecords collate [] []
  let definition := if records = [] then {} else buildRuntimeEnvironmentDefinition records
  match definition.contexts.get contextName with
  | some _ => definition
  | none => { definition with contexts := definition.contexts.set contextName {} }

/-- `scope_labels`. -/
def scopeLabel (contextName instanceName : Chars) : SecretScope → Chars
  | .global => "a global".toList
  | .context => "a ".toList ++ contextName ++ " context".toList
  | .contextInstance => "a ".toList ++ contextName ++ '/' :: instanceName ++ " instance".toList

/-- `resolve_site_runtime_environment_from_store`. -/
def resolveSiteRuntimeEnvironment (decrypt : Chars → Chars → Except SecretError Chars)
    (store : SiteRuntimeEnvironmentStore) (contextName instanceName : Chars)
    (targetEnvironment : Mapping Chars) : Except SiteError SiteRuntimeEnvironment := do
  let scopedSecretValues ← (store.resolveScopedSecretValues collate decrypt
    runtimeEnvironmentSecretIntegration contextName instanceName
    (some (siteSecretScopes T instanceName)) none).mapError .secret
  let retiredKeys ← store.retiredProviderKeys collate contextName instanceName
  siteRuntimeEnvironment (store.loadDefinition collate contextName) contextName instanceName
    targetEnvironment.items (scopedSecretValues.map fun item => (item.1, item.2.1))
    (scopedSecretValues.map fun item => (item.1,
      scopeLabel contextName instanceName item.2.2 ++
        " runtime-environment managed secret".toList))
    retiredKeys

/-- `site_delivered_secret_bindings_from_store`. -/
def siteDeliveredSecretBindings (store : SiteRuntimeEnvironmentStore)
    (contextName instanceName : Chars) : Except SiteError (Dict Chars SecretBinding) := do
  let selected := store.resolveEffectiveSecretBindings collate runtimeEnvironmentSecretIntegration
    contextName instanceName (some (siteSecretScopes T instanceName)) []
  let retiredKeys ← store.retiredProviderKeys collate contextName instanceName
  return (selected.filter (·.1 ∉ retiredKeys)).map fun item => (item.1, item.2.1)

end SiteRuntimeEnvironmentStore

end Resolve

end Launchplane.RuntimeEnvironment
