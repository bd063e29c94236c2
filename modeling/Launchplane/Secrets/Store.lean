import Launchplane.Dict
import Launchplane.Table
import Launchplane.Secrets.Slug
import Mathlib.Data.Char
import Mathlib.Data.List.Lex

/-!
# Launchplane.Secrets.Store

**The secret store, and which binding supplies a key.** Records, versions and
bindings are rows with primary keys. A record is found by the exact identity of
its secret; a binding is looked up by the id of its secret. For a lane the
records that reach it are taken from the widest scope to the narrowest, and each
one supplies the key of its newest binding.

Times are instants, in the unit the store keeps them. The database compares ids
by its collation, which is given by a sort key; Python compares them by code
points.
-/

namespace Launchplane.Secrets

/-- `SecretScope`. -/
inductive SecretScope
  | global | context | contextInstance
  deriving Repr, DecidableEq

/-- `SecretStatus`. -/
inductive SecretStatus
  | configured | disabled
  deriving Repr, DecidableEq

/-- `SecretValueOrigin`. -/
inductive SecretValueOrigin
  | supplied | provider | generated
  deriving Repr, DecidableEq

/-- The identity of a secret. -/
structure SecretIdentity where
  scope : SecretScope
  integration : Chars
  name : Chars
  context : Chars := []
  instanceName : Chars := []
  deriving Repr, DecidableEq

/-- `SecretRecord`. An empty `last_validated_at` is `none`. -/
structure SecretRecord extends SecretIdentity where
  secretId : Chars
  description : Chars := []
  status : SecretStatus := .configured
  currentVersionId : Chars
  createdAt : Nat
  updatedAt : Nat
  lastValidatedAt : Option Nat := none
  updatedBy : Chars := []
  deriving Repr, DecidableEq

/-- `SecretVersion`. -/
structure SecretVersion where
  versionId : Chars
  secretId : Chars
  createdAt : Nat
  createdBy : Chars := []
  keyId : Chars
  ciphertext : Chars
  valueOrigin : Option SecretValueOrigin := none
  deriving Repr, DecidableEq

/-- `SecretBinding`. -/
structure SecretBinding where
  bindingId : Chars
  secretId : Chars
  integration : Chars
  bindingKey : Chars
  context : Chars := []
  instanceName : Chars := []
  status : SecretStatus := .configured
  createdAt : Nat
  updatedAt : Nat
  deriving Repr, DecidableEq

/-- The rows of the secret tables. -/
structure SecretStore where
  records : Table SecretRecord SecretRecord.secretId := .empty
  versions : Table SecretVersion SecretVersion.versionId := .empty
  bindings : Table SecretBinding SecretBinding.bindingId := .empty

/-- The exceptions of the secret store. -/
inductive SecretError
  /-- `click.ClickException`. -/
  | click (message : String)
  /-- `ValidationError`. -/
  | validation (message : String)
  /-- `FileNotFoundError`. -/
  | notFound (table : String)
  deriving Repr, DecidableEq

section Reads

variable {κ : Type} [LinearOrder κ] (collate : Chars ↪ κ)

/-- The order of the listings: the newest row first. -/
def recordRank (record : SecretRecord) : (ℕ ×ₗ κ)ᵒᵈ :=
  OrderDual.toDual (toLex (record.updatedAt, collate record.secretId))

/-- The order of the listings: the newest row first. -/
def bindingRank (binding : SecretBinding) : (ℕ ×ₗ κ)ᵒᵈ :=
  OrderDual.toDual (toLex (binding.updatedAt, collate binding.bindingId))

/-- A filter of a listing, which is left out when it is empty. -/
def matchesFilter (filter value : Chars) : Bool := filter = [] ∨ value = filter

namespace SecretStore

/-- `find_secret_record`. -/
def findSecretRecord (store : SecretStore) (identity : SecretIdentity) : Option SecretRecord :=
  (sortedBy (recordRank collate)
    (store.records.rows.filter (·.toSecretIdentity = identity))).head?

/-- `list_secret_records`. -/
def listSecretRecords (store : SecretStore) (integration context instanceName : Chars) :
    List SecretRecord :=
  sortedBy (recordRank collate) (store.records.rows.filter fun record =>
    matchesFilter integration record.integration && matchesFilter context record.context &&
      matchesFilter instanceName record.instanceName)

/-- `list_secret_bindings`. -/
def listSecretBindings (store : SecretStore) (integration context instanceName : Chars) :
    List SecretBinding :=
  sortedBy (bindingRank collate) (store.bindings.rows.filter fun binding =>
    matchesFilter integration binding.integration && matchesFilter context binding.context &&
      matchesFilter instanceName binding.instanceName)

/-- `read_secret_version`. -/
def readSecretVersion (store : SecretStore) (versionId : Chars) : Except SecretError SecretVersion :=
  match store.versions.get versionId with
  | some version => .ok version
  | none => .error (.notFound "launchplane_secret_versions")

/-! ### The binding that supplies a key -/

/-- `_binding_for_secret`. -/
def bindingForSecret (store : SecretStore) (secretId : Chars)
    (integration context instanceName : Option Chars) : Option SecretBinding :=
  (store.listSecretBindings collate (integration.getD []) (context.getD [])
    (instanceName.getD [])).find? fun binding =>
      binding.secretId = secretId ∧ binding.status = .configured ∧
        (∀ value ∈ integration, binding.integration = value) ∧
        (∀ value ∈ context, binding.context = value) ∧
        ∀ value ∈ instanceName, binding.instanceName = value

end SecretStore

/-- `_scope_matches_record`. -/
def scopeMatchesRecord (record : SecretRecord) (context instanceName : Chars) : Bool :=
  match record.scope with
  | .global => true
  | .context => record.context = context
  | .contextInstance => record.context = context ∧ record.instanceName = instanceName

/-- `_scope_rank`. -/
def scopeRank : SecretScope → Nat
  | .global => 0
  | .context => 1
  | .contextInstance => 2

/-- The sort key of `candidate_records`. -/
def candidateRank (record : SecretRecord) : ℕ ×ₗ ℕ ×ₗ Chars :=
  toLex (scopeRank record.scope, toLex (record.updatedAt, record.secretId))

namespace SecretStore

/-- `candidate_records`: the records that reach the lane, from the widest scope to the narrowest. -/
def candidateRecords (store : SecretStore) (integration context instanceName : Chars)
    (scopes : Option (List SecretScope)) : List SecretRecord :=
  sortedBy candidateRank ((store.listSecretRecords collate integration [] []).filter fun record =>
    record.status = .configured ∧ scopeMatchesRecord record context instanceName = true ∧
      ∀ allowed ∈ scopes, record.scope ∈ allowed)

/-- The binding of one candidate, unless it is excluded. -/
def candidateBinding (store : SecretStore) (excludedBindingIds : List Chars)
    (record : SecretRecord) : Option (SecretBinding × SecretRecord) :=
  match store.bindingForSecret collate record.secretId (some record.integration)
      (some record.context) (some record.instanceName) with
  | none => none
  | some binding =>
    if binding.bindingId ∈ excludedBindingIds then none else some (binding, record)

/-- The bindings the loop of `resolve_effective_secret_bindings_from_store` writes, in its order. -/
def effectiveBindings (store : SecretStore) (integration context instanceName : Chars)
    (scopes : Option (List SecretScope)) (excludedBindingIds : List Chars) :
    List (SecretBinding × SecretRecord) :=
  (store.candidateRecords collate integration context instanceName scopes).filterMap
    (store.candidateBinding collate excludedBindingIds)

/-- `resolve_effective_secret_bindings_from_store`. -/
def resolveEffectiveSecretBindings (store : SecretStore) (integration context instanceName : Chars)
    (scopes : Option (List SecretScope)) (excludedBindingIds : List Chars) :
    Dict Chars (SecretBinding × SecretRecord) :=
  (store.effectiveBindings collate integration context instanceName scopes
    excludedBindingIds).foldl (fun effective pair => effective.set pair.1.bindingKey pair) []

/-- `resolve_scoped_secret_values_for_integration_from_store`. -/
def resolveScopedSecretValues (decrypt : Chars → Chars → Except SecretError Chars)
    (store : SecretStore) (integration context instanceName : Chars)
    (scopes : Option (List SecretScope)) (bindingKeys : Option (List Chars)) :
    Except SecretError (Dict Chars (Chars × SecretScope)) :=
  Dict.mapValues
    (fun _ pair => do
      let version ← store.readSecretVersion pair.2.currentVersionId
      let value ← decrypt version.ciphertext version.keyId
      return (value, pair.2.scope))
    ((store.resolveEffectiveSecretBindings collate integration context instanceName scopes
      []).filter fun item => ∀ keys ∈ bindingKeys, item.1 ∈ keys)

/-! ### What is selected -/

omit [LinearOrder κ] in
theorem ranked_bindings (store : SecretStore) :
    Ranked (bindingRank collate) store.bindings.rows := by
  intro a ha b hb h
  have hid : collate a.bindingId = collate b.bindingId := by
    simpa [bindingRank] using congrArg (fun rank => (ofLex (OrderDual.ofDual rank)).2) h
  exact store.bindings.eq_of_key_eq ha hb (collate.injective hid)

theorem ranked_candidates (store : SecretStore) : Ranked candidateRank store.records.rows := by
  intro a ha b hb h
  have hid : a.secretId = b.secretId := by
    simpa [candidateRank] using congrArg (fun rank => (ofLex (ofLex rank).2).2) h
  exact store.records.eq_of_key_eq ha hb hid

/-- A binding of the secret that has this id. -/
def Binds (record : SecretRecord) (binding : SecretBinding) : Prop :=
  binding.secretId = record.secretId ∧ binding.status = .configured ∧
    binding.integration = record.integration ∧ binding.context = record.context ∧
    binding.instanceName = record.instanceName

/-- The binding of a record is its newest one. -/
theorem bindingForSecret_eq_some {store : SecretStore} {record : SecretRecord}
    {binding : SecretBinding} :
    store.bindingForSecret collate record.secretId (some record.integration)
        (some record.context) (some record.instanceName) = some binding ↔
      binding ∈ store.bindings.rows ∧ Binds record binding ∧
        ∀ other ∈ store.bindings.rows, Binds record other →
          bindingRank collate binding ≤ bindingRank collate other := by
  have hranked := ranked_bindings collate store
  have hbinds (other : SecretBinding) :
      ((matchesFilter record.integration other.integration &&
          matchesFilter record.context other.context &&
            matchesFilter record.instanceName other.instanceName) = true ∧
        (other.secretId = record.secretId ∧ other.status = .configured ∧
          (∀ value ∈ some record.integration, other.integration = value) ∧
          (∀ value ∈ some record.context, other.context = value) ∧
          ∀ value ∈ some record.instanceName, other.instanceName = value)) ↔
        Binds record other := by
    simp only [matchesFilter, Binds, Bool.and_eq_true, decide_eq_true_eq, Option.mem_some_iff,
      forall_eq']
    constructor
    · exact fun h => h.2
    · exact fun h => ⟨⟨⟨.inr h.2.2.1, .inr h.2.2.2.1⟩, .inr h.2.2.2.2⟩, h⟩
  unfold bindingForSecret listSecretBindings
  rw [find?_sortedBy (hranked.subset (List.filter_subset_self _))]
  simp only [List.mem_filter, decide_eq_true_eq, Option.getD_some]
  constructor
  · intro ⟨hmem, hp, hfirst⟩
    refine ⟨hmem.1, (hbinds binding).mp ⟨hmem.2, hp⟩, ?_⟩
    intro other hother hbound
    obtain ⟨hfilter, hp'⟩ := (hbinds other).mpr hbound
    exact hfirst other ⟨hother, hfilter⟩ hp'
  · intro ⟨hmem, hbound, hfirst⟩
    obtain ⟨hfilter, hp⟩ := (hbinds binding).mpr hbound
    refine ⟨⟨hmem, hfilter⟩, hp, ?_⟩
    intro other hother hp'
    exact hfirst other hother.1 ((hbinds other).mp ⟨hother.2, hp'⟩)

/-- The records that reach a lane. -/
theorem mem_candidateRecords {store : SecretStore} {integration context instanceName : Chars}
    {scopes : Option (List SecretScope)} {record : SecretRecord} :
    record ∈ store.candidateRecords collate integration context instanceName scopes ↔
      record ∈ store.records.rows ∧ (integration = [] ∨ record.integration = integration) ∧
        record.status = .configured ∧ scopeMatchesRecord record context instanceName = true ∧
          ∀ allowed ∈ scopes, record.scope ∈ allowed := by
  simp [candidateRecords, listSecretRecords, matchesFilter, and_assoc]

/-- A record supplies the key of its binding. -/
theorem mem_effectiveBindings {store : SecretStore} {integration context instanceName : Chars}
    {scopes : Option (List SecretScope)} {record : SecretRecord} {binding : SecretBinding}
    (h : record ∈ store.candidateRecords collate integration context instanceName scopes)
    (hbinding : store.bindingForSecret collate record.secretId (some record.integration)
      (some record.context) (some record.instanceName) = some binding) :
    (binding, record) ∈ store.effectiveBindings collate integration context instanceName scopes [] :=
  List.mem_filterMap.mpr ⟨record, h, by simp [candidateBinding, hbinding]⟩

/-- Every pair that is written is a record with its own binding. -/
theorem of_mem_effectiveBindings {store : SecretStore} {integration context instanceName : Chars}
    {scopes : Option (List SecretScope)} {excluded : List Chars}
    {pair : SecretBinding × SecretRecord}
    (h : pair ∈ store.effectiveBindings collate integration context instanceName scopes excluded) :
    pair.2 ∈ store.candidateRecords collate integration context instanceName scopes ∧
      store.bindingForSecret collate pair.2.secretId (some pair.2.integration)
        (some pair.2.context) (some pair.2.instanceName) = some pair.1 := by
  obtain ⟨record, hrecord, hpair⟩ := List.mem_filterMap.mp h
  unfold candidateBinding at hpair
  split at hpair
  · cases hpair
  · rename_i binding hbinding
    split at hpair
    · cases hpair
    · cases hpair
      exact ⟨hrecord, hbinding⟩

/-- The mapping that is returned is written pair by pair. -/
theorem resolveEffectiveSecretBindings_eq (store : SecretStore)
    (integration context instanceName : Chars) (scopes : Option (List SecretScope))
    (excluded : List Chars) :
    store.resolveEffectiveSecretBindings collate integration context instanceName scopes excluded =
      Dict.update [] ((store.effectiveBindings collate integration context instanceName scopes
        excluded).map fun pair => (pair.1.bindingKey, pair)) := by
  rw [resolveEffectiveSecretBindings, Dict.update, List.foldl_map]

theorem mem_keys_resolveEffectiveSecretBindings {store : SecretStore}
    {integration context instanceName : Chars} {scopes : Option (List SecretScope)}
    {excluded : List Chars} {pair : SecretBinding × SecretRecord}
    (h : pair ∈ store.effectiveBindings collate integration context instanceName scopes excluded) :
    pair.1.bindingKey ∈ (store.resolveEffectiveSecretBindings collate integration context
      instanceName scopes excluded).keys := by
  rw [resolveEffectiveSecretBindings_eq, Dict.mem_keys_update]
  refine .inr ?_
  rw [Dict.keys, List.map_map]
  exact List.mem_map.mpr ⟨pair, h, rfl⟩

end SecretStore

end Reads

end Launchplane.Secrets
