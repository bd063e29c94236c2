import Launchplane.RuntimeEnvironment.Site

/-!
# Launchplane.RuntimeEnvironment.LaneRecords

**The records behind a lane's settings.** Of all the runtime-environment records
the definition of a lane is built from, those of its context and the one of its
instance decide what the lane gets.
-/

namespace Launchplane.RuntimeEnvironment

open Secrets

section LaneRecords

variable {κ : Type} [LinearOrder κ] (collate : Chars ↪ κ)

namespace RuntimeEnvironmentDefinition

/-- The values of a context. -/
def sharedOf (definition : RuntimeEnvironmentDefinition) (contextName : Chars) :
    Dict Chars ScalarValue :=
  ((definition.contexts.get contextName).map (·.sharedEnv)).getD []

/-- The values of an instance. -/
def instanceOf (definition : RuntimeEnvironmentDefinition) (contextName instanceName : Chars) :
    Option (Dict Chars ScalarValue) :=
  (definition.contexts.get contextName).bind (·.instances.get instanceName)

end RuntimeEnvironmentDefinition

open RuntimeEnvironmentDefinition

/-- A record that gives values to a context. -/
def IsContextRecord (contextName : Chars) (record : RuntimeEnvironmentRecord) : Bool :=
  record.scope = .context ∧ record.context = contextName

/-- A record that gives values to an instance. -/
def IsInstanceRecord (contextName instanceName : Chars) (record : RuntimeEnvironmentRecord) : Bool :=
  record.scope = .instance_ ∧ record.context = contextName ∧ record.instanceName = instanceName

theorem sharedOf_addRecord (definition : RuntimeEnvironmentDefinition)
    (record : RuntimeEnvironmentRecord) (contextName : Chars) :
    sharedOf (addRecord definition record) contextName =
      if IsContextRecord contextName record then
        (sharedOf definition contextName).update record.env.items
      else sharedOf definition contextName := by
  unfold addRecord sharedOf IsContextRecord
  cases hscope : record.scope with
  | global => simp
  | context =>
      by_cases hcontext : record.context = contextName
      · cases hknown : definition.contexts.get contextName <;> simp [hcontext, hknown]
      · simp [hcontext, Ne.symm hcontext]
  | instance_ =>
      by_cases hcontext : record.context = contextName
      · cases hknown : definition.contexts.get contextName <;> simp [hcontext, hknown]
      · simp [Ne.symm hcontext]

theorem instanceOf_addRecord (definition : RuntimeEnvironmentDefinition)
    (record : RuntimeEnvironmentRecord) (contextName instanceName : Chars) :
    instanceOf (addRecord definition record) contextName instanceName =
      if IsInstanceRecord contextName instanceName record then some record.env.items
      else instanceOf definition contextName instanceName := by
  unfold addRecord instanceOf IsInstanceRecord
  cases hscope : record.scope with
  | global => simp
  | context =>
      by_cases hcontext : record.context = contextName
      · cases hknown : definition.contexts.get contextName <;> simp [hcontext, hknown]
      · simp [Ne.symm hcontext]
  | instance_ =>
      by_cases hcontext : record.context = contextName
      · by_cases hinstance : record.instanceName = instanceName
        · simp [hcontext, hinstance]
        · cases hknown : definition.contexts.get contextName <;>
            simp [hcontext, hinstance, Ne.symm hinstance, hknown]
      · simp [hcontext, Ne.symm hcontext]

/-- A context's values come from its own records. -/
theorem sharedOf_foldl (records : List RuntimeEnvironmentRecord)
    (definition : RuntimeEnvironmentDefinition) (contextName : Chars) :
    sharedOf (records.foldl addRecord definition) contextName =
      (records.filter (IsContextRecord contextName)).foldl
        (fun env record => env.update record.env.items) (sharedOf definition contextName) := by
  induction records generalizing definition with
  | nil => rfl
  | cons record records ih =>
      rw [List.foldl_cons, ih, sharedOf_addRecord, List.filter_cons]
      split <;> rfl

/-- An instance's values come from its own last record. -/
theorem instanceOf_foldl (records : List RuntimeEnvironmentRecord)
    (definition : RuntimeEnvironmentDefinition) (contextName instanceName : Chars) :
    instanceOf (records.foldl addRecord definition) contextName instanceName =
      (((records.filter (IsInstanceRecord contextName instanceName)).getLast?.map
        (·.env.items)).or (instanceOf definition contextName instanceName)) := by
  induction records generalizing definition with
  | nil => rfl
  | cons record records ih =>
      rw [List.foldl_cons, ih, instanceOf_addRecord, List.filter_cons]
      by_cases hrecord : IsInstanceRecord contextName instanceName record = true
      · simp only [hrecord, if_true, List.getLast?_cons]
        cases hlast : (records.filter (IsInstanceRecord contextName instanceName)).getLast? <;> simp
      · simp [hrecord]

theorem text_injective : Function.Injective RuntimeEnvironmentScope.text := by
  intro a b h
  cases a <;> cases b <;> first | rfl | exact absurd h (by decide)

theorem ranked_environments (store : SiteRuntimeEnvironmentStore) :
    Ranked environmentRank store.environments.rows := by
  intro a ha b hb h
  refine store.environments.eq_of_key_eq ha hb ?_
  have hparts : a.scope.text = b.scope.text ∧ a.context = b.context ∧
      a.instanceName = b.instanceName := by
    simpa [environmentRank] using h
  simp [RuntimeEnvironmentRecord.key, text_injective hparts.1, hparts.2]

/-- The values the context's records give. -/
def contextSettings (store : SiteRuntimeEnvironmentStore) (contextName : Chars) :
    Dict Chars ScalarValue :=
  (sortedBy environmentRank (store.environments.rows.filter (IsContextRecord contextName))).foldl
    (fun env record => env.update record.env.items) []

/-- The record of the lane's instance. -/
def instanceRecord (store : SiteRuntimeEnvironmentStore) (contextName instanceName : Chars) :
    Option RuntimeEnvironmentRecord :=
  store.environments.get (.instance_, contextName, instanceName)

theorem isInstanceRecord_iff {contextName instanceName : Chars}
    {record : RuntimeEnvironmentRecord} :
    IsInstanceRecord contextName instanceName record = true ↔
      record.key = (.instance_, contextName, instanceName) := by
  simp [IsInstanceRecord, RuntimeEnvironmentRecord.key]

/-- The keys the lane's record retires. -/
def laneRetiredKeys (store : SiteRuntimeEnvironmentStore) (contextName instanceName : Chars) :
    List Chars :=
  ((instanceRecord store contextName instanceName).map (·.retiredProviderKeys)).getD []

/-- Of the instance's records there is one. -/
theorem eq_instanceRecord {store : SiteRuntimeEnvironmentStore} {contextName instanceName : Chars}
    {records : List RuntimeEnvironmentRecord} {last : Option RuntimeEnvironmentRecord}
    (hmem : ∀ record, record ∈ records ↔
      record ∈ store.environments.rows ∧ IsInstanceRecord contextName instanceName record = true)
    (hlast : ∀ record ∈ last, record ∈ records) (hnone : last = none → records = []) :
    last = instanceRecord store contextName instanceName := by
  cases hcase : last with
  | none =>
      refine (Table.get_eq_none.mpr ?_).symm
      intro record hrecord heq
      have hin := (hmem record).mpr ⟨hrecord, isInstanceRecord_iff.mpr heq⟩
      rw [hnone hcase] at hin
      cases hin
  | some record =>
      obtain ⟨hrecord, hinstance⟩ := (hmem record).mp (hlast record hcase)
      exact (Table.get_eq_some.mpr ⟨hrecord, isInstanceRecord_iff.mp hinstance⟩).symm

theorem mem_listRuntimeEnvironmentRecords {store : SiteRuntimeEnvironmentStore}
    {record : RuntimeEnvironmentRecord} :
    record ∈ store.listRuntimeEnvironmentRecords collate [] [] ↔
      record ∈ store.environments.rows := by
  simp [SiteRuntimeEnvironmentStore.listRuntimeEnvironmentRecords, matchesFilter]

/-- The definition that is built from the store. -/
theorem loadDefinition_eq (store : SiteRuntimeEnvironmentStore) (contextName : Chars) :
    ∃ context, (store.loadDefinition collate contextName).contexts.get contextName = some context ∧
      context.sharedEnv = contextSettings store contextName ∧
        ∀ instanceName, context.instances.get instanceName =
          (instanceRecord store contextName instanceName).map (·.env.items) := by
  have hbuilt : (if store.listRuntimeEnvironmentRecords collate [] [] = [] then
        ({} : RuntimeEnvironmentDefinition)
      else buildRuntimeEnvironmentDefinition (store.listRuntimeEnvironmentRecords collate [] [])) =
      buildRuntimeEnvironmentDefinition (store.listRuntimeEnvironmentRecords collate [] []) := by
    split
    · rename_i hempty
      rw [hempty]
      rfl
    · rfl
  have hranked : Ranked environmentRank (store.listRuntimeEnvironmentRecords collate [] []) :=
    (ranked_environments store).subset fun record h =>
      (mem_listRuntimeEnvironmentRecords collate).mp h
  have hshared : sharedOf (buildRuntimeEnvironmentDefinition
      (store.listRuntimeEnvironmentRecords collate [] [])) contextName =
        contextSettings store contextName := by
    rw [buildRuntimeEnvironmentDefinition, sharedOf_foldl, filter_sortedBy hranked, contextSettings]
    congr 1
    refine sortedBy_ext (hranked.subset (List.filter_subset_self _)) ?_ ?_ ?_
    · exact (nodup_sortedBy _ (store.environments.nodup_rows.filter _)).filter _
    · exact store.environments.nodup_rows.filter _
    · simp [mem_listRuntimeEnvironmentRecords]
  have hinstance (instanceName : Chars) : instanceOf (buildRuntimeEnvironmentDefinition
      (store.listRuntimeEnvironmentRecords collate [] [])) contextName instanceName =
        (instanceRecord store contextName instanceName).map (·.env.items) := by
    rw [buildRuntimeEnvironmentDefinition, instanceOf_foldl]
    rw [show instanceOf {} contextName instanceName = none from rfl, Option.or_none]
    congr 1
    refine eq_instanceRecord (fun record => ?_) (fun record h => List.mem_of_getLast? h)
      List.getLast?_eq_none_iff.mp
    simp [mem_listRuntimeEnvironmentRecords]
  unfold SiteRuntimeEnvironmentStore.loadDefinition
  dsimp only
  rw [hbuilt]
  unfold sharedOf at hshared
  simp only [instanceOf] at hinstance
  cases hget : (buildRuntimeEnvironmentDefinition
      (store.listRuntimeEnvironmentRecords collate [] [])).contexts.get contextName with
  | some context =>
      rw [hget] at hshared hinstance
      exact ⟨context, hget, by simpa using hshared, by simpa using hinstance⟩
  | none =>
      rw [hget] at hshared hinstance
      exact ⟨{}, by simp, by simpa using hshared, by simpa using hinstance⟩

/-- The keys the lane's record retires. -/
theorem retiredProviderKeys_eq (store : SiteRuntimeEnvironmentStore)
    (contextName instanceName : Chars) :
    store.retiredProviderKeys collate contextName instanceName =
      .ok (laneRetiredKeys store contextName instanceName) := by
  have hmem (record : RuntimeEnvironmentRecord) :
      record ∈ (store.listRuntimeEnvironmentRecords collate contextName instanceName).filter
          (fun record => record.scope = .instance_ ∧ record.context = contextName ∧
            record.instanceName = instanceName) ↔
        record ∈ store.environments.rows ∧
          IsInstanceRecord contextName instanceName record = true := by
    simp only [SiteRuntimeEnvironmentStore.listRuntimeEnvironmentRecords, List.mem_filter,
      mem_sortedBy, matchesFilter, IsInstanceRecord, decide_eq_true_eq, Bool.and_eq_true]
    constructor
    · exact fun h => ⟨h.1.1, h.2⟩
    · exact fun h => ⟨⟨h.1, .inr h.2.2.1, .inr h.2.2.2⟩, h.2⟩
  have hnodup : ((store.listRuntimeEnvironmentRecords collate contextName instanceName).filter
      (fun record => record.scope = .instance_ ∧ record.context = contextName ∧
        record.instanceName = instanceName)).Nodup :=
    (nodup_sortedBy _ (store.environments.nodup_rows.filter _)).filter _
  unfold SiteRuntimeEnvironmentStore.retiredProviderKeys
  generalize (store.listRuntimeEnvironmentRecords collate contextName instanceName).filter
    (fun record => record.scope = .instance_ ∧ record.context = contextName ∧
      record.instanceName = instanceName) = records at hmem hnodup ⊢
  have hlength : ¬ 1 < records.length := by
    intro hmany
    obtain ⟨a, b, rest, rfl⟩ : ∃ a b rest, records = a :: b :: rest := by
      match records, hmany with
      | a :: b :: rest, _ => exact ⟨a, b, rest, rfl⟩
    have hsame : a = b := by
      obtain ⟨ha, hakey⟩ := (hmem a).mp (by simp)
      obtain ⟨hb, hbkey⟩ := (hmem b).mp (by simp)
      exact store.environments.eq_of_key_eq ha hb
        ((isInstanceRecord_iff.mp hakey).trans (isInstanceRecord_iff.mp hbkey).symm)
    simp [hsame] at hnodup
  rw [if_neg hlength, eq_instanceRecord hmem (fun record h => List.mem_of_head? h)
    List.head?_eq_none_iff.mp, laneRetiredKeys]

end LaneRecords

end Launchplane.RuntimeEnvironment
