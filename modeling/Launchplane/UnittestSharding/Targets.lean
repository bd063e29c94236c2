import Launchplane.UnittestSharding.Plan
import Mathlib.Data.Rat.Floor

/-!
# Launchplane.UnittestSharding.Targets

**The targets of a run.** A module with many tests is split into its test
classes, and a class with many tests into its methods, so that every method runs
through one target. The plan for them is saved, and each shard reads its targets
from it again.
-/

namespace Launchplane.UnittestSharding

/-! ### Splitting a module -/

section

variable (testCaseTargets methodTargets : List String)

/-- The keys of `tests_by_case`. -/
def caseTargets : List String := fromKeys (testCaseTargets ++ methodTargets.map parentName)

/-- `tuple(sorted(tests_by_case[test_case_target]))`. -/
def caseMethods (testCaseTarget : String) : List String :=
  (methodTargets.filter (parentName · = testCaseTarget)).insertionSort (· ≤ ·)

/-- What stands for one class: its methods if there are too many to run together and all of them
can be loaded, and otherwise the class itself. `loadable` is `is_loadable_unittest_target` of the
loader, if there is one. -/
def splitCase (maxTestsPerTarget : Int) (loadable : Option (String → Bool))
    (testCaseTarget : String) : List String :=
  let methods := caseMethods methodTargets testCaseTarget
  if maxTestsPerTarget < methods.length then
    match loadable with
    | some isLoadable => if ¬ methods.all isLoadable then [testCaseTarget] else methods
    | none => methods
  else [testCaseTarget]

/-- `split_module_targets`. -/
def splitModuleTargets (maxTestsPerTarget : Int) (loadable : Option (String → Bool)) :
    List String :=
  ((caseTargets testCaseTargets methodTargets).insertionSort (· ≤ ·)).flatMap
    (splitCase methodTargets maxTestsPerTarget loadable)

variable {testCaseTargets methodTargets}

theorem splitCase_eq (maxTestsPerTarget : Int) (loadable : Option (String → Bool))
    (testCaseTarget : String) :
    splitCase methodTargets maxTestsPerTarget loadable testCaseTarget = [testCaseTarget] ∨
      splitCase methodTargets maxTestsPerTarget loadable testCaseTarget =
        caseMethods methodTargets testCaseTarget := by
  unfold splitCase
  cases loadable with
  | none => dsimp only; split_ifs <;> simp
  | some isLoadable => dsimp only; split_ifs <;> simp

theorem count_caseMethods (testCaseTarget target : String) :
    (caseMethods methodTargets testCaseTarget).count target =
      if parentName target = testCaseTarget then methodTargets.count target else 0 := by
  rw [caseMethods, (List.perm_insertionSort _ _).count_eq]
  split_ifs with h
  · exact List.count_filter (by simpa using h)
  · rw [List.count_eq_zero]
    simp [h]

/-- How often a target stands in the answer: once for every class that gives it. -/
theorem count_splitModuleTargets (maxTestsPerTarget : Int) (loadable : Option (String → Bool))
    (target : String) :
    (splitModuleTargets testCaseTargets methodTargets maxTestsPerTarget loadable).count target =
      ((caseTargets testCaseTargets methodTargets).map fun testCaseTarget =>
        (splitCase methodTargets maxTestsPerTarget loadable testCaseTarget).count target).sum := by
  rw [splitModuleTargets, List.count_flatMap]
  exact ((List.perm_insertionSort _ _).map _).sum_eq

/-- A class that alone can give a target gives it as often as the answer has it. -/
theorem count_of_only (maxTestsPerTarget : Int) (loadable : Option (String → Bool))
    {target testCaseTarget : String}
    (hmem : testCaseTarget ∈ caseTargets testCaseTargets methodTargets)
    (honly : ∀ other ∈ caseTargets testCaseTargets methodTargets, other ≠ testCaseTarget →
      (splitCase methodTargets maxTestsPerTarget loadable other).count target = 0) :
    (splitModuleTargets testCaseTargets methodTargets maxTestsPerTarget loadable).count target =
      (splitCase methodTargets maxTestsPerTarget loadable testCaseTarget).count target := by
  rw [count_splitModuleTargets]
  have hnodup : (caseTargets testCaseTargets methodTargets).Nodup := nodup_fromKeys _
  revert hmem honly hnodup
  generalize caseTargets testCaseTargets methodTargets = targets
  intro hmem honly hnodup
  induction targets with
  | nil => exact absurd hmem List.not_mem_nil
  | cons first rest ih =>
      rw [List.map_cons, List.sum_cons]
      obtain ⟨hfirst, hrest⟩ := List.nodup_cons.mp hnodup
      obtain rfl | hmem := List.mem_cons.mp hmem
      · have hzero : ∀ n ∈ rest.map fun other =>
            (splitCase methodTargets maxTestsPerTarget loadable other).count target, n = 0 := by
          intro n hn
          obtain ⟨other, hother, rfl⟩ := List.mem_map.mp hn
          exact honly other (List.mem_cons_of_mem _ hother) fun heq => hfirst (heq ▸ hother)
        rw [List.sum_eq_zero hzero, Nat.add_zero]
      · have hother := honly first List.mem_cons_self fun heq => hfirst (heq ▸ hmem)
        rw [hother, Nat.zero_add]
        exact ih hmem (fun other h => honly other (List.mem_cons_of_mem _ h)) hrest

/-- **A method runs once.** A method that is not itself a class, and whose class is not itself a
method, is covered by its class, which is listed once, or by itself, listed as often as it was
given, but not by both. -/
theorem covered_splitModuleTargets (maxTestsPerTarget : Int)
    (loadable : Option (String → Bool)) {method : String} (hmethod : method ∈ methodTargets)
    (hcase : method ∉ caseTargets testCaseTargets methodTargets)
    (hparent : parentName method ∉ methodTargets) :
    let targets := splitModuleTargets testCaseTargets methodTargets maxTestsPerTarget loadable
    (targets.count method = methodTargets.count method ∧ targets.count (parentName method) = 0) ∨
      (targets.count method = 0 ∧ targets.count (parentName method) = 1) := by
  have hkey : parentName method ∈ caseTargets testCaseTargets methodTargets := by
    simp only [caseTargets, mem_fromKeys, List.mem_append, List.mem_map]
    exact .inr ⟨method, hmethod, rfl⟩
  -- No other class gives the method, and none gives the class of the method.
  have honly : ∀ other ∈ caseTargets testCaseTargets methodTargets, other ≠ parentName method →
      (splitCase methodTargets maxTestsPerTarget loadable other).count method = 0 := by
    intro other hother hne
    obtain h | h := splitCase_eq maxTestsPerTarget loadable other
    · rw [h, List.count_eq_zero, List.mem_singleton]
      rintro rfl
      exact hcase hother
    · rw [h, count_caseMethods, if_neg hne.symm]
  have hclass : ∀ other ∈ caseTargets testCaseTargets methodTargets, other ≠ parentName method →
      (splitCase methodTargets maxTestsPerTarget loadable other).count (parentName method) = 0 := by
    intro other _ hne
    obtain h | h := splitCase_eq maxTestsPerTarget loadable other
    · rw [h, List.count_eq_zero, List.mem_singleton]
      exact hne.symm
    · rw [h, count_caseMethods, List.count_eq_zero.mpr hparent, ite_self]
  dsimp only
  rw [count_of_only _ _ hkey honly, count_of_only _ _ hkey hclass]
  obtain h | h := splitCase_eq maxTestsPerTarget loadable (parentName method)
  · right
    rw [h]
    have hne : method ≠ parentName method := fun heq => hcase (heq ▸ hkey)
    exact ⟨List.count_eq_zero.mpr (by simpa using hne), List.count_singleton_self⟩
  · left
    rw [h, count_caseMethods, count_caseMethods, if_pos rfl, List.count_eq_zero.mpr hparent]
    exact ⟨rfl, ite_self _⟩

end

/-! ### The saved plan -/

/-- JSON values as they are saved. -/
inductive PlanJson
  | null
  | bool (b : Bool)
  | number (q : ℚ)
  | text (s : String)
  | list (items : List PlanJson)
  | object (fields : List (String × PlanJson))

namespace PlanJson

/-- `payload.get(name)`. -/
def field (name : String) : PlanJson → PlanJson
  | object fields => (Dict.get fields name).getD null
  | _ => null

/-- `isinstance(payload, dict)`. -/
def isObject : PlanJson → Bool
  | object _ => true
  | _ => false

/-- `value == n`, for which a Boolean is a number. -/
def equals (n : Nat) : PlanJson → Bool
  | number q => q = n
  | bool b => b.toNat = n
  | _ => false

/-- `value == text`. -/
def equalsText (t : String) : PlanJson → Bool
  | text s => s = t
  | _ => false

/-- The targets of a shard, if all of them are texts with something in them. -/
def targets : PlanJson → Option (List String)
  | list items => items.mapM fun
      | text target => if target = "" then none else some target
      | _ => none
  | _ => none

end PlanJson

/-- `round(seconds, 6)`: to the nearest millionth, and to the even one half-way. -/
def roundSeconds (seconds : ℚ) : ℚ :=
  let scaled := seconds * 1000000
  let rest := scaled - ⌊scaled⌋
  let rounded :=
    if rest < 1 / 2 then ⌊scaled⌋
    else if 1 / 2 < rest then ⌊scaled⌋ + 1
    else if ⌊scaled⌋ % 2 = 0 then ⌊scaled⌋
    else ⌊scaled⌋ + 1
  rounded / 1000000

/-- The text of a timing source. -/
def TimingSource.value : TimingSource → String
  | .exact => "exact"
  | .parent => "parent"
  | .default => "default"

/-- `timing_source_counts`. -/
def timingSourceCounts (estimateSources : Dict String TimingSource) : Dict String Nat :=
  ([.default, .exact, .parent].map fun source =>
    (source.value, estimateSources.countP (·.2 = source))).filter (0 < ·.2)

/-- What `as_payload` writes of one shard. -/
def Shard.asPayload (shard : Shard) : PlanJson :=
  .object
    [("index", .number shard.index),
     ("estimated_seconds", .number (roundSeconds shard.estimatedSeconds)),
     ("modules", .list (shard.modules.map .text)),
     ("timing_sources", .object (shard.modules.filterMap fun target =>
       (shard.estimateSources.get target).map fun source => (target, .text source.value))),
     ("timing_source_counts", .object ((timingSourceCounts shard.estimateSources).map
       fun (source, count) => (source, .number count)))]

/-- `ShardPlan.as_payload`. -/
def ShardPlan.asPayload (plan : ShardPlan) : PlanJson :=
  .object
    [("schema_version", .number 1),
     ("record_type", .text "unittest_shard_plan"),
     ("shard_count", .number plan.shardCount),
     ("target_count", .number (plan.shards.flatMap Shard.modules).length),
     ("target_granularity", .text "module_or_unittest_target"),
     ("shards", .list (plan.shards.map Shard.asPayload))]

/-- The loop of `read_shard_plan_targets` over the shards, with the targets it has seen. -/
def readShards (planFile : String) : Nat → List String → List PlanJson →
    Except String (List (List String))
  | _, _, [] => .ok []
  | expectedIndex, seenTargets, shard :: rest =>
      if ¬ (shard.isObject ∧ (shard.field "index").equals expectedIndex) then
        .error ("shard plan shards are out of order: " ++ planFile)
      else
        match (shard.field "modules").targets with
        | none => .error ("shard plan has invalid targets: " ++ planFile)
        | some targets =>
            if (∃ target ∈ targets, target ∈ seenTargets) ∨ ¬ targets.Nodup then
              .error ("shard plan assigns a target twice: " ++ planFile)
            else
              (readShards planFile (expectedIndex + 1) (seenTargets ++ targets) rest).map
                (targets :: ·)

/-- `read_shard_plan_targets`, of the payload in the file. -/
def readShardPlanTargets (planFile : String) (payload : PlanJson) (shardCount : Nat) :
    Except String (List (List String)) :=
  if ¬ payload.isObject then .error ("JSON payload must be an object: " ++ planFile)
  else if ¬ (payload.field "schema_version").equals 1 then
    .error ("unsupported timing schema version in " ++ planFile)
  else if ¬ (payload.field "record_type").equalsText "unittest_shard_plan" then
    .error ("unexpected timing record type in " ++ planFile)
  else if ¬ (payload.field "shard_count").equals shardCount then
    .error ("shard plan has wrong shard count: " ++ planFile)
  else
    match payload.field "shards" with
    | .list shards =>
        if shards.length ≠ shardCount then
          .error ("shard plan must list " ++ toString shardCount ++ " shards: " ++ planFile)
        else readShards planFile 0 [] shards
    | _ => .error ("shard plan must list " ++ toString shardCount ++ " shards: " ++ planFile)

theorem targets_list (targets : List String) :
    (PlanJson.list (targets.map .text)).targets = if "" ∈ targets then none else some targets := by
  have hread : ∀ l : List String, (l.map PlanJson.text).mapM (fun
      | .text target => if target = "" then none else some target
      | _ => none) = if "" ∈ l then none else some l := by
    intro l
    induction l with
    | nil => rfl
    | cons target rest ih =>
        rw [List.map_cons, List.mapM_cons, ih]
        by_cases hempty : target = ""
        · simp [hempty]
        · by_cases hrest : "" ∈ rest
          · simp [hempty, hrest]
          · simp [hempty, hrest, Ne.symm hempty]
  exact hread targets

/-- The loop reads what was written, unless there is an empty target. -/
theorem readShards_asPayload (planFile : String) (shards : List Shard) (index : Nat)
    (seenTargets : List String)
    (hindices : shards.map Shard.index = List.range' index shards.length)
    (hnodup : (seenTargets ++ shards.flatMap Shard.modules).Nodup) :
    readShards planFile index seenTargets (shards.map Shard.asPayload) =
      if "" ∈ shards.flatMap Shard.modules then
        .error ("shard plan has invalid targets: " ++ planFile)
      else .ok (shards.map Shard.modules) := by
  induction shards generalizing index seenTargets with
  | nil => rfl
  | cons shard rest ih =>
      rw [List.map_cons, List.length_cons, List.range'_succ, List.cons.injEq] at hindices
      obtain ⟨hindex, hindices⟩ := hindices
      rw [List.flatMap_cons] at hnodup
      have hrest := ih (index + 1) (seenTargets ++ shard.modules) hindices
        (by rwa [List.append_assoc])
      have hobject : ¬ ¬ (shard.asPayload.isObject ∧
          (shard.asPayload.field "index").equals index) := by
        simp [Shard.asPayload, PlanJson.isObject, PlanJson.field, Dict.get, PlanJson.equals, hindex]
      have htargets : (shard.asPayload.field "modules").targets =
          if "" ∈ shard.modules then none else some shard.modules :=
        targets_list shard.modules
      rw [List.map_cons, readShards, if_neg hobject, htargets]
      by_cases hempty : "" ∈ shard.modules
      · simp [hempty]
      · rw [if_neg hempty]
        have hnew : ¬ ((∃ target ∈ shard.modules, target ∈ seenTargets) ∨ ¬ shard.modules.Nodup) := by
          rw [← List.append_assoc, List.nodup_append] at hnodup
          have hboth := List.nodup_append.mp hnodup.1
          rintro (⟨target, hmem, hseen⟩ | h)
          · exact hboth.2.2 target hseen target hmem rfl
          · exact h hboth.2.1
        dsimp only
        rw [if_neg hnew, hrest]
        by_cases hlater : "" ∈ rest.flatMap Shard.modules
        · rw [if_pos hlater, if_pos (by simp [hlater])]
          rfl
        · rw [if_neg hlater, if_neg (by simpa [hempty] using hlater)]
          rfl

/-- A plan is read back as it was saved exactly if none of its targets is empty. -/
theorem readShardPlanTargets_asPayload (planFile : String) {estimate : String → ℚ≥0}
    {targets : List String} {heaviest : ℚ≥0} {plan : ShardPlan}
    (h : plan.Valid estimate targets heaviest) :
    readShardPlanTargets planFile plan.asPayload plan.shardCount =
      if "" ∈ targets then .error ("shard plan has invalid targets: " ++ planFile)
      else .ok (plan.shards.map Shard.modules) := by
  have hlength : plan.shards.length = plan.shardCount := by
    simpa using congrArg List.length h.indices
  have hindices : plan.shards.map Shard.index = List.range' 0 plan.shards.length := by
    rw [h.indices, hlength, List.range_eq_range']
  have hnodup : ([] ++ plan.shards.flatMap Shard.modules).Nodup :=
    h.placed.nodup_iff.mpr (nodup_fromKeys _)
  have hmem : "" ∈ plan.shards.flatMap Shard.modules ↔ "" ∈ targets := by
    rw [h.placed.mem_iff, mem_fromKeys]
  have hread := readShards_asPayload planFile plan.shards 0 [] hindices hnodup
  simp only [hmem] at hread
  rw [← hread]
  simp [readShardPlanTargets, ShardPlan.asPayload, PlanJson.isObject, PlanJson.field, Dict.get,
    PlanJson.equals, PlanJson.equalsText, hlength]

/-! ### Every test in one shard -/

section

variable (isUpper : Char → Bool) (seconds : String → Option ℚ≥0)

/-- The largest single estimate. -/
def largestEstimate (targets : List String) : ℚ≥0 :=
  (targets.map (estimateTargetSeconds isUpper seconds targets)).foldr max 0

variable {isUpper seconds} in
theorem le_largestEstimate {targets : List String} :
    ∀ t ∈ targets,
      estimateTargetSeconds isUpper seconds targets t ≤ largestEstimate isUpper seconds targets := by
  have hmax : ∀ (l : List ℚ≥0), ∀ x ∈ l, x ≤ l.foldr max 0 := by
    intro l
    induction l with
    | nil => simp
    | cons y rest ih =>
        intro x hx
        obtain rfl | hx := List.mem_cons.mp hx
        · exact le_max_left _ _
        · exact (ih x hx).trans (le_max_right _ _)
  exact fun t ht => hmax _ _ (List.mem_map_of_mem ht)

/-- **Every test runs in exactly one shard.** A plan places every distinct target in one shard and
nothing else; its estimates are the sums of those of its targets and no further apart than the
largest of them; it does not depend on the order of the input; and it is read back as it was saved
unless a target is empty. When a module is split, a method that is not itself a class, and whose
class is not itself a method, is covered by its class or by itself, but not by both. -/
theorem planShards_spec (targets : List String) (shardCount : Nat) (h : 1 ≤ shardCount) :
    ∃ plan, planShards isUpper seconds targets shardCount = .ok plan ∧
      plan.shardCount = shardCount ∧
      plan.Valid (estimateTargetSeconds isUpper seconds targets) targets
        (largestEstimate isUpper seconds targets) ∧
      (∀ targets', (∀ t, t ∈ targets' ↔ t ∈ targets) →
        planShards isUpper seconds targets' shardCount = .ok plan) ∧
      (∀ planFile, "" ∉ targets → readShardPlanTargets planFile plan.asPayload shardCount =
        .ok (plan.shards.map Shard.modules)) ∧
      ∀ testCaseTargets methodTargets maxTestsPerTarget loadable,
        ∀ method ∈ methodTargets, method ∉ caseTargets testCaseTargets methodTargets →
          parentName method ∉ methodTargets →
          let split := splitModuleTargets testCaseTargets methodTargets maxTestsPerTarget loadable
          (split.count method = methodTargets.count method ∧ split.count (parentName method) = 0) ∨
            (split.count method = 0 ∧ split.count (parentName method) = 1) := by
  obtain ⟨plan, hplan, rfl, hvalid⟩ := planShards_eq_ok isUpper seconds targets h
    le_largestEstimate
  refine ⟨plan, hplan, rfl, hvalid, fun targets' hsame => ?_, fun planFile hempty => ?_,
    fun _ _ _ _ _ hmethod hcase hparent => covered_splitModuleTargets _ _ hmethod hcase hparent⟩
  · rw [planShards_congr hsame, hplan]
  · rw [readShardPlanTargets_asPayload planFile hvalid, if_neg hempty]

end

/-- The timings of three modules, of which one was never timed. -/
def sampleSeconds (target : String) : Option ℚ≥0 :=
  if target = "tests.test_a" then some 9 else if target = "tests.test_b" then some (1 / 2) else none

/-- The plan of three modules in two shards, and the two methods of a class that is split. -/
theorem planShards_spec_two :
    (∃ plan, planShards Char.isUpper sampleSeconds
        ["tests.test_a", "tests.test_b", "tests.test_c"] 2 = .ok plan ∧
      readShardPlanTargets "plan.json" plan.asPayload 2 = .ok (plan.shards.map Shard.modules)) ∧
    (splitModuleTargets ["t.A"] ["t.A.b", "t.A.c"] 1 none).count "t.A.b" = 1 ∧
      (splitModuleTargets ["t.A"] ["t.A.b", "t.A.c"] 1 none).count "t.A" = 0 := by
  obtain ⟨plan, hplan, -, -, -, hread, hsplit⟩ := planShards_spec Char.isUpper sampleSeconds
    ["tests.test_a", "tests.test_b", "tests.test_c"] 2 (by decide)
  refine ⟨⟨plan, hplan, hread "plan.json" (by decide)⟩, ?_⟩
  have hcovered := hsplit ["t.A"] ["t.A.b", "t.A.c"] 1 none "t.A.b" (by decide) (by decide)
    (by decide)
  exact hcovered.resolve_right (by decide)

/-- An empty target is planned but not read back, a method that comes twice is a target twice, and a
method that is also a class is run with its own class and with the class above it. -/
theorem planShards_degenerate :
    (∃ plan, planShards Char.isUpper (fun _ => none) [""] 1 = .ok plan ∧
      readShardPlanTargets "plan.json" plan.asPayload 1 =
        .error "shard plan has invalid targets: plan.json") ∧
    splitModuleTargets ["t.A"] ["t.A.b", "t.A.b"] 1 none = ["t.A.b", "t.A.b"] ∧
    splitModuleTargets ["t.A", "t.A.b"] ["t.A.b"] 1 none = ["t.A", "t.A.b"] := by
  refine ⟨?_, by decide, by decide⟩
  obtain ⟨plan, hplan, hcount, hvalid⟩ := planShards_eq_ok Char.isUpper (fun _ => none) [""]
    (show 1 ≤ 1 by decide) le_largestEstimate
  refine ⟨plan, hplan, ?_⟩
  rw [← hcount, readShardPlanTargets_asPayload "plan.json" hvalid]
  rfl

end Launchplane.UnittestSharding
