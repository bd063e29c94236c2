import Launchplane.Balance
import Launchplane.Dict
import Launchplane.Text
import Mathlib.Algebra.Field.Rat
import Mathlib.Algebra.Order.Ring.NNRat
import Mathlib.Algebra.Order.Field.Rat
import Mathlib.Data.List.Sort
import Mathlib.Data.String.Basic

/-!
# Launchplane.UnittestSharding.Plan

**Shard plans.** The targets of a test run are spread over shards so that the
shards take about the same time: the targets go, the slowest first, into the
shard with the least to do. How long a target takes is known from an earlier run,
or is its share of what its module took, or is a default.

Seconds are non-negative rationals. `isUpper` is `str.isupper` on one character.
-/

namespace Launchplane.UnittestSharding

open Launchplane.Balance

/-- Where an estimate comes from. -/
inductive TimingSource
  | exact | parent | default
  deriving Repr, DecidableEq

/-- `Shard`. -/
structure Shard where
  index : Nat
  modules : List String
  estimatedSeconds : ℚ≥0
  estimateSources : Dict String TimingSource
  deriving DecidableEq

/-- `ShardPlan`. -/
structure ShardPlan where
  shardCount : Nat
  shards : List Shard
  deriving DecidableEq

/-- `DEFAULT_MODULE_SECONDS`. -/
def defaultModuleSeconds : ℚ≥0 := 1

/-! ### Estimates -/

/-- The text begins with an upper-case character. -/
def beginsUpper (isUpper : Char → Bool) (part : List Char) : Bool := part.head?.any isUpper

/-- `".".join(parts)`. -/
def joinDots (parts : List (List Char)) : String := String.ofList ([ '.' ].intercalate parts)

/-- `parent_module_name`: the module of a test class or of one of its methods. -/
def parentModuleName (isUpper : Char → Bool) (target : String) : String :=
  let parts := target.toList.splitOn '.'
  let last := parts.getLastD []
  let beforeLast := parts.dropLast.getLastD []
  if 4 ≤ parts.length ∧ "test_".toList.isPrefixOf last ∧ beginsUpper isUpper beforeLast then
    joinDots parts.dropLast.dropLast
  else if 3 ≤ parts.length ∧ beginsUpper isUpper last then joinDots parts.dropLast
  else target

section

variable (isUpper : Char → Bool) (seconds : String → Option ℚ≥0)

/-- `child_counts_for_parent_timing(targets, seconds).get(module, 0)`. -/
def childCountsForParentTiming (targets : List String) (module_ : String) : Nat :=
  targets.countP fun target =>
    parentModuleName isUpper target = module_ ∧ parentModuleName isUpper target ≠ target ∧
      (seconds (parentModuleName isUpper target)).isSome

/-- `estimate_target_timing_sources(targets, seconds)[target]`. -/
def timingSource (targets : List String) (target : String) : TimingSource :=
  if (seconds target).isSome then .exact
  else if 0 < childCountsForParentTiming isUpper seconds (fromKeys targets)
      (parentModuleName isUpper target) then .parent
  else .default

/-- `estimate_target_seconds(targets, seconds)[target]`. -/
def estimateTargetSeconds (targets : List String) (target : String) : ℚ≥0 :=
  let childCount := childCountsForParentTiming isUpper seconds (fromKeys targets)
    (parentModuleName isUpper target)
  match timingSource isUpper seconds targets target with
  | .exact => (seconds target).getD 0
  | .parent =>
      if 0 < childCount then (seconds (parentModuleName isUpper target)).getD 0 / (childCount : ℚ≥0)
      else defaultModuleSeconds
  | .default => defaultModuleSeconds

/-! ### Plans -/

/-- The order in which targets are placed: the slowest first, equal ones by name. -/
def placedBefore (estimate : String → ℚ≥0) (a b : String) : Prop :=
  toLex (-(estimate a : ℚ), a) ≤ toLex (-(estimate b : ℚ), b)

instance (estimate : String → ℚ≥0) : DecidableRel (placedBefore estimate) := fun a b =>
  inferInstanceAs (Decidable (toLex (-(estimate a : ℚ), a) ≤ toLex (-(estimate b : ℚ), b)))

/-- `weighted_modules`. -/
def weightedModules (targets : List String) : List String :=
  (fromKeys targets).insertionSort (placedBefore (estimateTargetSeconds isUpper seconds targets))

/-- The shard of one bin. -/
def shardOf (targets : List String) (bin : List String × ℚ≥0) (index : Nat) : Shard :=
  { index
    modules := bin.1.insertionSort (· ≤ ·)
    estimatedSeconds := bin.2
    estimateSources := (bin.1.insertionSort (· ≤ ·)).map fun target =>
      (target, timingSource isUpper seconds targets target) }

/-- `plan_shards`. -/
def planShards (targets : List String) (shardCount : Nat) : Except String ShardPlan :=
  if shardCount < 1 then .error "shard count must be at least 1"
  else
    let bins := fill (estimateTargetSeconds isUpper seconds targets) (empty shardCount)
      (weightedModules isUpper seconds targets)
    .ok
      { shardCount
        shards := bins.zipIdx.map fun (bin, index) => shardOf isUpper seconds targets bin index }

variable {isUpper seconds}

/-! ### The order of the input -/

theorem fromKeys_perm {targets targets' : List String} (h : ∀ t, t ∈ targets' ↔ t ∈ targets) :
    (fromKeys targets').Perm (fromKeys targets) := by
  rw [List.perm_ext_iff_of_nodup (nodup_fromKeys _) (nodup_fromKeys _)]
  simpa using h

theorem childCounts_congr {targets targets' : List String}
    (h : ∀ t, t ∈ targets' ↔ t ∈ targets) :
    childCountsForParentTiming isUpper seconds (fromKeys targets') =
      childCountsForParentTiming isUpper seconds (fromKeys targets) := by
  funext module_
  exact (fromKeys_perm h).countP_eq _

theorem timingSource_congr {targets targets' : List String}
    (h : ∀ t, t ∈ targets' ↔ t ∈ targets) :
    timingSource isUpper seconds targets' = timingSource isUpper seconds targets := by
  funext target
  rw [timingSource, timingSource, childCounts_congr h]

theorem estimateTargetSeconds_congr {targets targets' : List String}
    (h : ∀ t, t ∈ targets' ↔ t ∈ targets) :
    estimateTargetSeconds isUpper seconds targets' =
      estimateTargetSeconds isUpper seconds targets := by
  funext target
  rw [estimateTargetSeconds, estimateTargetSeconds, timingSource_congr h, childCounts_congr h]

instance (estimate : String → ℚ≥0) : Std.Total (placedBefore estimate) :=
  ⟨fun _ _ => le_total _ _⟩

instance (estimate : String → ℚ≥0) : IsTrans String (placedBefore estimate) :=
  ⟨fun _ _ _ => le_trans⟩

instance (estimate : String → ℚ≥0) : Std.Antisymm (placedBefore estimate) :=
  ⟨fun a b hab hba => by
    have hkeys := toLex.injective (le_antisymm hab hba)
    exact congrArg Prod.snd hkeys⟩

theorem weightedModules_congr {targets targets' : List String}
    (h : ∀ t, t ∈ targets' ↔ t ∈ targets) :
    weightedModules isUpper seconds targets' = weightedModules isUpper seconds targets := by
  rw [weightedModules, weightedModules, estimateTargetSeconds_congr h]
  have hsorted := List.perm_insertionSort
    (placedBefore (estimateTargetSeconds isUpper seconds targets))
  have hperm := ((hsorted (fromKeys targets')).trans (fromKeys_perm h)).trans
    (hsorted (fromKeys targets)).symm
  exact hperm.eq_of_pairwise' (List.pairwise_insertionSort _ _) (List.pairwise_insertionSort _ _)

/-- The plan depends on which targets there are, not on their order or how often they come. -/
theorem planShards_congr {targets targets' : List String} (h : ∀ t, t ∈ targets' ↔ t ∈ targets)
    (shardCount : Nat) :
    planShards isUpper seconds targets' shardCount =
      planShards isUpper seconds targets shardCount := by
  have hshard : shardOf isUpper seconds targets' = shardOf isUpper seconds targets := by
    funext bin index
    rw [shardOf, shardOf, timingSource_congr h]
  rw [planShards, planShards, weightedModules_congr h, estimateTargetSeconds_congr h, hshard]

/-! ### What a plan says -/

/-- A plan for targets that take at most `heaviest` seconds each. -/
structure ShardPlan.Valid (estimate : String → ℚ≥0) (targets : List String) (heaviest : ℚ≥0)
    (plan : ShardPlan) : Prop where
  /-- One shard for every index, in order. -/
  indices : plan.shards.map Shard.index = List.range plan.shardCount
  /-- Every target is in exactly one shard, once, and nothing else is in one. -/
  placed : (plan.shards.flatMap Shard.modules).Perm (fromKeys targets)
  sorted : ∀ shard ∈ plan.shards, shard.modules.Pairwise (· ≤ ·)
  estimated : ∀ shard ∈ plan.shards, shard.estimatedSeconds = (shard.modules.map estimate).sum
  balanced : ∀ a ∈ plan.shards, ∀ b ∈ plan.shards,
    a.estimatedSeconds ≤ b.estimatedSeconds + heaviest

/-- A valid plan from balanced bins that hold the targets. -/
theorem valid_of_bins {targets : List String} {heaviest : ℚ≥0} {bins : Bins String ℚ≥0}
    (hbalanced : Balanced (estimateTargetSeconds isUpper seconds targets) heaviest bins)
    (hperm : (bins.flatMap Prod.fst).Perm (fromKeys targets)) :
    ShardPlan.Valid (estimateTargetSeconds isUpper seconds targets) targets heaviest
      { shardCount := bins.length
        shards := bins.zipIdx.map fun (bin, index) => shardOf isUpper seconds targets bin index } := by
  have hbin : ∀ shard ∈ bins.zipIdx.map (fun (bin, index) =>
      shardOf isUpper seconds targets bin index),
      ∃ bin ∈ bins, ∃ index, shard = shardOf isUpper seconds targets bin index := by
    intro shard hshard
    obtain ⟨⟨bin, index⟩, hmem, rfl⟩ := List.mem_map.mp hshard
    exact ⟨bin, (List.mem_zipIdx' hmem).2 ▸ List.getElem_mem _, index, rfl⟩
  constructor
  case indices =>
    rw [List.map_map]
    show bins.zipIdx.map Prod.snd = _
    rw [List.zipIdx_map_snd, List.range_eq_range']
  case placed =>
    have hsame : bins.flatMap Prod.fst = bins.zipIdx.flatMap fun item => item.1.1 := by
      rw [← List.zipIdx_map_fst 0 bins, List.flatMap_map, List.zipIdx_map_fst]
    refine .trans ?_ hperm
    rw [hsame, List.flatMap_map]
    exact List.Perm.flatMap_left _ fun item _ => List.perm_insertionSort _ _
  case sorted =>
    intro shard hshard
    obtain ⟨bin, -, index, rfl⟩ := hbin shard hshard
    exact List.pairwise_insertionSort _ _
  case estimated =>
    intro shard hshard
    obtain ⟨bin, hmem, index, rfl⟩ := hbin shard hshard
    show bin.2 = _
    rw [hbalanced.load bin hmem]
    exact ((List.perm_insertionSort _ _).map _).sum_eq.symm
  case balanced =>
    intro a ha b hb
    obtain ⟨abin, hamem, -, rfl⟩ := hbin a ha
    obtain ⟨bbin, hbmem, -, rfl⟩ := hbin b hb
    exact hbalanced.close abin hamem bbin hbmem

variable (isUpper seconds) in
theorem planShards_eq_ok (targets : List String) {shardCount : Nat} (h : 1 ≤ shardCount)
    {heaviest : ℚ≥0}
    (hheaviest : ∀ t ∈ targets, estimateTargetSeconds isUpper seconds targets t ≤ heaviest) :
    ∃ plan, planShards isUpper seconds targets shardCount = .ok plan ∧
      plan.shardCount = shardCount ∧
      plan.Valid (estimateTargetSeconds isUpper seconds targets) targets heaviest := by
  have hne : (empty shardCount : Bins String ℚ≥0) ≠ [] := by
    simp only [empty, ne_eq, List.replicate_eq_nil_iff]
    omega
  have hsort := List.perm_insertionSort
    (placedBefore (estimateTargetSeconds isUpper seconds targets)) (fromKeys targets)
  have hbound : ∀ t ∈ weightedModules isUpper seconds targets,
      estimateTargetSeconds isUpper seconds targets t ≤ heaviest := by
    intro t ht
    exact hheaviest t (mem_fromKeys.mp (hsort.subset ht))
  have hbalanced := (balanced_empty (estimateTargetSeconds isUpper seconds targets)
    heaviest shardCount).fill hne _ hbound
  have hperm := perm_fill (estimateTargetSeconds isUpper seconds targets) hne
    (weightedModules isUpper seconds targets)
  have hnone : (empty shardCount : Bins String ℚ≥0).flatMap Prod.fst = [] := by
    simp [empty]
  rw [hnone, List.nil_append] at hperm
  have hvalid := valid_of_bins hbalanced (hperm.trans hsort)
  rw [length_fill, show (empty shardCount : Bins String ℚ≥0).length = shardCount from
    List.length_replicate] at hvalid
  rw [planShards, if_neg (by omega)]
  exact ⟨_, rfl, rfl, hvalid⟩

end

end Launchplane.UnittestSharding
