import Mathlib.Algebra.BigOperators.Group.List.Basic
import Mathlib.Algebra.Order.Monoid.Canonical.Defs
import Mathlib.Data.List.MinMax
import Mathlib.Data.Prod.Lex

/-!
# Launchplane.Balance

**Greedy balancing.** Items with weights go one after the other into the bin
whose load is least. Every item ends in one bin, a bin's load is the weight of
what is in it, and no two loads are further apart than the heaviest item: the
bin that an item went into was the lightest before it.
-/

namespace Launchplane.Balance

variable {ι W : Type} [AddCommMonoid W] [LinearOrder W]

/-- What is in each bin, and its load. -/
abbrev Bins (ι W : Type) : Type := List (List ι × W)

/-- `count` empty bins. -/
def empty (count : Nat) : Bins ι W := List.replicate count ([], 0)

/-- The first bin of those with the least load. -/
def lightest (bins : Bins ι W) : Nat :=
  ((List.range bins.length).argmin fun i => toLex ((bins.map Prod.snd).getD i 0, i)).getD 0

variable (weight : ι → W)

/-- Put an item into the lightest bin. -/
def place (bins : Bins ι W) (item : ι) : Bins ι W :=
  bins.modify (lightest bins) fun bin => (bin.1 ++ [item], bin.2 + weight item)

/-- Put items into the bins, one after the other. -/
def fill (bins : Bins ι W) (items : List ι) : Bins ι W := items.foldl (place weight) bins

theorem lightest_spec {bins : Bins ι W} (h : bins ≠ []) :
    ∃ hlt : lightest bins < bins.length, ∀ bin ∈ bins, bins[lightest bins].2 ≤ bin.2 := by
  obtain ⟨i, hi⟩ : ∃ i, (List.range bins.length).argmin
      (fun i => toLex ((bins.map Prod.snd).getD i 0, i)) = some i := by
    rw [← Option.ne_none_iff_exists', ne_eq, List.argmin_eq_none]
    simpa using h
  have hlightest : lightest bins = i := by simp only [lightest, hi, Option.getD_some]
  have hlt : i < bins.length := List.mem_range.mp (List.argmin_mem hi)
  simp only [hlightest]
  refine ⟨hlt, fun bin hbin => ?_⟩
  obtain ⟨j, hj, rfl⟩ := List.mem_iff_getElem.mp hbin
  have hle := List.le_of_mem_argmin (List.mem_range.mpr hj) hi
  rw [Prod.Lex.toLex_le_toLex] at hle
  have hload : bins[i].2 ≤ bins[j].2 := by
    obtain hless | ⟨heq, -⟩ := hle
    · simpa [hlt, hj] using hless.le
    · simpa [hlt, hj] using heq.le
  exact hload

/-- Where an item goes: into a bin that none is lighter than. -/
theorem exists_place {bins : Bins ι W} (h : bins ≠ []) (item : ι) :
    ∃ before bin after, bins = before ++ bin :: after ∧ (∀ other ∈ bins, bin.2 ≤ other.2) ∧
      place weight bins item =
        before ++ (bin.1 ++ [item], bin.2 + weight item) :: after := by
  obtain ⟨hlt, hleast⟩ := lightest_spec h
  obtain ⟨before, bin, after, hbins, hlength, hplace⟩ := List.exists_of_modify
    (fun bin : List ι × W => (bin.1 ++ [item], bin.2 + weight item)) hlt
  have hbin : bins[lightest bins] = bin := List.getElem_of_append hbins hlength
  exact ⟨before, bin, after, hbins, by rwa [hbin] at hleast, hplace⟩

/-- What filling keeps: the loads are those of the items, and no two loads are further apart than
the bound. -/
structure Balanced (bound : W) (bins : Bins ι W) : Prop where
  load : ∀ bin ∈ bins, bin.2 = (bin.1.map weight).sum
  close : ∀ a ∈ bins, ∀ b ∈ bins, a.2 ≤ b.2 + bound

variable {weight}

variable (weight) in
theorem balanced_empty [CanonicallyOrderedAdd W] (bound : W) (count : Nat) :
    Balanced weight bound (empty count) where
  load bin hbin := by
    obtain rfl := List.eq_of_mem_replicate hbin
    simp
  close a ha b _ := by
    obtain rfl := List.eq_of_mem_replicate ha
    exact zero_le

theorem Balanced.place [CanonicallyOrderedAdd W] [IsOrderedAddMonoid W] {bound : W}
    {bins : Bins ι W} (h : Balanced weight bound bins) (hne : bins ≠ []) {item : ι}
    (hitem : weight item ≤ bound) : Balanced weight bound (Balance.place weight bins item) := by
  obtain ⟨before, bin, after, rfl, hleast, hplace⟩ := exists_place weight hne item
  rw [hplace]
  have hmem : bin ∈ before ++ bin :: after := by simp
  have hold : ∀ other ∈ before ++ (bin.1 ++ [item], bin.2 + weight item) :: after,
      other = (bin.1 ++ [item], bin.2 + weight item) ∨ other ∈ before ++ bin :: after := by
    intro other hother
    simp only [List.mem_append, List.mem_cons] at hother ⊢
    tauto
  constructor
  · intro other hother
    obtain rfl | hother := hold other hother
    · simp [h.load bin hmem]
    · exact h.load other hother
  · intro a ha b hb
    obtain rfl | ha := hold a ha <;> obtain rfl | hb := hold b hb
    · exact le_self_add
    · -- The bin was the lightest, and the item is no heavier than the bound.
      exact add_le_add (hleast b hb) hitem
    · exact (h.close a ha bin hmem).trans (by gcongr; exact le_self_add)
    · exact h.close a ha b hb

variable (weight) in
theorem place_ne_nil {bins : Bins ι W} (h : bins ≠ []) (item : ι) : place weight bins item ≠ [] := by
  obtain ⟨before, bin, after, -, -, hplace⟩ := exists_place weight h item
  rw [hplace]
  simp

theorem length_fill (bins : Bins ι W) (items : List ι) :
    (fill weight bins items).length = bins.length := by
  induction items generalizing bins with
  | nil => rfl
  | cons item rest ih => rw [fill, List.foldl_cons, ← fill, ih, place, List.length_modify]

/-- Filling keeps the bins balanced, whatever the order of the items. -/
theorem Balanced.fill [CanonicallyOrderedAdd W] [IsOrderedAddMonoid W] {bound : W}
    {bins : Bins ι W} (h : Balanced weight bound bins) (hne : bins ≠ []) (items : List ι)
    (hitems : ∀ item ∈ items, weight item ≤ bound) :
    Balanced weight bound (Balance.fill weight bins items) := by
  induction items generalizing bins with
  | nil => exact h
  | cons item rest ih =>
      rw [List.forall_mem_cons] at hitems
      exact ih (h.place hne hitems.1) (place_ne_nil weight hne item) hitems.2

variable (weight) in
theorem perm_place {bins : Bins ι W} (h : bins ≠ []) (item : ι) :
    ((place weight bins item).flatMap Prod.fst).Perm (bins.flatMap Prod.fst ++ [item]) := by
  obtain ⟨before, bin, after, rfl, -, hplace⟩ := exists_place weight h item
  rw [hplace]
  simp only [List.flatMap_append, List.flatMap_cons, List.append_assoc]
  exact (List.perm_append_comm.append_left _).append_left _

variable (weight) in
/-- Every item is in one bin, and nothing else is. -/
theorem perm_fill {bins : Bins ι W} (h : bins ≠ []) (items : List ι) :
    ((fill weight bins items).flatMap Prod.fst).Perm (bins.flatMap Prod.fst ++ items) := by
  induction items generalizing bins with
  | nil => simp [fill]
  | cons item rest ih =>
      have hrest := ih (place_ne_nil weight h item)
      rw [fill, List.foldl_cons, ← fill]
      refine hrest.trans ?_
      have hplace := (perm_place weight h item).append_right rest
      rwa [List.append_assoc, List.singleton_append] at hplace

end Launchplane.Balance
