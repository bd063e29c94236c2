import Mathlib.Data.Finset.Card
import Mathlib.Data.Finset.Union

/-!
# Launchplane.Saturation

**Sets that grow until nothing is added.** A loop adds to a set what its members
bring in, and ends when a round adds nothing. Where everything that is ever
brought in lies in a finite bound, it ends after at most as many rounds as the
bound has members, with the least set that brings in nothing new.
-/

namespace Launchplane

variable {α : Type} [DecidableEq α]

/-- What the members of a set bring in, all of it within a bound. -/
structure Growth (α : Type) [DecidableEq α] where
  next : Finset α → Finset α
  bound : Finset α
  next_subset : ∀ s, next s ⊆ bound

namespace Growth

variable (g : Growth α)

/-- The loop, for at most so many rounds. -/
def rounds : Nat → Finset α → Finset α
  | 0, s => s
  | fuel + 1, s => if s ∪ g.next s = s then s else rounds fuel (s ∪ g.next s)

/-- The set that the loop ends with. -/
def saturate (s : Finset α) : Finset α := g.rounds g.bound.card s

/-- A set that brings in nothing new. -/
def Closed (s : Finset α) : Prop := g.next s ⊆ s

variable {g} {s : Finset α}

theorem subset_rounds (fuel : Nat) (s : Finset α) : s ⊆ g.rounds fuel s := by
  induction fuel generalizing s with
  | zero => exact Finset.Subset.refl s
  | succ fuel ih =>
      rw [rounds]
      split_ifs
      · exact Finset.Subset.refl s
      · exact Finset.subset_union_left.trans (ih _)

/-- What a round adds is missing from the bound no more. -/
theorem card_sdiff_lt (h : s ∪ g.next s ≠ s) :
    (g.bound \ (s ∪ g.next s)).card < (g.bound \ s).card := by
  have hnew : ¬g.next s ⊆ s := fun hsub => h (Finset.union_eq_left.mpr hsub)
  obtain ⟨a, ha, has⟩ := Finset.not_subset.mp hnew
  refine Finset.card_lt_card (Finset.ssubset_iff_subset_ne.mpr ⟨?_, ?_⟩)
  · exact Finset.sdiff_subset_sdiff (Finset.Subset.refl _) Finset.subset_union_left
  · intro heq
    have hmem : a ∈ g.bound \ s := Finset.mem_sdiff.mpr ⟨g.next_subset s ha, has⟩
    rw [← heq, Finset.mem_sdiff] at hmem
    exact hmem.2 (Finset.mem_union_right s ha)

theorem closed_rounds {fuel : Nat} (h : (g.bound \ s).card ≤ fuel) :
    g.Closed (g.rounds fuel s) := by
  induction fuel generalizing s with
  | zero =>
      have hempty : g.bound \ s = ∅ := Finset.card_eq_zero.mp (Nat.le_zero.mp h)
      exact (g.next_subset s).trans (Finset.sdiff_eq_empty_iff_subset.mp hempty)
  | succ fuel ih =>
      rw [rounds]
      split_ifs with hdone
      · exact Finset.union_eq_left.mp hdone
      · refine ih ?_
        have := card_sdiff_lt hdone
        omega

/-- What the start has and every round keeps, the loop keeps. -/
theorem rounds_induction {P : α → Prop} (hnext : ∀ t, (∀ a ∈ t, P a) → ∀ a ∈ g.next t, P a)
    (fuel : Nat) (hstart : ∀ a ∈ s, P a) : ∀ a ∈ g.rounds fuel s, P a := by
  induction fuel generalizing s with
  | zero => exact hstart
  | succ fuel ih =>
      rw [rounds]
      split_ifs
      · exact hstart
      · refine ih fun a ha => ?_
        obtain hold | hnew := Finset.mem_union.mp ha
        · exact hstart a hold
        · exact hnext s hstart a hnew

theorem subset_saturate (s : Finset α) : s ⊆ g.saturate s := subset_rounds _ s

/-- **The loop ends.** -/
theorem closed_saturate (s : Finset α) : g.Closed (g.saturate s) :=
  closed_rounds (Finset.card_le_card Finset.sdiff_subset)

/-- **What the loop ends with is no more than was brought in.** -/
theorem saturate_induction {P : α → Prop} (hstart : ∀ a ∈ s, P a)
    (hnext : ∀ t, (∀ a ∈ t, P a) → ∀ a ∈ g.next t, P a) : ∀ a ∈ g.saturate s, P a :=
  rounds_induction hnext _ hstart

end Growth

end Launchplane
