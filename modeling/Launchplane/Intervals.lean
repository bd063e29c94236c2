import Mathlib.Data.List.Sort
import Mathlib.Data.Prod.Lex
import Mathlib.Order.Bounds.Basic

/-!
# Launchplane.Intervals

**Half-open intervals on a line.** A list of intervals covers what lies in one of
them. Another interval can be cut out of all of them, and a single pass over the
sorted list finds the first point from a given one on that is not covered.
-/

namespace Launchplane.Intervals

variable {α : Type} [LinearOrder α]

/-- The point lies in one of the intervals. -/
def Covers (intervals : List (α × α)) (t : α) : Prop := ∃ i ∈ intervals, i.1 ≤ t ∧ t < i.2

@[simp] theorem not_covers_nil (t : α) : ¬ Covers ([] : List (α × α)) t := by simp [Covers]

theorem covers_cons {i : α × α} {rest : List (α × α)} {t : α} :
    Covers (i :: rest) t ↔ (i.1 ≤ t ∧ t < i.2) ∨ Covers rest t := by
  simp [Covers, List.mem_cons, or_and_right, exists_or]

theorem covers_perm {a b : List (α × α)} (h : a.Perm b) (t : α) : Covers a t ↔ Covers b t := by
  simp only [Covers, h.mem_iff]

/-! ### Cutting out -/

/-- What is left of one interval. -/
def cutOne (start stop : α) (i : α × α) : List (α × α) :=
  if stop ≤ i.1 ∨ i.2 ≤ start then [i]
  else (if i.1 < start then [(i.1, start)] else []) ++ (if stop < i.2 then [(stop, i.2)] else [])

/-- What is left of the intervals. -/
def cut (start stop : α) (intervals : List (α × α)) : List (α × α) :=
  intervals.flatMap (cutOne start stop)

theorem covers_append {a b : List (α × α)} {t : α} :
    Covers (a ++ b) t ↔ Covers a t ∨ Covers b t := by
  simp only [Covers, List.mem_append, or_and_right, exists_or]

theorem covers_ite {a b t : α} :
    Covers (if a < b then [(a, b)] else []) t ↔ a ≤ t ∧ t < b := by
  split_ifs with h
  · simp [Covers]
  · simp only [not_covers_nil, false_iff, not_and, not_lt]
    exact fun hat => (not_lt.mp h).trans hat

theorem covers_cutOne {start stop t : α} {i : α × α} :
    Covers (cutOne start stop i) t ↔ (i.1 ≤ t ∧ t < i.2) ∧ ¬ (start ≤ t ∧ t < stop) := by
  by_cases happart : stop ≤ i.1 ∨ i.2 ≤ start
  · rw [cutOne, if_pos happart]
    simp only [Covers, List.mem_singleton, exists_eq_left, iff_self_and]
    rintro ⟨hi, hi'⟩ ⟨hs, hs'⟩
    obtain h | h := happart
    · exact absurd (hs'.trans_le h) (not_lt.mpr hi)
    · exact absurd (h.trans hs) (not_le.mpr hi')
  · rw [cutOne, if_neg happart, covers_append, covers_ite, covers_ite]
    rw [not_or, not_le, not_le] at happart
    constructor
    · rintro (⟨hi, hs⟩ | ⟨hs, hi⟩)
      · exact ⟨⟨hi, hs.trans happart.2⟩, fun h => absurd hs (not_lt.mpr h.1)⟩
      · exact ⟨⟨happart.1.le.trans hs, hi⟩, fun h => absurd h.2 (not_lt.mpr hs)⟩
    · rintro ⟨⟨hi, hi'⟩, hout⟩
      by_cases hs : t < start
      · exact .inl ⟨hi, hs⟩
      · exact .inr ⟨not_lt.mp fun h => hout ⟨not_lt.mp hs, h⟩, hi'⟩

theorem covers_cut {start stop t : α} {intervals : List (α × α)} :
    Covers (cut start stop intervals) t ↔ Covers intervals t ∧ ¬ (start ≤ t ∧ t < stop) := by
  induction intervals with
  | nil => simp [cut]
  | cons i rest ih =>
      rw [cut, List.flatMap_cons, ← cut, covers_append, covers_cutOne, ih, covers_cons]
      tauto

/-! ### The first point that is not covered -/

/-- One pass over sorted intervals: follow them from a point on until there is a gap. -/
def follow : α → List (α × α) → α
  | point, [] => point
  | point, i :: rest =>
      if i.1 ≤ point ∧ point < i.2 then follow i.2 rest
      else if point < i.1 then point
      else follow point rest

theorem le_follow (point : α) (intervals : List (α × α)) : point ≤ follow point intervals := by
  induction intervals generalizing point with
  | nil => exact le_rfl
  | cons i rest ih =>
      rw [follow]
      split_ifs with hin hgap
      · exact hin.2.le.trans (ih i.2)
      · exact le_rfl
      · exact ih point

/-- What the pass went over is covered. -/
theorem covers_of_lt_follow {point t : α} {intervals : List (α × α)} (hle : point ≤ t)
    (hlt : t < follow point intervals) : Covers intervals t := by
  induction intervals generalizing point with
  | nil => exact absurd hlt (not_lt.mpr hle)
  | cons i rest ih =>
      rw [follow] at hlt
      rw [covers_cons]
      split_ifs at hlt with hin hgap
      · by_cases ht : t < i.2
        · exact .inl ⟨hin.1.trans hle, ht⟩
        · exact .inr (ih (not_lt.mp ht) hlt)
      · exact absurd hlt (not_lt.mpr hle)
      · exact .inr (ih hle hlt)

/-- Where the pass ends, no interval is in progress. -/
theorem not_covers_follow {point : α} {intervals : List (α × α)}
    (hsorted : intervals.Pairwise fun a b => a.1 ≤ b.1) :
    ¬ Covers intervals (follow point intervals) := by
  induction intervals generalizing point with
  | nil => simp
  | cons i rest ih =>
      obtain ⟨hfirst, hrest⟩ := List.pairwise_cons.mp hsorted
      rw [follow, covers_cons]
      split_ifs with hin hgap
      · rintro (⟨-, hlt⟩ | hcovers)
        · exact absurd hlt (not_lt.mpr (le_follow i.2 rest))
        · exact ih hrest hcovers
      · -- Everything that follows begins later still.
        rintro (⟨hle, -⟩ | ⟨j, hj, hle, -⟩)
        · exact absurd hgap (not_lt.mpr hle)
        · exact absurd hgap (not_lt.mpr ((hfirst j hj).trans hle))
      · rintro (⟨-, hlt⟩ | hcovers)
        · have hpast : i.2 ≤ point := not_lt.mp fun h => hin ⟨not_lt.mp hgap, h⟩
          exact absurd hlt (not_lt.mpr (hpast.trans (le_follow point rest)))
        · exact ih hrest hcovers

/-- `sorted(intervals)`. -/
def sorted (intervals : List (α × α)) : List (α × α) :=
  intervals.insertionSort fun a b => toLex a ≤ toLex b

/-- **The first uncovered point** from a given one on. -/
theorem isLeast_follow (point : α) (intervals : List (α × α)) :
    IsLeast {t | point ≤ t ∧ ¬ Covers intervals t} (follow point (sorted intervals)) := by
  have hperm : (sorted intervals).Perm intervals := List.perm_insertionSort _ _
  have hpairwise : (sorted intervals).Pairwise fun a b => toLex a ≤ toLex b :=
    List.pairwise_insertionSort _ _
  have hsorted : (sorted intervals).Pairwise fun a b => a.1 ≤ b.1 :=
    hpairwise.imp fun h => (Prod.Lex.le_iff.mp h).elim le_of_lt fun h => h.1.le
  refine ⟨⟨le_follow _ _, fun h => not_covers_follow hsorted ((covers_perm hperm _).mpr h)⟩, ?_⟩
  rintro t ⟨hle, hnot⟩
  by_contra hlt
  exact hnot ((covers_perm hperm t).mp (covers_of_lt_follow hle (not_le.mp hlt)))

end Launchplane.Intervals
