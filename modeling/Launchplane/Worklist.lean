import Mathlib.Algebra.BigOperators.Group.Finset.Basic
import Mathlib.Algebra.Order.BigOperators.Group.Finset
import Mathlib.Logic.Relation

/-!
# Launchplane.Worklist

**Everything that can be reached.** A worklist keeps what is still to be looked
at: it takes the next element, leaves it alone if it was seen, and otherwise
notes it and adds its successors. On a finite graph this ends with exactly the
elements that can be reached, whatever the order of the successors and however
the graph winds back on itself.

`explore` answers `none` when its fuel runs out; `explore_eq_some` is that a
budget of one step for the start and one for every edge is enough.
-/

namespace Launchplane.Worklist

variable {α : Type} (next : α → List α)

/-- The worklist loop, from what is pending and what was seen. -/
def explore [DecidableEq α] : Nat → List α → List α → Option (List α)
  | _, [], seen => some seen
  | 0, _ :: _, _ => none
  | fuel + 1, x :: pending, seen =>
      if x ∈ seen then explore fuel pending seen
      else explore fuel (next x ++ pending) (x :: seen)

/-- `b` can be reached from `a`. -/
def Reaches : α → α → Prop := Relation.ReflTransGen fun a b => b ∈ next a

/-- The steps that are left: one for every pending element and for every edge not yet followed. -/
def remaining [DecidableEq α] (nodes : Finset α) (pending seen : List α) : Nat :=
  pending.length + ∑ x ∈ nodes.filter (· ∉ seen), (next x).length

variable {next}

/-- What the loop keeps true, for a start among nodes that no edge leads out of. -/
structure Inv (next : α → List α) (nodes : Finset α) (start : α) (pending seen : List α) :
    Prop where
  reached : ∀ x ∈ pending ++ seen, Reaches next start x
  inside : ∀ x ∈ pending, x ∈ nodes
  started : start ∈ pending ∨ start ∈ seen
  followed : ∀ x ∈ seen, ∀ y ∈ next x, y ∈ pending ∨ y ∈ seen

theorem Inv.skip {nodes : Finset α} {start x : α} {pending seen : List α}
    (h : Inv next nodes start (x :: pending) seen) (hx : x ∈ seen) :
    Inv next nodes start pending seen where
  reached y hy := h.reached y (List.mem_cons_of_mem _ hy)
  inside y hy := h.inside y (List.mem_cons_of_mem _ hy)
  started := by
    obtain hstart | hstart := h.started
    · obtain rfl | hstart := List.mem_cons.mp hstart
      · exact .inr hx
      · exact .inl hstart
    · exact .inr hstart
  followed y hy z hz := by
    obtain hmem | hmem := h.followed y hy z hz
    · obtain rfl | hmem := List.mem_cons.mp hmem
      · exact .inr hx
      · exact .inl hmem
    · exact .inr hmem

theorem Inv.follow {nodes : Finset α} {start x : α} {pending seen : List α}
    (hclosed : ∀ x ∈ nodes, ∀ y ∈ next x, y ∈ nodes)
    (h : Inv next nodes start (x :: pending) seen) :
    Inv next nodes start (next x ++ pending) (x :: seen) where
  reached y hy := by
    have hx : Reaches next start x := h.reached x List.mem_cons_self
    simp only [List.append_assoc, List.mem_append, List.mem_cons] at hy
    obtain hnext | hpending | rfl | hseen := hy
    · exact hx.tail hnext
    · exact h.reached y (by simp [hpending])
    · exact hx
    · exact h.reached y (by simp [hseen])
  inside y hy := by
    obtain hnext | hpending := List.mem_append.mp hy
    · exact hclosed x (h.inside x List.mem_cons_self) y hnext
    · exact h.inside y (List.mem_cons_of_mem _ hpending)
  started := by
    obtain hstart | hstart := h.started
    · obtain rfl | hstart := List.mem_cons.mp hstart
      · exact .inr List.mem_cons_self
      · exact .inl (List.mem_append_right _ hstart)
    · exact .inr (List.mem_cons_of_mem _ hstart)
  followed y hy z hz := by
    obtain rfl | hy := List.mem_cons.mp hy
    · exact .inl (List.mem_append_left _ hz)
    · obtain hmem | hmem := h.followed y hy z hz
      · obtain rfl | hmem := List.mem_cons.mp hmem
        · exact .inr List.mem_cons_self
        · exact .inl (List.mem_append_right _ hmem)
      · exact .inr (List.mem_cons_of_mem _ hmem)

/-- With nothing left to look at, what was seen is what can be reached. -/
theorem Inv.mem_iff {nodes : Finset α} {start : α} {seen : List α}
    (h : Inv next nodes start [] seen) (x : α) : x ∈ seen ↔ Reaches next start x := by
  refine ⟨fun hx => h.reached x (by simpa using hx), fun hx => ?_⟩
  -- Along a path: the start was seen, and so was whatever follows a seen element.
  induction hx with
  | refl => simpa using h.started
  | tail _ hnext ih => simpa using h.followed _ ih _ hnext

variable [DecidableEq α]

/-- Following a node spends its edges. -/
theorem remaining_follow {nodes : Finset α} {x : α} {pending seen : List α} (hx : x ∈ nodes)
    (hnew : x ∉ seen) :
    remaining next nodes (next x ++ pending) (x :: seen) + 1 =
      remaining next nodes (x :: pending) seen := by
  have herase : nodes.filter (· ∉ x :: seen) = (nodes.filter (· ∉ seen)).erase x := by
    ext y
    simp only [Finset.mem_filter, Finset.mem_erase, List.mem_cons, not_or]
    tauto
  have hmem : x ∈ nodes.filter (· ∉ seen) := Finset.mem_filter.mpr ⟨hx, hnew⟩
  have hsum := Finset.add_sum_erase _ (fun y => (next y).length) hmem
  simp only [remaining, herase, List.length_append, List.length_cons]
  omega

/-- The loop ends with what can be reached, if its fuel covers what remains. -/
theorem explore_of_inv {nodes : Finset α} (hclosed : ∀ x ∈ nodes, ∀ y ∈ next x, y ∈ nodes)
    {start : α} (fuel : Nat) (pending seen : List α)
    (hfuel : remaining next nodes pending seen ≤ fuel) (h : Inv next nodes start pending seen) :
    ∃ result, explore next fuel pending seen = some result ∧
      ∀ x, x ∈ result ↔ Reaches next start x := by
  induction fuel generalizing pending seen with
  | zero =>
      cases pending with
      | nil => exact ⟨seen, rfl, h.mem_iff⟩
      | cons x pending =>
          simp only [remaining, List.length_cons] at hfuel
          omega
  | succ fuel ih =>
      cases pending with
      | nil => exact ⟨seen, by simp [explore], h.mem_iff⟩
      | cons x pending =>
          by_cases hx : x ∈ seen
          · simp only [explore, if_pos hx]
            refine ih pending seen ?_ (h.skip hx)
            simp only [remaining, List.length_cons] at hfuel ⊢
            omega
          · simp only [explore, if_neg hx]
            have hmem : x ∈ nodes := h.inside x List.mem_cons_self
            refine ih _ _ ?_ (h.follow hclosed)
            have hspent := @remaining_follow _ next _ nodes x pending seen hmem hx
            omega

variable (next) in
/-- A search from one element finds what can be reached from it. -/
theorem explore_eq_some {nodes : Finset α} (hclosed : ∀ x ∈ nodes, ∀ y ∈ next x, y ∈ nodes)
    {start : α} (hstart : start ∈ nodes) {fuel : Nat}
    (hfuel : 1 + ∑ x ∈ nodes, (next x).length ≤ fuel) :
    ∃ result, explore next fuel [start] [] = some result ∧
      ∀ x, x ∈ result ↔ Reaches next start x := by
  refine explore_of_inv hclosed fuel [start] [] (by simpa [remaining] using hfuel) ?_
  exact { reached := by simp [Reaches, Relation.ReflTransGen.refl]
          inside := by simpa using hstart
          started := by simp
          followed := by simp }

end Launchplane.Worklist
