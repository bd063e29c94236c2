import Mathlib.Data.List.Basic

/-!
# Launchplane.Chain.Linked

**Lists whose elements link up.** Each element of a chain starts somewhere and
ends somewhere; a list is `Linked` from a point when its first element starts
there and every other element starts where the one before it ended. `chainEnd`
is where the list ends. Nothing is said here about what the points are.
-/

namespace Launchplane.Chain

variable {α κ : Type} {start finish : α → κ}

/-- Where a chain from `k` ends: where its last element ends, or `k` itself. -/
def chainEnd (finish : α → κ) : κ → List α → κ
  | k, [] => k
  | _, a :: rest => chainEnd finish (finish a) rest

/-- The elements link up, from `k`. -/
def Linked (start finish : α → κ) : κ → List α → Prop
  | _, [] => True
  | k, a :: rest => start a = k ∧ Linked start finish (finish a) rest

@[simp] theorem chainEnd_nil (k : κ) : chainEnd finish k [] = k := rfl
@[simp] theorem chainEnd_cons (k : κ) (a : α) (rest : List α) :
    chainEnd finish k (a :: rest) = chainEnd finish (finish a) rest := rfl

@[simp] theorem linked_nil (k : κ) : Linked start finish k [] := trivial
@[simp] theorem linked_cons {k : κ} {a : α} {rest : List α} :
    Linked start finish k (a :: rest) ↔ start a = k ∧ Linked start finish (finish a) rest := Iff.rfl

theorem linked_append {k : κ} {l l' : List α} :
    Linked start finish k (l ++ l') ↔
      Linked start finish k l ∧ Linked start finish (chainEnd finish k l) l' := by
  induction l generalizing k with
  | nil => simp
  | cons a rest ih => rw [List.cons_append, linked_cons, linked_cons, ih, chainEnd_cons, and_assoc]

/-- Elements that stand for others link up as those do. -/
theorem linked_map {β : Type} {f : β → α} {k : κ} {l : List β} :
    Linked start finish k (l.map f) ↔ Linked (start ∘ f) (finish ∘ f) k l := by
  induction l generalizing k with
  | nil => rfl
  | cons b rest ih => simp only [List.map_cons, linked_cons, ih, Function.comp_apply]

/-- The element at a position starts where the elements before it end. -/
theorem Linked.start_getElem {k : κ} {l : List α} (h : Linked start finish k l) {n : Nat}
    (hn : n < l.length) : start l[n] = chainEnd finish k (l.take n) := by
  have hdrop := (linked_append.mp (List.take_append_drop n l ▸ h)).2
  rw [List.drop_eq_getElem_cons hn, linked_cons] at hdrop
  exact hdrop.1

/-- Two chains end at the same value of `f` when their elements do, one by one. -/
theorem chainEnd_congr {β κ' γ : Type} {finish' : β → κ'} {f : κ → γ} {g : κ' → γ} {k : κ} {k' : κ'}
    {l : List α} {l' : List β} (hk : f k = g k')
    (h : List.Forall₂ (fun a b => f (finish a) = g (finish' b)) l l') :
    f (chainEnd finish k l) = g (chainEnd finish' k' l') := by
  induction h generalizing k k' with
  | nil => exact hk
  | cons hab _ ih => exact ih hab

end Launchplane.Chain
