import Mathlib.Logic.Relation

/-!
# Launchplane.Interaction.Prog

**Programs that talk to an environment.** A `Prog ρ α` performs calls `i : ι`,
each answered by some `r : ρ i`, and returns an `α`. Nothing is said here about
what the calls are: a call may be a request to a remote service, a transaction
of a store or the reading of a clock.

What an answer may be and what a call does to the world is an *environment*
`E : Env ρ σ`, a relation. `wp E I p Q s` says that, whatever is answered, the
invariant `I` holds in every state of `p` from `s`, including the ones between two
calls, and that `Q` holds of what `p` returns.
-/

namespace Launchplane.Interaction

/-- A program over the interface `ρ`: return, or perform a call and go on with its answer. -/
inductive Prog {ι : Type} (ρ : ι → Type) (α : Type) : Type
  | ret (a : α)
  | call (i : ι) (k : ρ i → Prog ρ α)

/-- An environment: in a state, which answers a call may get and which state it leaves. -/
abbrev Env {ι : Type} (ρ : ι → Type) (σ : Type) := σ → (i : ι) → ρ i → σ → Prop

namespace Prog

variable {ι : Type} {ρ : ι → Type} {σ α β γ : Type}

/-- Sequencing: graft `f` onto every return of the program. -/
protected def bind : Prog ρ α → (α → Prog ρ β) → Prog ρ β
  | ret a, f => f a
  | call i k, f => call i fun r => (k r).bind f

instance : Monad (Prog ρ) where
  pure := ret
  bind := Prog.bind

/-- Perform one call and return its answer. -/
def op (i : ι) : Prog ρ (ρ i) := call i ret

@[simp] theorem pure_eq (a : α) : (pure a : Prog ρ α) = ret a := rfl
@[simp] theorem ret_bind (a : α) (f : α → Prog ρ β) : ret a >>= f = f a := rfl
@[simp] theorem call_bind (i : ι) (k : ρ i → Prog ρ α) (f : α → Prog ρ β) :
    call i k >>= f = call i fun r => k r >>= f := rfl
@[simp] theorem op_bind (i : ι) (f : ρ i → Prog ρ β) : op i >>= f = call i f := rfl

@[simp] theorem bind_ret (p : Prog ρ α) : p >>= ret = p := by
  induction p with
  | ret a => rfl
  | call i k ih => simp only [call_bind, ih]

theorem bind_assoc (p : Prog ρ α) (f : α → Prog ρ β) (g : β → Prog ρ γ) :
    p >>= f >>= g = p >>= fun a => f a >>= g := by
  induction p with
  | ret a => rfl
  | call i k ih => simp only [call_bind, ih]

instance : LawfulMonad (Prog ρ) :=
  LawfulMonad.mk' (Prog ρ) (fun p => bind_ret p) (fun _ _ => rfl) bind_assoc

/-! ### Runs -/

/-- Run for a number of calls against an environment that is a function, to compute with concrete
answers. -/
def advance (answer : σ → (i : ι) → ρ i × σ) : Nat → Prog ρ α → σ → Prog ρ α × σ
  | 0, p, s => (p, s)
  | _ + 1, ret a, s => (ret a, s)
  | n + 1, call i k, s => (k (answer s i).1).advance answer n (answer s i).2

/-! ### Weakest preconditions -/

variable {E : Env ρ σ} {I : σ → Prop}

/-- `I` holds in every state of every run from here, and `Q` of the answer. -/
def wp (E : Env ρ σ) (I : σ → Prop) : Prog ρ α → (α → σ → Prop) → σ → Prop
  | ret a, Q, s => I s ∧ Q a s
  | call i k, Q, s => I s ∧ ∀ r s', E s i r s' → (k r).wp E I Q s'

@[simp] theorem wp_ret (a : α) (Q : α → σ → Prop) (s : σ) :
    (ret a : Prog ρ α).wp E I Q s ↔ I s ∧ Q a s := Iff.rfl

@[simp] theorem wp_call (i : ι) (k : ρ i → Prog ρ α) (Q : α → σ → Prop) (s : σ) :
    (call i k).wp E I Q s ↔ I s ∧ ∀ r s', E s i r s' → (k r).wp E I Q s' := Iff.rfl

theorem wp_inv {p : Prog ρ α} {Q : α → σ → Prop} {s : σ} (h : p.wp E I Q s) : I s := by
  cases p with
  | ret a => exact h.1
  | call i k => exact h.1

/-- The consequence rule. -/
theorem wp_mono {p : Prog ρ α} {Q Q' : α → σ → Prop} {s : σ} (h : p.wp E I Q s)
    (hQ : ∀ a s', I s' → Q a s' → Q' a s') : p.wp E I Q' s := by
  induction p generalizing s with
  | ret a => exact ⟨h.1, hQ a s h.1 h.2⟩
  | call i k ih => exact ⟨h.1, fun r s' hE => ih r (h.2 r s' hE)⟩

/-- The sequencing rule. -/
theorem wp_bind {p : Prog ρ α} {f : α → Prog ρ β} {Q : β → σ → Prop} {s : σ} :
    (p >>= f).wp E I Q s ↔ p.wp E I (fun a s' => (f a).wp E I Q s') s := by
  induction p generalizing s with
  | ret a => exact ⟨fun h => ⟨wp_inv h, h⟩, fun h => h.2⟩
  | call i k ih => simp only [call_bind, wp_call, ih]

end Prog

end Launchplane.Interaction
