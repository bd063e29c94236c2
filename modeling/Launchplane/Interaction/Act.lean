import Mathlib.Tactic.Common
import Launchplane.Interaction.Prog

/-!
# Launchplane.Interaction.Act

**Programs that may raise.** `Act ρ ε α` is a `Prog` whose return is a value or
an exception, with `throw` and `tryCatch` from `ExceptT`. A call of an interface
`Fallible ε ρ` is answered by a response or by an exception, so any call may
fail and the program decides whether it handles that.

`Act.wp E I p Q X s` is the weakest precondition of `Interaction.Prog` with the
two ways of leaving the program kept apart: `Q` of the returned value, `X` of the
exception. A process that dies is not an exception: the invariant `I` speaks
about the state it leaves behind.
-/

namespace Launchplane.Interaction

/-- Responses that may be exceptions instead. -/
abbrev Fallible {ι : Type} (ε : Type) (ρ : ι → Type) (i : ι) : Type := Except ε (ρ i)

/-- A program over `ρ` that returns an `α` or raises an `ε`. -/
abbrev Act {ι : Type} (ρ : ι → Type) (ε α : Type) : Type := ExceptT ε (Prog ρ) α

namespace Act

variable {ι : Type} {ρ : ι → Type} {ε σ α β : Type}

/-- Perform one call whose answer may be an exception. -/
def perform (i : ι) : Act (Fallible ε ρ) ε (ρ i) := ExceptT.mk (Prog.op i)

/-- The result of a computation that needs no call. -/
def ofExcept (x : Except ε α) : Act ρ ε α := ExceptT.mk (Prog.ret x)

/-- `I` holds in every state of every run, `Q` of a returned value, `X` of an exception. -/
def wp (E : Env ρ σ) (I : σ → Prop) (p : Act ρ ε α) (Q : α → σ → Prop) (X : ε → σ → Prop)
    (s : σ) : Prop :=
  Prog.wp E I (ExceptT.run p) (fun r s' => match r with
    | .ok a => Q a s'
    | .error e => X e s') s

variable {E : Env ρ σ} {I : σ → Prop} {Q Q' : α → σ → Prop} {X X' : ε → σ → Prop} {s : σ}

@[simp] theorem wp_pure (a : α) :
    wp E I (pure a : Act ρ ε α) Q X s ↔ I s ∧ Q a s := Iff.rfl

@[simp] theorem wp_throw (e : ε) :
    wp E I (throw e : Act ρ ε α) Q X s ↔ I s ∧ X e s := Iff.rfl

@[simp] theorem wp_ofExcept_ok (a : α) :
    wp E I (ofExcept (.ok a) : Act ρ ε α) Q X s ↔ I s ∧ Q a s := Iff.rfl

@[simp] theorem wp_ofExcept_error (e : ε) :
    wp E I (ofExcept (.error e) : Act ρ ε α) Q X s ↔ I s ∧ X e s := Iff.rfl

theorem wp_mono {p : Act ρ ε α} (h : wp E I p Q X s)
    (hQ : ∀ a s', I s' → Q a s' → Q' a s') (hX : ∀ e s', I s' → X e s' → X' e s') :
    wp E I p Q' X' s := by
  refine Prog.wp_mono h ?_
  rintro (e | a) s' hI h'
  · exact hX e s' hI h'
  · exact hQ a s' hI h'

@[simp] theorem wp_bind {p : Act ρ ε α} {f : α → Act ρ ε β} {Q : β → σ → Prop} :
    wp E I (p >>= f) Q X s ↔ wp E I p (fun a s' => wp E I (f a) Q X s') X s := by
  unfold wp
  rw [ExceptT.run_bind, Prog.wp_bind]
  constructor <;> intro h <;> refine Prog.wp_mono h ?_ <;> rintro (e | a) s' hI h'
  · exact h'.2
  · exact h'
  · exact ⟨hI, h'⟩
  · exact h'

@[simp] theorem wp_tryCatch {p : Act ρ ε α} {h : ε → Act ρ ε α} :
    wp E I (tryCatch p h) Q X s ↔ wp E I p Q (fun e s' => wp E I (h e) Q X s') s := by
  have hrun : (tryCatch p h).run = p.run >>= fun r => match r with
      | .ok a => pure (.ok a)
      | .error e => (h e).run := by
    simp only [ExceptT.run_tryCatch]
    congr 1
  unfold wp
  rw [hrun, Prog.wp_bind]
  constructor <;> intro hw <;> refine Prog.wp_mono hw ?_ <;> rintro (e | a) s' hI h'
  · exact h'
  · exact h'.2
  · exact h'
  · exact ⟨hI, h'⟩

theorem wp_ofExcept {x : Except ε α} :
    wp E I (ofExcept x : Act ρ ε α) Q X s ↔
      I s ∧ (∀ a, x = .ok a → Q a s) ∧ ∀ e, x = .error e → X e s := by
  cases x <;> simp

end Act

end Launchplane.Interaction
