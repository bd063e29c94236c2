import Launchplane.Interaction.Act

/-!
# Launchplane.Interaction.Quiet

**Programs of which it matters little what they do.** Most parts of a program
only read. Two facts about such a part are enough for the rest: `Only C p`, it
makes no call outside a class `C`, and `Gives Q p`, whatever it returns satisfies
`Q` no matter how its calls are answered. Neither mentions a state, so both are
proved once and used at every place the part is called from
(`Act.wp_of_only`).
-/

namespace Launchplane.Interaction

namespace Prog

variable {ι : Type} {ρ : ι → Type} {σ α β : Type}

/-- Every call the program can come to make is in the class. -/
def Only (C : ι → Prop) : Prog ρ α → Prop
  | ret _ => True
  | call i k => C i ∧ ∀ r, (k r).Only C

/-- Every value the program can come to return satisfies `Q`. -/
def Gives (Q : α → Prop) : Prog ρ α → Prop
  | ret a => Q a
  | call _ k => ∀ r, (k r).Gives Q

theorem only_bind {C : ι → Prop} {p : Prog ρ α} {f : α → Prog ρ β} (hp : p.Only C)
    (hf : ∀ a, (f a).Only C) : (p >>= f).Only C := by
  induction p with
  | ret a => exact hf a
  | call i k ih => exact ⟨hp.1, fun r => ih r (hp.2 r)⟩

theorem gives_bind {Q : β → Prop} {p : Prog ρ α} {f : α → Prog ρ β}
    (h : p.Gives fun a => (f a).Gives Q) : (p >>= f).Gives Q := by
  induction p with
  | ret a => exact h
  | call i k ih => exact fun r => ih r (h r)

theorem Gives.mono {Q Q' : α → Prop} {p : Prog ρ α} (h : p.Gives Q) (hQ : ∀ a, Q a → Q' a) :
    p.Gives Q' := by
  induction p with
  | ret a => exact hQ a h
  | call i k ih => exact fun r => ih r (h r)

theorem gives_true {p : Prog ρ α} : p.Gives fun _ => True := by
  induction p with
  | ret a => exact trivial
  | call i k ih => exact fun r => ih r

/-- The calls of a class take a state only to states related to it, and so does a program that
makes no other calls. -/
theorem wp_of_only {E : Env ρ σ} {I : σ → Prop} {C : ι → Prop} {R : σ → Prop} {Q : α → Prop}
    {p : Prog ρ α} (honly : p.Only C) (hgives : p.Gives Q)
    (hstep : ∀ s i r s', R s → C i → E s i r s' → R s') (hI : ∀ s, R s → I s) {s : σ} (hs : R s) :
    p.wp E I (fun a s' => R s' ∧ Q a) s := by
  induction p generalizing s with
  | ret a => exact ⟨hI s hs, hs, hgives⟩
  | call i k ih =>
      exact ⟨hI s hs, fun r s' hE => ih r (honly.2 r) (hgives r) (hstep s i r s' hs honly.1 hE)⟩

end Prog

namespace Act

variable {ι : Type} {ρ : ι → Type} {ε σ α β : Type}

/-- Every call of the program is in the class. -/
def Only (C : ι → Prop) (p : Act ρ ε α) : Prop := Prog.Only C (ExceptT.run p)

/-- Every value the program returns without raising satisfies `Q`. -/
def Gives (Q : α → Prop) (p : Act ρ ε α) : Prop :=
  Prog.Gives (fun r => ∀ a, r = .ok a → Q a) (ExceptT.run p)

variable {C : ι → Prop} {Q : α → Prop}

theorem only_pure (a : α) : Only C (pure a : Act ρ ε α) := trivial

theorem only_ofExcept (x : Except ε α) : Only C (ofExcept x : Act ρ ε α) := trivial

theorem only_perform {ρ : ι → Type} {i : ι} (h : C i) :
    Only C (perform i : Act (Fallible ε ρ) ε (ρ i)) := ⟨h, fun _ => trivial⟩

theorem only_bind {p : Act ρ ε α} {f : α → Act ρ ε β} (hp : Only C p)
    (hf : ∀ a, Only C (f a)) : Only C (p >>= f) := by
  unfold Only at *
  rw [ExceptT.run_bind]
  refine Prog.only_bind hp fun r => ?_
  cases r with
  | ok a => exact hf a
  | error e => exact trivial

theorem only_ite {c : Prop} [Decidable c] {p q : Act ρ ε α} (hp : Only C p) (hq : Only C q) :
    Only C (if c then p else q) := by
  split
  · exact hp
  · exact hq

theorem gives_pure {a : α} (h : Q a) : Gives Q (pure a : Act ρ ε α) := by
  intro b hb
  cases hb
  exact h

theorem gives_ofExcept {x : Except ε α} (h : ∀ a, x = .ok a → Q a) :
    Gives Q (ofExcept x : Act ρ ε α) := h

theorem gives_any (p : Act ρ ε α) : Gives (fun _ => True) p :=
  Prog.gives_true.mono fun _ _ _ _ => trivial

theorem gives_bind {Q : β → Prop} {P : α → Prop} {p : Act ρ ε α} {f : α → Act ρ ε β}
    (hp : Gives P p) (hf : ∀ a, P a → Gives Q (f a)) : Gives Q (p >>= f) := by
  unfold Gives at *
  rw [ExceptT.run_bind]
  refine Prog.gives_bind (hp.mono fun r hr => ?_)
  cases r with
  | ok a => exact hf a (hr a rfl)
  | error e =>
      intro a ha
      cases ha

/-- What follows from the bind alone: nothing is known of the first value. -/
theorem gives_bind_any {Q : β → Prop} {p : Act ρ ε α} {f : α → Act ρ ε β}
    (hf : ∀ a, Gives Q (f a)) : Gives Q (p >>= f) := gives_bind (gives_any p) fun a _ => hf a

theorem gives_ite {c : Prop} [Decidable c] {p q : Act ρ ε α} (hp : c → Gives Q p)
    (hq : ¬ c → Gives Q q) : Gives Q (if c then p else q) := by
  split
  · rename_i h
    exact hp h
  · rename_i h
    exact hq h

/-- **A part that makes only calls of a class**: it keeps what these calls keep, and returns what
it returns however they are answered. -/
theorem wp_of_only {E : Env ρ σ} {I R : σ → Prop} {p : Act ρ ε α} (honly : Only C p)
    (hgives : Gives Q p) (hstep : ∀ s i r s', R s → C i → E s i r s' → R s')
    (hI : ∀ s, R s → I s) {s : σ} (hs : R s) :
    wp E I p (fun a s' => R s' ∧ Q a) (fun _ s' => R s') s := by
  unfold wp
  refine Prog.wp_mono (Prog.wp_of_only honly hgives hstep hI hs) ?_
  intro r s' _ hr
  cases r with
  | ok a => exact ⟨hr.1, hr.2 a rfl⟩
  | error e => exact hr.1

end Act

end Launchplane.Interaction
