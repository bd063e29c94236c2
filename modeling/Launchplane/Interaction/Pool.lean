import Mathlib.Logic.Function.Basic
import Launchplane.Interaction.Quiet

/-!
# Launchplane.Interaction.Pool

**Many processes over one world.** A pool is what each process has left to do,
and the world they share. Its runs interleave the calls of the processes with
steps of the world itself. A process can be restarted at any time, which is also
how it crashes; one that is never scheduled again has stalled for good.

A `Protocol` says, from the point of view of one process, which calls it may
make in each *phase* and how an answer moves it on. That a program follows a
protocol is a fact about its text alone (`Follows`, derived with the rules for
`Conducts`): no state of the world and no other process occurs in it.
`exists_phases` is what makes such facts useful. If every program follows the
protocol, every run of the pool is a run of the phases, so that an invariant of
the pool needs to be shown for the steps of the protocol only.
-/

namespace Launchplane.Interaction

variable {ι : Type} {ρ : ι → Type} {ε σ ω α Φ : Type}

/-- Which calls a process may make in a phase, and the phase an answer leads to. -/
structure Protocol (ρ : ι → Type) (Φ : Type) where
  Allowed : Φ → ι → Prop
  next : Φ → (i : ι) → ρ i → Φ

instance [Nonempty ε] (i : ι) : Nonempty (Fallible ε ρ i) :=
  ⟨.error (Classical.arbitrary ε)⟩

namespace Protocol

/-- The protocol as an environment: every answer is possible, and a call that the phase does not
allow leads to `none`, from where nothing leads back. -/
def env (P : Protocol ρ Φ) : Env ρ (Option Φ) := fun s i r s' =>
  match s with
  | none => s' = none
  | some phase => P.Allowed phase i ∧ s' = some (P.next phase i r) ∨
      ¬ P.Allowed phase i ∧ s' = none

/-- The invariant under which a program stays within the protocol. -/
def Kept (s : Option Φ) : Prop := s.isSome = true

/-- From this phase on, the program makes only calls its phase allows. -/
def Follows (P : Protocol ρ Φ) (p : Prog ρ α) (phase : Φ) : Prop :=
  p.wp P.env Kept (fun _ _ => True) (some phase)

variable {P : Protocol ρ Φ} {phase : Φ}

theorem wp_call [∀ i, Nonempty (ρ i)] {i : ι} {k : ρ i → Prog ρ α}
    {Q : α → Option Φ → Prop} :
    (Prog.call i k).wp P.env Kept Q (some phase) ↔
      P.Allowed phase i ∧ ∀ r, (k r).wp P.env Kept Q (some (P.next phase i r)) := by
  rw [Prog.wp_call]
  constructor
  · rintro ⟨-, h⟩
    have hallowed : P.Allowed phase i := by
      by_contra hnot
      -- the call gets some answer, and that leads out of the protocol
      have hout := Prog.wp_inv (h (Classical.arbitrary _) none (.inr ⟨hnot, rfl⟩))
      cases hout
    exact ⟨hallowed, fun r => h r _ (.inl ⟨hallowed, rfl⟩)⟩
  · rintro ⟨hallowed, hk⟩
    refine ⟨rfl, ?_⟩
    rintro r s' (⟨-, rfl⟩ | ⟨hnot, -⟩)
    · exact hk r
    · exact absurd hallowed hnot

end Protocol

/-! ### Programs that may raise -/

namespace Protocol

variable {β : Type} {P : Protocol ρ Φ} {phase : Φ}

/-- The program stays within the protocol, and `Q` or `X` holds of what it returns or raises and of
the phase it ends in. -/
def Conducts (P : Protocol ρ Φ) (p : Act ρ ε α) (Q : α → Φ → Prop) (X : ε → Φ → Prop)
    (phase : Φ) : Prop :=
  Act.wp P.env Kept p (fun a s => ∃ φ, s = some φ ∧ Q a φ) (fun e s => ∃ φ, s = some φ ∧ X e φ)
    (some phase)

variable {Q Q' : α → Φ → Prop} {X X' : ε → Φ → Prop}

@[simp] theorem conducts_pure (a : α) :
    P.Conducts (pure a : Act ρ ε α) Q X phase ↔ Q a phase := by
  simp [Conducts, Kept]

@[simp] theorem conducts_throw (e : ε) :
    P.Conducts (throw e : Act ρ ε α) Q X phase ↔ X e phase := by
  simp [Conducts, Kept]

theorem conducts_ofExcept {x : Except ε α} :
    P.Conducts (Act.ofExcept x : Act ρ ε α) Q X phase ↔
      (∀ a, x = .ok a → Q a phase) ∧ ∀ e, x = .error e → X e phase := by
  simp [Conducts, Act.wp_ofExcept, Kept]

theorem conducts_mono {p : Act ρ ε α} (h : P.Conducts p Q X phase)
    (hQ : ∀ a φ, Q a φ → Q' a φ) (hX : ∀ e φ, X e φ → X' e φ) : P.Conducts p Q' X' phase := by
  refine Act.wp_mono h ?_ ?_
  · rintro a _ - ⟨φ, rfl, h⟩
    exact ⟨φ, rfl, hQ a φ h⟩
  · rintro e _ - ⟨φ, rfl, h⟩
    exact ⟨φ, rfl, hX e φ h⟩

@[simp] theorem conducts_bind {p : Act ρ ε α} {f : α → Act ρ ε β} {Q : β → Φ → Prop} :
    P.Conducts (p >>= f) Q X phase ↔
      P.Conducts p (fun a φ => P.Conducts (f a) Q X φ) X phase := by
  simp only [Conducts, Act.wp_bind]
  constructor <;> intro h <;> refine Act.wp_mono h ?_ (fun _ _ _ h => h) <;> intro a s hs h
  · obtain ⟨φ, rfl⟩ := Option.isSome_iff_exists.mp hs
    exact ⟨φ, rfl, h⟩
  · obtain ⟨φ, rfl, h⟩ := h
    exact h

@[simp] theorem conducts_tryCatch {p : Act ρ ε α} {handler : ε → Act ρ ε α} :
    P.Conducts (tryCatch p handler) Q X phase ↔
      P.Conducts p Q (fun e φ => P.Conducts (handler e) Q X φ) phase := by
  simp only [Conducts, Act.wp_tryCatch]
  constructor <;> intro h <;> refine Act.wp_mono h (fun _ _ _ h => h) ?_ <;> intro e s hs h
  · obtain ⟨φ, rfl⟩ := Option.isSome_iff_exists.mp hs
    exact ⟨φ, rfl, h⟩
  · obtain ⟨φ, rfl, h⟩ := h
    exact h

/-- The rule of one call that may raise. -/
theorem conducts_perform {ρ : ι → Type} [Nonempty ε] {P : Protocol (Fallible ε ρ) Φ} {phase : Φ}
    {i : ι} {Q : ρ i → Φ → Prop} {X : ε → Φ → Prop} :
    P.Conducts (Act.perform i) Q X phase ↔
      P.Allowed phase i ∧ (∀ a, Q a (P.next phase i (.ok a))) ∧
        ∀ e, X e (P.next phase i (.error e)) := by
  unfold Conducts Act.wp Act.perform
  rw [ExceptT.run_mk, Prog.op, wp_call]
  simp only [Prog.wp_ret, Kept, Option.isSome_some, true_and]
  constructor
  · rintro ⟨hallowed, h⟩
    exact ⟨hallowed, fun a => by simpa using h (.ok a), fun e => by simpa using h (.error e)⟩
  · rintro ⟨hallowed, hok, herror⟩
    refine ⟨hallowed, ?_⟩
    rintro (e | a)
    · exact ⟨_, rfl, herror e⟩
    · exact ⟨_, rfl, hok a⟩

/-- A part whose calls are always allowed and leave the phase as it is. -/
theorem conducts_of_only {p : Act ρ ε α} {C : ι → Prop} {Q : α → Prop} (honly : Act.Only C p)
    (hgives : Act.Gives Q p) (hallowed : ∀ i, C i → P.Allowed phase i)
    (hnext : ∀ i r, C i → P.next phase i r = phase) :
    P.Conducts p (fun a φ => φ = phase ∧ Q a) (fun _ φ => φ = phase) phase := by
  refine Act.wp_mono (Act.wp_of_only (R := (· = some phase)) honly hgives ?_ ?_ rfl) ?_ ?_
  · rintro _ i r s' rfl hC (⟨-, rfl⟩ | ⟨hnot, -⟩)
    · rw [hnext i r hC]
    · exact absurd (hallowed i hC) hnot
  · rintro _ rfl
    rfl
  · rintro a _ - ⟨rfl, ha⟩
    exact ⟨phase, rfl, rfl, ha⟩
  · rintro e _ - rfl
    exact ⟨phase, rfl, rfl⟩

theorem follows_of_conducts {p : Act ρ ε α} (h : P.Conducts p Q X phase) :
    P.Follows p.run phase :=
  Prog.wp_mono h fun _ _ _ _ => trivial

end Protocol

/-! ### One among others -/

/-- The world of one process among others, which make any number of calls between two of its own. -/
def amongOthers (E : ω → Env ρ σ) (w : ω) : Env ρ σ := fun s i r s' =>
  ∃ mid, Relation.ReflTransGen (fun s s' => ∃ v i r, E v s i r s') s mid ∧ E w mid i r s'

/-- What every call of every process keeps is there whenever the process makes its next call. -/
theorem exists_of_amongOthers {E : ω → Env ρ σ} {I : σ → Prop}
    (hkeeps : ∀ v s i r s', I s → E v s i r s' → I s') {w : ω} {s s' : σ} {i : ι} {r : ρ i}
    (hI : I s) (h : amongOthers E w s i r s') : ∃ mid, I mid ∧ E w mid i r s' := by
  obtain ⟨mid, hothers, hE⟩ := h
  refine ⟨mid, ?_, hE⟩
  clear hE
  induction hothers with
  | refl => exact hI
  | tail _ hstep ih =>
      obtain ⟨v, j, answer, hE⟩ := hstep
      exact hkeeps v _ j answer _ ih hE

/-! ### Runs -/

/-- What each process has left to do, and the world. -/
abbrev Pool (ρ : ι → Type) (σ ω α : Type) : Type := (ω → Prog ρ α) × σ

section Runs

variable [DecidableEq ω] (E : ω → Env ρ σ) (Other : σ → σ → Prop)

/-- One step of a pool: a process gets the answer of its next call, a process is restarted with a
program it may start with, or the world moves by itself. -/
inductive Pool.Step (Starts : ω → Prog ρ α → Prop) : Pool ρ σ ω α → Pool ρ σ ω α → Prop
  | call {process : ω → Prog ρ α} {s s' : σ} {i : ι} {k : ρ i → Prog ρ α} {r : ρ i} (w : ω)
      (hnext : process w = .call i k) (hE : E w s i r s') :
      Pool.Step Starts (process, s) (Function.update process w (k r), s')
  | restart {process : ω → Prog ρ α} {s : σ} {p : Prog ρ α} (w : ω) (hstart : Starts w p) :
      Pool.Step Starts (process, s) (Function.update process w p, s)
  | other {process : ω → Prog ρ α} {s s' : σ} (h : Other s s') :
      Pool.Step Starts (process, s) (process, s')

/-- The pools that can be reached. -/
abbrev Pool.Reaches (Starts : ω → Prog ρ α → Prop) : Pool ρ σ ω α → Pool ρ σ ω α → Prop :=
  Relation.ReflTransGen (Pool.Step E Other Starts)

variable {E Other} in
/-- A process may make any number of calls while the others wait. -/
theorem Pool.reaches_advance {Starts : ω → Prog ρ α → Prop} (w : ω)
    (answer : σ → (i : ι) → ρ i × σ) (hE : ∀ s i, E w s i (answer s i).1 (answer s i).2)
    (calls : Nat) (process : ω → Prog ρ α) (s : σ) :
    Pool.Reaches E Other Starts (process, s)
      (Function.update process w ((process w).advance answer calls s).1,
        ((process w).advance answer calls s).2) := by
  induction calls generalizing process s with
  | zero => rw [Prog.advance, Function.update_eq_self]
  | succ calls ih =>
      cases hp : process w with
      | ret a => rw [Prog.advance, ← hp, Function.update_eq_self]
      | call i k =>
          have hrun := ih (Function.update process w (k (answer s i).1)) (answer s i).2
          rw [Function.update_idem, Function.update_self] at hrun
          exact .head (.call w hp (hE s i)) hrun

/-- One step as the protocol sees it: the phases take the place of the programs. -/
inductive Protocol.Step (P : ω → Protocol ρ Φ) (initial : Φ) :
    (ω → Φ) × σ → (ω → Φ) × σ → Prop
  | call {phase : ω → Φ} {s s' : σ} {i : ι} {r : ρ i} (w : ω)
      (hallowed : (P w).Allowed (phase w) i) (hE : E w s i r s') :
      Step P initial (phase, s) (Function.update phase w ((P w).next (phase w) i r), s')
  | restart {phase : ω → Φ} {s : σ} (w : ω) :
      Step P initial (phase, s) (Function.update phase w initial, s)
  | other {phase : ω → Φ} {s s' : σ} (h : Other s s') :
      Step P initial (phase, s) (phase, s')

/-- The phases and worlds that can be reached. -/
abbrev Protocol.Reaches (P : ω → Protocol ρ Φ) (initial : Φ) :
    (ω → Φ) × σ → (ω → Φ) × σ → Prop :=
  Relation.ReflTransGen (Protocol.Step E Other P initial)

variable {E Other} {Starts : ω → Prog ρ α → Prop}

/-- A step of a pool whose programs follow the protocol is a step of the phases. -/
theorem Pool.Step.exists_phases [∀ i, Nonempty (ρ i)] {P : ω → Protocol ρ Φ} {initial : Φ}
    (hstarts : ∀ w p, Starts w p → (P w).Follows p initial) {x y : Pool ρ σ ω α}
    (h : Pool.Step E Other Starts x y) {phase : ω → Φ}
    (hx : ∀ w, (P w).Follows (x.1 w) (phase w)) :
    ∃ phase', Protocol.Step E Other P initial (phase, x.2) (phase', y.2) ∧
      ∀ w, (P w).Follows (y.1 w) (phase' w) := by
  cases h with
  | @call process s s' i k r w hnext hE =>
      have hw := hx w
      simp only [hnext, Protocol.Follows, Protocol.wp_call] at hw
      refine ⟨Function.update phase w ((P w).next (phase w) i r), .call w hw.1 hE, ?_⟩
      intro v
      by_cases hv : v = w
      · subst hv
        simpa [Protocol.Follows] using hw.2 r
      · simpa [hv] using hx v
  | @restart process s p w hstart =>
      refine ⟨Function.update phase w initial, .restart w, ?_⟩
      intro v
      by_cases hv : v = w
      · subst hv
        simpa using hstarts v p hstart
      · simpa [hv] using hx v
  | other h => exact ⟨phase, .other h, hx⟩

/-- **The rule for invariants of a pool** whose programs follow the protocol: what the calls keep
that the phases allow, the restarts and the world itself, holds in every pool reached. -/
theorem Pool.Reaches.exists_invariant [∀ i, Nonempty (ρ i)] {P : ω → Protocol ρ Φ} {initial : Φ}
    (hstarts : ∀ w p, Starts w p → (P w).Follows p initial) {I : (ω → Φ) → σ → Prop}
    (hcall : ∀ phase s w i r s', I phase s → (P w).Allowed (phase w) i → E w s i r s' →
      I (Function.update phase w ((P w).next (phase w) i r)) s')
    (hrestart : ∀ phase s w p, I phase s → Starts w p → I (Function.update phase w initial) s)
    (hother : ∀ phase s s', I phase s → Other s s' → I phase s') {x y : Pool ρ σ ω α}
    (h : Pool.Reaches E Other Starts x y) {phase : ω → Φ}
    (hx : ∀ w, (P w).Follows (x.1 w) (phase w)) (hI : I phase x.2) :
    ∃ phase', I phase' y.2 ∧ ∀ w, (P w).Follows (y.1 w) (phase' w) := by
  have hupdate {process : ω → Prog ρ α} {phase : ω → Φ} {w : ω} {p : Prog ρ α} {φ : Φ}
      (hfollows : ∀ v, (P v).Follows (process v) (phase v)) (hp : (P w).Follows p φ) (v : ω) :
      (P v).Follows (Function.update process w p v) (Function.update phase w φ v) := by
    by_cases hv : v = w
    · subst hv
      simpa using hp
    · simpa [hv] using hfollows v
  induction h with
  | refl => exact ⟨phase, hI, hx⟩
  | tail _ hstep ih =>
      obtain ⟨phase, hI, hfollows⟩ := ih
      cases hstep with
      | @call process s s' i k r w hnext hE =>
          have hw := hfollows w
          simp only [hnext, Protocol.Follows, Protocol.wp_call] at hw
          exact ⟨_, hcall phase s w i r s' hI hw.1 hE, hupdate hfollows (hw.2 r)⟩
      | restart w hstart =>
          exact ⟨_, hrestart phase _ w _ hI hstart, hupdate hfollows (hstarts w _ hstart)⟩
      | other hother' => exact ⟨phase, hother phase _ _ hI hother', hfollows⟩

/-- **Every run of a pool whose programs follow the protocol is a run of the phases.** -/
theorem Pool.Reaches.exists_phases [∀ i, Nonempty (ρ i)] {P : ω → Protocol ρ Φ} {initial : Φ}
    (hstarts : ∀ w p, Starts w p → (P w).Follows p initial) {x y : Pool ρ σ ω α}
    (h : Pool.Reaches E Other Starts x y) {phase : ω → Φ}
    (hx : ∀ w, (P w).Follows (x.1 w) (phase w)) :
    ∃ phase', Protocol.Reaches E Other P initial (phase, x.2) (phase', y.2) ∧
      ∀ w, (P w).Follows (y.1 w) (phase' w) := by
  induction h with
  | refl => exact ⟨phase, .refl, hx⟩
  | tail _ hstep ih =>
      obtain ⟨phase₁, hreach, hfollows⟩ := ih
      obtain ⟨phase₂, hstep', hfollows'⟩ := hstep.exists_phases hstarts hfollows
      exact ⟨phase₂, hreach.tail hstep', hfollows'⟩

end Runs

end Launchplane.Interaction
