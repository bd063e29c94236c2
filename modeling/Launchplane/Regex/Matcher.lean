import Mathlib.Data.List.Basic

/-!
# Launchplane.Regex.Matcher

**Regular expressions with ordered choice.** A matcher lists, in the order a
backtracking engine would try them, the ways to match a first part of its input.
The engine's match is the first of the list; what comes after it are the ways it
would fall back to, so composing lists is backtracking.

Each combinator has one lemma that says what its matches look like. Order does
not occur in these lemmas: they hold of every way to match.
-/

namespace Launchplane.Regex

/-- The ways to match a first part of the input, each with what remains of it. -/
def Matcher (α : Type) : Type := List Char → List (α × List Char)

namespace Matcher

variable {α β : Type}

instance : Monad Matcher where
  pure a := fun input => [(a, input)]
  bind m f := fun input => (m input).flatMap fun r => f r.1 r.2

/-- Try `m`, then `n`. -/
def or (m n : Matcher α) : Matcher α := fun input => m input ++ n input

/-- One character of a class. -/
def satisfy (p : Char → Bool) : Matcher Char
  | [] => []
  | c :: rest => if p c then [(c, rest)] else []

/-- A fixed text. -/
def literal : List Char → Matcher (List Char)
  | [] => pure []
  | c :: cs => do
    let c ← satisfy (· == c)
    let cs ← literal cs
    return c :: cs

/-- A test of the next character, which is not consumed; there is none at the end. -/
def lookAhead (p : Option Char → Bool) : Matcher Unit := fun input =>
  if p input.head? then [((), input)] else []

/-- `m?`, preferring a match. -/
def optional (m : Matcher α) : Matcher (Option α) :=
  or (do let a ← m; return some a) (pure none)

/-- `m*` for a matcher of non-empty texts, with at most so many turns. -/
def starUpTo (greedy : Bool) (m : Matcher (List Char)) : Nat → Matcher (List Char)
  | 0 => pure []
  | n + 1 =>
    let more : Matcher (List Char) := do
      let w ← m
      let ws ← starUpTo greedy m n
      return w ++ ws
    if greedy then or more (pure []) else or (pure []) more

/-- `m*`, or `m*?`: every turn consumes a character, so the input's length bounds the turns. -/
def star (greedy : Bool) (m : Matcher (List Char)) : Matcher (List Char) := fun input =>
  starUpTo greedy m input.length input

/-- A character of a class as a text. -/
def one (p : Char → Bool) : Matcher (List Char) := do
  let c ← satisfy p
  return [c]

/-- `[p]*`. -/
def many (p : Char → Bool) : Matcher (List Char) := star true (one p)

/-- `[p]+`. -/
def some1 (p : Char → Bool) : Matcher (List Char) := do
  let c ← satisfy p
  let cs ← many p
  return c :: cs

/-- `[p]*?`. -/
def lazyMany (p : Char → Bool) : Matcher (List Char) := star false (one p)

/-- `[p]+?`. -/
def lazySome (p : Char → Bool) : Matcher (List Char) := do
  let c ← satisfy p
  let cs ← lazyMany p
  return c :: cs

/-! ### What matches look like -/

theorem mem_pure {a b : α} {input rest : List Char} :
    (b, rest) ∈ (pure a : Matcher α) input ↔ b = a ∧ rest = input := by
  show (b, rest) ∈ [(a, input)] ↔ _
  rw [List.mem_singleton, Prod.mk.injEq]

theorem mem_bind {m : Matcher α} {f : α → Matcher β} {b : β} {input rest : List Char} :
    (b, rest) ∈ (m >>= f) input ↔ ∃ a mid, (a, mid) ∈ m input ∧ (b, rest) ∈ f a mid := by
  show (b, rest) ∈ (m input).flatMap _ ↔ _
  rw [List.mem_flatMap]
  constructor
  · intro h
    obtain ⟨⟨a, mid⟩, hm, hf⟩ := h
    exact ⟨a, mid, hm, hf⟩
  · intro h
    obtain ⟨a, mid, hm, hf⟩ := h
    exact ⟨(a, mid), hm, hf⟩

theorem mem_or {m n : Matcher α} {a : α} {input rest : List Char} :
    (a, rest) ∈ or m n input ↔ (a, rest) ∈ m input ∨ (a, rest) ∈ n input :=
  List.mem_append

theorem mem_satisfy {p : Char → Bool} {c : Char} {input rest : List Char} :
    (c, rest) ∈ satisfy p input ↔ input = c :: rest ∧ p c = true := by
  cases input with
  | nil => simp [satisfy]
  | cons d cs =>
      by_cases hd : p d = true
      · rw [satisfy, if_pos hd, List.mem_singleton, Prod.mk.injEq, List.cons.injEq]
        constructor
        · intro h
          obtain ⟨rfl, rfl⟩ := h
          exact ⟨⟨rfl, rfl⟩, hd⟩
        · intro h
          exact ⟨h.1.1.symm, h.1.2.symm⟩
      · rw [satisfy, if_neg hd, List.cons.injEq]
        constructor
        · intro h
          exact absurd h List.not_mem_nil
        · intro h
          exact absurd (h.1.1 ▸ h.2) hd

theorem mem_literal {w v : List Char} :
    ∀ {input rest : List Char}, (v, rest) ∈ literal w input → v = w ∧ input = w ++ rest := by
  induction w generalizing v with
  | nil =>
      intro input rest h
      obtain ⟨rfl, rfl⟩ := mem_pure.mp h
      exact ⟨rfl, rfl⟩
  | cons c cs ih =>
      intro input rest h
      obtain ⟨d, mid, hd, htail⟩ := mem_bind.mp h
      obtain ⟨ds, mid', hds, hret⟩ := mem_bind.mp htail
      obtain ⟨rfl, rfl⟩ := mem_pure.mp hret
      obtain ⟨rfl, rfl⟩ := ih hds
      obtain ⟨rfl, heq⟩ := mem_satisfy.mp hd
      obtain rfl := beq_iff_eq.mp heq
      exact ⟨rfl, rfl⟩

theorem mem_lookAhead {p : Option Char → Bool} {u : Unit} {input rest : List Char} :
    (u, rest) ∈ lookAhead p input ↔ rest = input ∧ p input.head? = true := by
  unfold lookAhead
  split <;> simp_all

theorem mem_optional {m : Matcher α} {a : Option α} {input rest : List Char}
    (h : (a, rest) ∈ optional m input) :
    (∃ b, a = some b ∧ (b, rest) ∈ m input) ∨ a = none ∧ rest = input := by
  rcases mem_or.mp h with h | h
  · obtain ⟨b, mid, hb, h⟩ := mem_bind.mp h
    obtain ⟨rfl, rfl⟩ := mem_pure.mp h
    exact .inl ⟨b, rfl, hb⟩
  · exact .inr (mem_pure.mp h)

/-- A repetition consumes turn after turn what its body consumes. -/
theorem mem_star {greedy : Bool} {m : Matcher (List Char)} {P : List Char → Prop}
    (hm : ∀ {input w rest : List Char}, (w, rest) ∈ m input → input = w ++ rest ∧ P w)
    {input w rest : List Char} (h : (w, rest) ∈ star greedy m input) :
    input = w ++ rest ∧ ∃ ws : List (List Char), w = ws.flatten ∧ ∀ v ∈ ws, P v := by
  unfold star at h
  generalize input.length = n at h
  induction n generalizing input w with
  | zero =>
      obtain ⟨rfl, rfl⟩ := mem_pure.mp h
      exact ⟨rfl, [], rfl, by simp⟩
  | succ n ih =>
      have hcases : (w, rest) ∈ (do let w ← m; let ws ← starUpTo greedy m n; return w ++ ws :
          Matcher (List Char)) input ∨ (w, rest) ∈ (pure [] : Matcher (List Char)) input := by
        cases greedy with
        | true => exact mem_or.mp h
        | false => exact (mem_or.mp h).symm
      rcases hcases with hmore | hstop
      · obtain ⟨v, mid, hv, hmore⟩ := mem_bind.mp hmore
        obtain ⟨v', mid', hv', hmore⟩ := mem_bind.mp hmore
        obtain ⟨rfl, rfl⟩ := mem_pure.mp hmore
        obtain ⟨rfl, hP⟩ := hm hv
        obtain ⟨rfl, ws, rfl, hws⟩ := ih hv'
        refine ⟨by rw [List.append_assoc], v :: ws, rfl, ?_⟩
        intro x hx
        rcases List.mem_cons.mp hx with rfl | hx
        · exact hP
        · exact hws x hx
      · obtain ⟨rfl, rfl⟩ := mem_pure.mp hstop
        exact ⟨rfl, [], rfl, by simp⟩

theorem mem_one {p : Char → Bool} {input w rest : List Char} (h : (w, rest) ∈ one p input) :
    input = w ++ rest ∧ ∃ c, w = [c] ∧ p c = true := by
  obtain ⟨c, mid, hc, h⟩ := mem_bind.mp h
  obtain ⟨rfl, rfl⟩ := mem_pure.mp h
  obtain ⟨rfl, hp⟩ := mem_satisfy.mp hc
  exact ⟨rfl, c, rfl, hp⟩

theorem mem_star_one {greedy : Bool} {p : Char → Bool} {input w rest : List Char}
    (h : (w, rest) ∈ star greedy (one p) input) : input = w ++ rest ∧ ∀ c ∈ w, p c = true := by
  obtain ⟨heq, ws, rfl, hws⟩ := mem_star mem_one h
  refine ⟨heq, ?_⟩
  intro c hc
  obtain ⟨v, hv, hcv⟩ := List.mem_flatten.mp hc
  obtain ⟨d, rfl, hd⟩ := hws v hv
  rw [List.mem_singleton.mp hcv]
  exact hd

theorem mem_cons_star {greedy : Bool} {p : Char → Bool} {input w rest : List Char}
    (h : (w, rest) ∈ (do let c ← satisfy p; let cs ← star greedy (one p); return c :: cs :
      Matcher (List Char)) input) :
    input = w ++ rest ∧ w ≠ [] ∧ ∀ c ∈ w, p c = true := by
  obtain ⟨c, mid, hc, h⟩ := mem_bind.mp h
  obtain ⟨cs, mid', hcs, h⟩ := mem_bind.mp h
  obtain ⟨rfl, rfl⟩ := mem_pure.mp h
  obtain ⟨rfl, hp⟩ := mem_satisfy.mp hc
  obtain ⟨rfl, hall⟩ := mem_star_one hcs
  refine ⟨rfl, List.cons_ne_nil _ _, ?_⟩
  intro d hd
  rcases List.mem_cons.mp hd with rfl | hd
  · exact hp
  · exact hall d hd

theorem mem_many {p : Char → Bool} {input w rest : List Char} (h : (w, rest) ∈ many p input) :
    input = w ++ rest ∧ ∀ c ∈ w, p c = true := mem_star_one h

theorem mem_lazyMany {p : Char → Bool} {input w rest : List Char}
    (h : (w, rest) ∈ lazyMany p input) : input = w ++ rest ∧ ∀ c ∈ w, p c = true := mem_star_one h

theorem mem_some1 {p : Char → Bool} {input w rest : List Char} (h : (w, rest) ∈ some1 p input) :
    input = w ++ rest ∧ w ≠ [] ∧ ∀ c ∈ w, p c = true := mem_cons_star h

theorem mem_lazySome {p : Char → Bool} {input w rest : List Char}
    (h : (w, rest) ∈ lazySome p input) : input = w ++ rest ∧ w ≠ [] ∧ ∀ c ∈ w, p c = true :=
  mem_cons_star h

/-- A class that the next character is not in cannot be matched even once. -/
theorem some1_eq_nil {p : Char → Bool} {c : Char} {rest : List Char} (h : p c = false) :
    some1 p (c :: rest) = [] := by
  show (satisfy p (c :: rest)).flatMap _ = []
  rw [satisfy, if_neg (by simp [h]), List.flatMap_nil]

/-- A class that the next character is not in is repeated zero times. -/
theorem many_eq_singleton {p : Char → Bool} {c : Char} {rest : List Char} (h : p c = false) :
    many p (c :: rest) = [([], c :: rest)] := by
  have hone : one p (c :: rest) = [] := by
    show (satisfy p (c :: rest)).flatMap _ = []
    rw [satisfy, if_neg (by simp [h]), List.flatMap_nil]
  show (one p (c :: rest)).flatMap _ ++ [([], c :: rest)] = _
  rw [hone]
  rfl

/-! ### The preferred match -/

theorem head?_bind {m : Matcher α} {f : α → Matcher β} {a : α} {b : β}
    {input mid rest : List Char} (hm : (m input).head? = some (a, mid))
    (hf : (f a mid).head? = some (b, rest)) : ((m >>= f) input).head? = some (b, rest) := by
  show ((m input).flatMap _).head? = _
  cases hcase : m input with
  | nil =>
      rw [hcase] at hm
      cases hm
  | cons first others =>
      rw [hcase, List.head?_cons] at hm
      obtain rfl := Option.some.inj hm
      rw [List.flatMap_cons, List.head?_append, hf]
      rfl

theorem head?_satisfy {p : Char → Bool} {c : Char} (h : p c = true) (rest : List Char) :
    (satisfy p (c :: rest)).head? = some (c, rest) := by
  rw [satisfy, if_pos h]
  rfl

theorem head?_literal (w rest : List Char) : (literal w (w ++ rest)).head? = some (w, rest) := by
  induction w with
  | nil => rfl
  | cons c w ih =>
      exact head?_bind (head?_satisfy (beq_self_eq_true c) (w ++ rest)) (head?_bind ih rfl)

/-- A greedy repetition prefers to go on as far as its class reaches. -/
theorem head?_many {p : Char → Bool} {w : List Char} (hw : ∀ c ∈ w, p c = true) {c : Char}
    (hc : p c = false) (rest : List Char) :
    (many p (w ++ c :: rest)).head? = some (w, c :: rest) := by
  unfold many star
  have hturns : w.length ≤ (w ++ c :: rest).length := by simp
  generalize (w ++ c :: rest).length = n at hturns
  induction w generalizing n with
  | nil =>
      have hone : one p (c :: rest) = [] := by
        show (satisfy p (c :: rest)).flatMap _ = []
        rw [satisfy, if_neg (by simp [hc]), List.flatMap_nil]
      cases n with
      | zero => rfl
      | succ n =>
          show ((one p (c :: rest)).flatMap _ ++ [([], c :: rest)]).head? = _
          rw [hone]
          rfl
  | cons d w ih =>
      cases n with
      | zero => exact absurd hturns (Nat.not_succ_le_zero _)
      | succ n =>
          have hrest := ih (fun x hx => hw x (List.mem_cons_of_mem _ hx)) n
            (Nat.le_of_succ_le_succ hturns)
          have hmore : ((do
              let w ← one p
              let ws ← starUpTo true (one p) n
              return w ++ ws : Matcher (List Char)) (d :: (w ++ c :: rest))).head? =
              some (d :: w, c :: rest) :=
            head?_bind (head?_bind (head?_satisfy (hw d List.mem_cons_self) _) rfl)
              (head?_bind hrest rfl)
          refine List.head?_append.trans ?_
          exact (congrArg (Option.or · _) hmore).trans rfl

theorem head?_some1 {p : Char → Bool} {w : List Char} (hw : ∀ c ∈ w, p c = true) (hne : w ≠ [])
    {c : Char} (hc : p c = false) (rest : List Char) :
    (some1 p (w ++ c :: rest)).head? = some (w, c :: rest) := by
  cases w with
  | nil => exact absurd rfl hne
  | cons d w =>
      exact head?_bind (head?_satisfy (hw d List.mem_cons_self) _)
        (head?_bind (head?_many (fun x hx => hw x (List.mem_cons_of_mem _ hx)) hc rest) rfl)

end Matcher

/-! ### Searching -/

/-- A piece of a searched text: a character no match covers, or a match with its text. -/
inductive Token (α : Type)
  | skip (c : Char)
  | hit (a : α) (consumed : List Char)

variable {α : Type}

/-- Search from left to right for matches of non-empty texts, given the character before and a test
of that character which every match has to pass. There is no character before at the start. -/
def scanUpTo (start : Option Char → Bool) (m : Matcher α) :
    Nat → Option Char → List Char → List (Token α)
  | 0, _, _ => []
  | n + 1, before, input =>
    match (if start before then (m input).head? else none) with
    | some (a, rest) =>
      let consumed := input.take (input.length - rest.length)
      .hit a consumed :: scanUpTo start m n consumed.getLast? rest
    | none =>
      match input with
      | [] => []
      | c :: rest => .skip c :: scanUpTo start m n (some c) rest

/-- Search a whole text. -/
def scan (start : Option Char → Bool) (m : Matcher α) (input : List Char) : List (Token α) :=
  scanUpTo start m (input.length + 1) none input

/-- A matcher all of whose matches consume something. -/
def Matcher.Progress (m : Matcher α) : Prop :=
  ∀ {input rest : List Char} {a : α}, (a, rest) ∈ m input → ∃ w, w ≠ [] ∧ input = w ++ rest

/-- The pieces of a searched text: they make up the text, and each match is one the matcher finds
where it is. -/
inductive Scanned (m : Matcher α) : List (Token α) → List Char → Prop
  | nil : Scanned m [] []
  | skip {c : Char} {tokens : List (Token α)} {rest : List Char} (h : Scanned m tokens rest) :
      Scanned m (.skip c :: tokens) (c :: rest)
  | hit {a : α} {consumed rest : List Char} {tokens : List (Token α)}
      (hmatch : (a, rest) ∈ m (consumed ++ rest)) (hconsumed : consumed ≠ [])
      (h : Scanned m tokens rest) : Scanned m (.hit a consumed :: tokens) (consumed ++ rest)

theorem scanned_scanUpTo {start : Option Char → Bool} {m : Matcher α} (hm : m.Progress) :
    ∀ {n : Nat} {before : Option Char} {input : List Char}, input.length < n →
      Scanned m (scanUpTo start m n before input) input := by
  intro n
  induction n with
  | zero =>
      intro before input h
      exact absurd h (Nat.not_lt_zero _)
  | succ n ih =>
      intro before input h
      unfold scanUpTo
      split
      · rename_i a rest hhead
        have hmem : (a, rest) ∈ m input := by
          split at hhead
          · exact List.mem_of_mem_head? hhead
          · cases hhead
        obtain ⟨w, hne, rfl⟩ := hm hmem
        have htake : (w ++ rest).take ((w ++ rest).length - rest.length) = w := by
          rw [List.length_append, Nat.add_sub_cancel, List.take_left']
          rfl
        dsimp only
        rw [htake]
        have hlen : 0 < w.length := List.length_pos_iff.mpr hne
        rw [List.length_append] at h
        exact .hit hmem hne (ih (by omega))
      · split
        · exact .nil
        · rename_i c rest
          rw [List.length_cons] at h
          exact .skip (ih (by omega))

theorem scanned_scan {start : Option Char → Bool} {m : Matcher α} (hm : m.Progress)
    (input : List Char) : Scanned m (scan start m input) input :=
  scanned_scanUpTo hm (Nat.lt_succ_self _)

/-- Only the test of the character before can tell two beginnings apart. -/
theorem scanUpTo_before {start : Option Char → Bool} {m : Matcher α} {n : Nat}
    (before before' : Option Char) {input : List Char} (h : start before = start before') :
    scanUpTo start m n before input = scanUpTo start m n before' input := by
  cases n with
  | zero => rfl
  | succ n => simp only [scanUpTo, h]

/-- A stretch in which no match can start is skipped. -/
theorem scanUpTo_skip {start : Option Char → Bool} {m : Matcher α} {n : Nat} {last : Char}
    {line rest : List Char} (hline : ∀ c ∈ line, start (some c) = false) :
    ∀ {before : Option Char}, (start before = true → m (line ++ last :: rest) = []) →
      scanUpTo start m (n + (line.length + 1)) before (line ++ last :: rest) =
        line.map .skip ++ .skip last :: scanUpTo start m n (some last) rest := by
  induction line with
  | nil =>
      intro before hbefore
      have hnone : (if start before = true then (m (last :: rest)).head? else none) = none := by
        split
        · rename_i hstart
          rw [show m (last :: rest) = [] from hbefore hstart]
          rfl
        · rfl
      show scanUpTo start m (n + 1) before (last :: rest) = _
      rw [scanUpTo, hnone]
      rfl
  | cons c cs ih =>
      intro before hbefore
      have hnone : (if start before = true then (m (c :: (cs ++ last :: rest))).head? else none) =
          none := by
        split
        · rename_i hstart
          rw [show m (c :: (cs ++ last :: rest)) = [] from hbefore hstart]
          rfl
        · rfl
      have hrest := @ih (fun d hd => hline d (List.mem_cons_of_mem _ hd)) (some c)
        (fun hstart => absurd (hline c List.mem_cons_self) (by simp [hstart]))
      show scanUpTo start m ((n + (cs.length + 1)) + 1) before (c :: (cs ++ last :: rest)) = _
      simp only [scanUpTo, hnone]
      exact congrArg (Token.skip c :: ·) hrest

end Launchplane.Regex
