import Mathlib.Data.List.Infix

/-!
# Launchplane.Glob

**Wildcard patterns, and paths of them.** A pattern is a list of tokens: a
character, a wildcard for one character, or a wildcard for any number of them.
Which characters a wildcard may stand for is a parameter, so that a reading in
which wildcards stay inside a path component can be compared with one in which
they do not.

A path pattern is a list of segments. A name matches one component, and `dirs`
crosses any number of components, or, at the end of a pattern, what is inside.
Whatever a path pattern matches starts with its literal prefix
(`SegmentsMatch.literals_prefix`), and is matched by the joined names when
wildcards may cross the separator (`matches_join`).
-/

namespace Launchplane.Glob

variable {α : Type} {wild wild' : α → Prop}

/-! ### Patterns -/

/-- A token of a pattern. -/
inductive Token (α : Type)
  | star
  | any
  | lit (a : α)
  deriving DecidableEq

/-- A text matches a pattern, with wildcards for the characters of a class. -/
inductive Matches (wild : α → Prop) : List (Token α) → List α → Prop
  | nil : Matches wild [] []
  | lit {a : α} {p : List (Token α)} {s : List α} (h : Matches wild p s) :
      Matches wild (.lit a :: p) (a :: s)
  | any {a : α} {p : List (Token α)} {s : List α} (ha : wild a) (h : Matches wild p s) :
      Matches wild (.any :: p) (a :: s)
  | done {p : List (Token α)} {s : List α} (h : Matches wild p s) : Matches wild (.star :: p) s
  | more {a : α} {p : List (Token α)} {s : List α} (ha : wild a)
      (h : Matches wild (.star :: p) s) : Matches wild (.star :: p) (a :: s)

/-- The more a wildcard may stand for, the more is matched. -/
theorem Matches.mono {p : List (Token α)} {s : List α} (h : Matches wild p s)
    (hwild : ∀ a, wild a → wild' a) : Matches wild' p s := by
  induction h with
  | nil => exact .nil
  | lit _ ih => exact .lit ih
  | any ha _ ih => exact .any (hwild _ ha) ih
  | done _ ih => exact .done ih
  | more ha _ ih => exact .more (hwild _ ha) ih

/-- Patterns one after the other match texts one after the other. -/
theorem Matches.append {p q : List (Token α)} {s t : List α} (hp : Matches wild p s)
    (hq : Matches wild q t) : Matches wild (p ++ q) (s ++ t) := by
  induction hp with
  | nil => exact hq
  | lit _ ih => exact .lit ih
  | any ha _ ih => exact .any ha ih
  | done _ ih => exact .done ih
  | more ha _ ih => exact .more ha ih

/-- Does the text match, with wildcards for any character? -/
def test [DecidableEq α] : List (Token α) → List α → Bool
  | [], s => s.isEmpty
  | .lit _ :: _, [] => false
  | .lit a :: p, b :: s => a = b && test p s
  | .any :: _, [] => false
  | .any :: p, _ :: s => test p s
  | .star :: p, s => s.tails.any (test p ·)

theorem Matches.star {p : List (Token α)} {s t : List α} (hwild : ∀ a ∈ s, wild a)
    (h : Matches wild p t) : Matches wild (.star :: p) (s ++ t) := by
  induction s with
  | nil => exact .done h
  | cons a s ih =>
    exact .more (hwild a List.mem_cons_self) (ih fun b hb => hwild b (List.mem_cons_of_mem a hb))

/-- The test is the relation in which wildcards stand for any character. -/
theorem test_iff [DecidableEq α] {p : List (Token α)} {s : List α} :
    test p s = true ↔ Matches (fun _ => True) p s := by
  constructor
  · intro h
    induction p generalizing s with
    | nil =>
      rw [List.isEmpty_iff.mp h]
      exact .nil
    | cons token p ih =>
      cases token with
      | lit a =>
        cases s with
        | nil => cases h
        | cons b s =>
          simp only [test, Bool.and_eq_true, decide_eq_true_eq] at h
          obtain ⟨rfl, h⟩ := h
          exact .lit (ih h)
      | any =>
        cases s with
        | nil => cases h
        | cons b s => exact .any trivial (ih h)
      | star =>
        obtain ⟨t, ht, htest⟩ := List.any_eq_true.mp h
        obtain ⟨s', rfl⟩ := (List.mem_tails _ _).mp ht
        exact .star (fun _ _ => trivial) (ih htest)
  · intro h
    induction h with
    | nil => rfl
    | lit _ ih => simpa [test] using ih
    | any _ _ ih => exact ih
    | @done p s _ ih =>
      exact List.any_eq_true.mpr ⟨s, (List.mem_tails _ _).mpr (List.suffix_refl s), ih⟩
    | @more a p s _ _ ih =>
      obtain ⟨t, ht, htest⟩ := List.any_eq_true.mp ih
      refine List.any_eq_true.mpr ⟨t, (List.mem_tails _ _).mpr ?_, htest⟩
      exact ((List.mem_tails _ _).mp ht).trans (List.suffix_cons a s)

/-- The characters a pattern starts with, up to its first wildcard. -/
def literals : List (Token α) → List α
  | .lit a :: p => a :: literals p
  | _ => []

/-- What matches the first part of a pattern leaves its literals to what follows. -/
theorem Matches.literals_append {p q : List (Token α)} {s t : List α} (hp : Matches wild p s)
    (hq : literals q <+: t) : literals (p ++ q) <+: s ++ t := by
  induction hp with
  | nil => exact hq
  | lit _ ih => exact List.cons_prefix_cons.mpr ⟨rfl, ih⟩
  | any | done | more => exact List.nil_prefix

/-- A text that matches starts with the pattern's literals. -/
theorem Matches.literals_prefix {p : List (Token α)} {s : List α} (h : Matches wild p s) :
    literals p <+: s := by
  have hwhole : literals (p ++ []) <+: s ++ [] := h.literals_append (List.prefix_refl [])
  rwa [List.append_nil, List.append_nil] at hwhole

/-! ### Path patterns -/

/-- A segment of a path pattern. -/
inductive Segment (α : Type)
  | dirs
  | name (pattern : List (Token α))

/-- The components of a path match the segments of a pattern. -/
inductive SegmentsMatch (wild : α → Prop) : List (Segment α) → List (List α) → Prop
  | nil : SegmentsMatch wild [] []
  | name {p : List (Token α)} {ps : List (Segment α)} {s : List α} {ss : List (List α)}
      (h : Matches wild p s) (hs : SegmentsMatch wild ps ss) :
      SegmentsMatch wild (.name p :: ps) (s :: ss)
  /-- At the end of a pattern: what is inside. -/
  | inside {s : List α} : SegmentsMatch wild [.dirs] [s]
  | skip {ps : List (Segment α)} {ss : List (List α)} (hps : ps ≠ [])
      (h : SegmentsMatch wild ps ss) : SegmentsMatch wild (.dirs :: ps) ss
  | cross {ps : List (Segment α)} {s : List α} {ss : List (List α)}
      (h : SegmentsMatch wild (.dirs :: ps) ss) : SegmentsMatch wild (.dirs :: ps) (s :: ss)

/-- Segments match something. -/
theorem SegmentsMatch.ne_nil {ps : List (Segment α)} {ss : List (List α)}
    (h : SegmentsMatch wild ps ss) (hps : ps ≠ []) : ss ≠ [] := by
  induction h with
  | nil => exact absurd rfl hps
  | name | inside | cross => exact List.cons_ne_nil _ _
  | skip hne _ ih => exact ih hne

/-- A name at any depth matches the last component. -/
theorem SegmentsMatch.anywhere {p : List (Token α)} {ss : List (List α)}
    (h : SegmentsMatch wild [.dirs, .name p] ss) : ∃ s ∈ ss, Matches wild p s := by
  generalize hps : [Segment.dirs, .name p] = ps at h
  induction h with
  | nil | inside => cases hps
  | name => cases hps
  | skip _ h =>
    cases hps
    cases h with
    | @name _ _ s _ h _ => exact ⟨s, List.mem_cons_self, h⟩
  | cross _ ih =>
    obtain ⟨s, hs, h⟩ := ih hps
    exact ⟨s, List.mem_cons_of_mem _ hs, h⟩

/-- The tokens of a segment. -/
def Segment.tokens : Segment α → List (Token α)
  | dirs => [.star, .star]
  | name p => p

/-- The pattern of a whole path: the segments with the separator between them. -/
def joinTokens (sep : α) (ps : List (Segment α)) : List (Token α) :=
  [Token.lit sep].intercalate (ps.map Segment.tokens)

/-- What a path pattern matches starts with the literals of the whole pattern. -/
theorem SegmentsMatch.literals_prefix {sep : α} {ps : List (Segment α)} {ss : List (List α)}
    (h : SegmentsMatch wild ps ss) (below : List (List α)) :
    literals (joinTokens sep ps) <+: [sep].intercalate (ss ++ below) := by
  induction h with
  | nil => exact List.nil_prefix
  | @name p ps s ss hname hrest ih =>
    -- the first component, and what follows it in the pattern and in the path
    obtain ⟨t, ht⟩ : ∃ t, [sep].intercalate (s :: ss ++ below) = s ++ t := by
      rcases List.eq_nil_or_concat' (ss ++ below) with hnil | ⟨_, _, hcons⟩
      · exact ⟨[], by rw [List.cons_append, hnil, List.intercalate_singleton, List.append_nil]⟩
      · exact ⟨_, by
          rw [List.cons_append, List.intercalate_cons_of_ne_nil (by simp [hcons]), List.append_assoc]⟩
    cases ps with
    | nil =>
      rw [ht, joinTokens, List.map_singleton, List.intercalate_singleton]
      exact hname.literals_prefix.trans (List.prefix_append s t)
    | cons q qs =>
      have hne : ss ++ below ≠ [] := by simp [hrest.ne_nil (List.cons_ne_nil q qs)]
      rw [List.cons_append, List.intercalate_cons_of_ne_nil hne, List.append_assoc, joinTokens,
        List.map_cons, List.intercalate_cons_of_ne_nil (by simp), List.append_assoc]
      exact hname.literals_append (List.cons_prefix_cons.mpr ⟨rfl, ih⟩)
  | inside | skip | cross =>
    have hstar (qs : List (Segment α)) : literals (joinTokens sep (.dirs :: qs)) = [] := by
      cases qs <;> rfl
    rw [hstar]
    exact List.nil_prefix

/-- A pattern of names only matches as a whole, when its wildcards may cross the separator. -/
theorem matches_join {sep : α} {names : List (List (Token α))} {ss : List (List α)}
    (h : SegmentsMatch wild (names.map .name) ss) :
    Matches (fun _ => True) (joinTokens sep (names.map .name)) ([sep].intercalate ss) := by
  induction names generalizing ss with
  | nil =>
    cases h
    exact .nil
  | cons p names ih =>
    cases h with
    | @name _ _ s ss hname hrest =>
      have hname' : Matches (fun _ => True) p s := hname.mono fun _ _ => trivial
      cases names with
      | nil =>
        cases hrest
        simpa [joinTokens, Segment.tokens] using hname'
      | cons q names =>
        have hne := hrest.ne_nil (List.cons_ne_nil _ _)
        rw [List.intercalate_cons_of_ne_nil hne, List.append_assoc, joinTokens, List.map_cons,
          List.map_cons, List.intercalate_cons_of_ne_nil (by simp), List.append_assoc]
        exact hname'.append (.lit (ih hrest))

end Launchplane.Glob
