import Mathlib.Algebra.GroupWithZero.Nat
import Mathlib.Data.List.DropRight
import Mathlib.Data.List.Infix
import Mathlib.Data.List.Lex
import Mathlib.Data.String.Basic

/-!
# Launchplane.Text

**The text functions of the contracts.** Records are normalized when they are
built: surrounding white space is stripped, Git SHAs and digests are lowered and
matched against a pattern, and a required text that is empty after stripping is
refused. Every normal form is a fixed point of its normalization, so a record
that was built once is rebuilt to itself.
-/

namespace Launchplane

/-! ### Instances

Characters are compared one by one and texts in their order wherever a membership is decided or a
set of texts is sorted. -/

instance lawfulBEqChars : LawfulBEq (List Char) := List.instLawfulBEq

instance isTransTextLe : IsTrans String (· ≤ ·) := instIsTransLe

instance antisymmTextLe : Std.Antisymm (fun s t : String => s ≤ t) := instAntisymmLe

/-- A guard clause: raise when the condition holds. -/
def raiseIf {ε : Type} (condition : Prop) [Decidable condition] (error : ε) : Except ε Unit :=
  if condition then .error error else .ok ()

@[simp] theorem raiseIf_eq_ok {ε : Type} {condition : Prop} [Decidable condition] {error : ε}
    {u : Unit} : raiseIf condition error = .ok u ↔ ¬ condition := by
  unfold raiseIf
  split <;> simp_all

/-- A chain of fallible steps succeeds when each of them does. -/
theorem bind_eq_ok {ε α β : Type} {x : Except ε α} {f : α → Except ε β} {b : β} :
    x >>= f = .ok b ↔ ∃ a, x = .ok a ∧ f a = .ok b := by
  cases x <;> simp [bind, Except.bind]

/-- The same after a guard clause, which returns nothing. -/
theorem guard_eq_ok {ε β : Type} {x : Except ε Unit} {f : Unit → Except ε β} {b : β} :
    x >>= f = .ok b ↔ x = .ok () ∧ f () = .ok b := by
  rw [bind_eq_ok]
  exact ⟨fun ⟨_, h⟩ => h, fun h => ⟨(), h⟩⟩

theorem map_eq_ok {ε α β : Type} {x : Except ε α} {f : α → β} {b : β} :
    x.map f = .ok b ↔ ∃ a, x = .ok a ∧ f a = b := by
  cases x <;> simp [Except.map]

/-! ### Fallible passes over lists -/

theorem forall_of_mapM {α : Type} {f : α → Except String α} {xs ys : List α}
    (h : xs.mapM f = .ok ys) : ∀ y ∈ ys, ∃ x ∈ xs, f x = .ok y := by
  induction xs generalizing ys with
  | nil =>
      cases h
      simp
  | cons x xs ih =>
      rw [List.mapM_cons] at h
      obtain ⟨y, hy, h⟩ := bind_eq_ok.mp h
      obtain ⟨rest, hrest, h⟩ := bind_eq_ok.mp h
      cases h
      intro z hz
      obtain rfl | hz := List.mem_cons.mp hz
      · exact ⟨x, List.mem_cons_self, hy⟩
      · obtain ⟨w, hw, hwz⟩ := ih hrest z hz
        exact ⟨w, List.mem_cons_of_mem _ hw, hwz⟩

/-- A list of values that are all accepted as they are is. -/
theorem mapM_eq_ok_self {α : Type} {f : α → Except String α} {xs : List α}
    (h : ∀ x ∈ xs, f x = .ok x) : xs.mapM f = .ok xs := by
  induction xs with
  | nil => rfl
  | cons x xs ih =>
      have hrest : xs.mapM f = .ok xs := ih fun y hy => h y (List.mem_cons_of_mem _ hy)
      rw [List.mapM_cons, h x List.mem_cons_self, hrest]
      rfl

theorem forall_of_forM {α : Type} {f : α → Except String Unit} {xs : List α}
    (h : xs.forM f = .ok ()) : ∀ x ∈ xs, f x = .ok () := by
  induction xs with
  | nil => simp
  | cons x xs ih =>
      change forM (x :: xs) f = .ok () at h
      rw [List.forM_cons] at h
      obtain ⟨⟨⟩, hx, h⟩ := bind_eq_ok.mp h
      simpa using ⟨hx, ih h⟩

theorem forM_eq_ok {α : Type} {f : α → Except String Unit} {xs : List α}
    (h : ∀ x ∈ xs, f x = .ok ()) : xs.forM f = .ok () := by
  induction xs with
  | nil => rfl
  | cons x xs ih =>
      have hrest : xs.forM f = .ok () := ih fun y hy => h y (List.mem_cons_of_mem _ hy)
      change forM (x :: xs) f = .ok ()
      rw [List.forM_cons, h x List.mem_cons_self]
      exact hrest

/-- The characters `str.strip` removes. -/
def isPySpace (c : Char) : Bool :=
  let n := c.toNat
  (0x09 ≤ n && n ≤ 0x0D) || (0x1C ≤ n && n ≤ 0x20) || n == 0x85 || n == 0xA0 || n == 0x1680 ||
    (0x2000 ≤ n && n ≤ 0x200A) || n == 0x2028 || n == 0x2029 || n == 0x202F || n == 0x205F ||
    n == 0x3000

/-- A text without the characters of a class at its two ends. -/
def stripWith (p : Char → Bool) (cs : List Char) : List Char := (cs.dropWhile p).rdropWhile p

/-- `str.strip` on the characters of a text. -/
def stripChars (cs : List Char) : List Char := stripWith isPySpace cs

/-- `str.strip`. -/
def pyStrip (s : String) : String := String.ofList (stripChars s.toList)

theorem stripWith_sublist (p : Char → Bool) (cs : List Char) : (stripWith p cs).Sublist cs :=
  (List.rdropWhile_prefix p _).sublist.trans (List.dropWhile_sublist p)

theorem dropWhile_stripWith (p : Char → Bool) (cs : List Char) :
    (stripWith p cs).dropWhile p = stripWith p cs := by
  obtain ⟨suffix, hsuffix⟩ := List.rdropWhile_prefix p (cs.dropWhile p)
  -- the first character survived the left strip, and the right strip keeps it first
  cases hstrip : stripWith p cs with
  | nil => rfl
  | cons c rest =>
      have hleft : cs.dropWhile p = c :: (rest ++ suffix) := by
        rw [← hsuffix, ← stripWith, hstrip, List.cons_append]
      have hc : ¬ p c = true := by
        have hhead := List.head_dropWhile_not p (l := cs) (by rw [hleft]; simp)
        simpa [hleft] using hhead
      rw [List.dropWhile_cons_of_neg hc]

/-- A text between characters of its own keeps all of itself; what follows it may go. -/
theorem stripWith_append {p : Char → Bool} {cs blank : List Char}
    (hfirst : ∀ c ∈ cs.head?, p c = false) (hlast : ∀ c ∈ cs.getLast?, p c = false) (hne : cs ≠ [])
    (hblank : ∀ c ∈ blank, p c = true) : stripWith p (cs ++ blank) = cs := by
  have hleft : (cs ++ blank).dropWhile p = cs ++ blank := by
    cases cs with
    | nil => exact absurd rfl hne
    | cons c rest => rw [List.cons_append, List.dropWhile_cons_of_neg (by simp [hfirst c rfl])]
  have hright : cs.rdropWhile p = cs := by
    refine List.rdropWhile_eq_self_iff.mpr fun hne' => ?_
    rw [hlast _ (List.getLast?_eq_getLast_of_ne_nil hne')]
    exact Bool.false_ne_true
  rw [stripWith, hleft]
  clear hleft
  induction blank using List.reverseRecOn with
  | nil => rw [List.append_nil, hright]
  | append_singleton blank c ih =>
      rw [← List.append_assoc, List.rdropWhile_concat_pos _ _ _ (hblank c (by simp)),
        ih fun d hd => hblank d (List.mem_append_left _ hd)]

theorem stripWith_stripWith (p : Char → Bool) (cs : List Char) :
    stripWith p (stripWith p cs) = stripWith p cs := by
  conv_lhs => rw [stripWith, dropWhile_stripWith]
  rw [stripWith, List.rdropWhile_idempotent]

@[simp] theorem pyStrip_pyStrip (s : String) : pyStrip (pyStrip s) = pyStrip s := by
  simp only [pyStrip, stripChars, String.toList_ofList, stripWith_stripWith]

/-- A text without white space is its own stripped text. -/
theorem pyStrip_eq_self {s : String} (h : ∀ c ∈ s.toList, isPySpace c = false) : pyStrip s = s := by
  by_cases hs : s.toList = []
  · obtain rfl : s = "" := by simpa using hs
    rfl
  · rw [pyStrip, stripChars, ← List.append_nil s.toList, stripWith_append, String.ofList_toList]
    · intro c hc
      exact h c (List.mem_of_mem_head? hc)
    · intro c hc
      exact h c (List.mem_of_getLast? hc)
    · exact hs
    · simp

/-- A text with a character that is no white space has a stripped text. -/
theorem pyStrip_ne_empty {s : String} {c : Char} (hmem : c ∈ s.toList) (hc : isPySpace c = false) :
    pyStrip s ≠ "" := by
  intro h
  have hnil : stripChars s.toList = [] := by simpa [pyStrip] using congrArg String.toList h
  have hall : ∀ d ∈ s.toList, isPySpace d = true := by
    rw [stripChars, stripWith, List.rdropWhile_eq_nil_iff] at hnil
    intro d hd
    rw [← List.takeWhile_append_dropWhile (p := isPySpace) (l := s.toList), List.mem_append] at hd
    rcases hd with hleft | hrest
    · exact List.mem_takeWhile_imp hleft
    · exact hnil d hrest
  rw [hall c hmem] at hc
  cases hc

/-- `rpartition(".")[0]` on the characters of a name. -/
def parentChars (cs : List Char) : List Char := ((cs.reverse.dropWhile (· ≠ '.')).drop 1).reverse

/-- `rpartition(".")[0]`: what stands before the last dot, and nothing if there is none. -/
def parentName (name : String) : String := String.ofList (parentChars name.toList)

theorem toList_parentName (name : String) : (parentName name).toList = parentChars name.toList := by
  rw [parentName, String.toList_ofList]

/-- `str.lower` on the letters the contracts use: repository names, SHAs and digests. -/
def pyLower (s : String) : String := String.ofList (s.toList.map Char.toLower)

theorem toNat_toLower (c : Char) :
    c.toLower.toNat = if 65 ≤ c.toNat ∧ c.toNat ≤ 90 then c.toNat + 32 else c.toNat := by
  have hval : (c.val ≥ 'A'.val ∧ c.val ≤ 'Z'.val) ↔ 65 ≤ c.toNat ∧ c.toNat ≤ 90 := by
    simp only [ge_iff_le, UInt32.le_iff_toNat_le]
    rfl
  delta Char.toLower
  by_cases h : 65 ≤ c.toNat ∧ c.toNat ≤ 90
  · rw [dif_pos (hval.mpr h), if_pos h]
    show (c.val + _).toNat = _
    rw [UInt32.toNat_add]
    show (c.toNat + 32) % _ = _
    omega
  · rw [dif_neg (fun h' => h (hval.mp h')), if_neg h]

theorem isPySpace_toLower (c : Char) : isPySpace c.toLower = isPySpace c := by
  simp only [isPySpace, toNat_toLower]
  grind

theorem toLower_toLower (c : Char) : c.toLower.toLower = c.toLower := by
  delta Char.toLower
  grind

theorem stripWith_map {p : Char → Bool} {f : Char → Char} (h : ∀ c, p (f c) = p c) (cs : List Char) :
    stripWith p (cs.map f) = (stripWith p cs).map f := by
  have hp : p ∘ f = p := funext h
  have hdrop (l : List Char) : (l.map f).dropWhile p = (l.dropWhile p).map f := by
    rw [List.dropWhile_map, hp]
  rw [stripWith, stripWith, List.rdropWhile, List.rdropWhile, hdrop, ← List.map_reverse, hdrop,
    List.map_reverse]

@[simp] theorem pyStrip_pyLower (s : String) : pyStrip (pyLower s) = pyLower (pyStrip s) := by
  simp only [pyStrip, pyLower, stripChars, String.toList_ofList, stripWith_map isPySpace_toLower]

@[simp] theorem pyLower_pyLower (s : String) : pyLower (pyLower s) = pyLower s := by
  simp only [pyLower, String.toList_ofList, List.map_map]
  congr 2
  funext c
  exact toLower_toLower c

/-- `require_text`: the stripped text, or the message when nothing is left of it. -/
def requireText (value message : String) : Except String String :=
  if pyStrip value = "" then .error message else .ok (pyStrip value)

theorem requireText_eq_ok {value message text : String} (h : requireText value message = .ok text) :
    text = pyStrip value ∧ text ≠ "" := by
  unfold requireText at h
  by_cases hempty : pyStrip value = ""
  · rw [if_pos hempty] at h
    exact absurd h (by simp)
  · rw [if_neg hempty] at h
    obtain rfl := Except.ok.inj h
    exact ⟨rfl, hempty⟩

theorem requireText_of_ok {value message text : String} (h : requireText value message = .ok text) :
    requireText text message = .ok text := by
  obtain ⟨rfl, hne⟩ := requireText_eq_ok h
  rw [requireText, pyStrip_pyStrip, if_neg hne]

/-- The normal form of a repository: a lower-case `owner/name`. The contracts differ in their
messages only. -/
def normalizeOwnerName (repository missing malformed : String) : Except String String := do
  let text ← requireText repository missing
  let parts := (pyLower text).toList.splitOn '/'
  if parts.length = 2 ∧ parts.all (· ≠ []) then .ok (pyLower text) else .error malformed

/-- `required_token`. -/
def requiredToken (value fieldName : String) : Except String String :=
  requireText value (fieldName ++ " must be non-empty")

/-! ### Git SHAs and digests -/

/-- A lower-case hexadecimal digit. -/
def isHexDigit (c : Char) : Bool := ('0' ≤ c && c ≤ '9') || ('a' ≤ c && c ≤ 'f')

/-- `GIT_SHA_PATTERN`: 40 hexadecimal digits, or 64 for a repository that uses SHA-256. -/
def isGitSha (s : String) : Bool :=
  (s.toList.length == 40 || s.toList.length == 64) && s.toList.all isHexDigit

/-- `SHA256_PATTERN`. -/
def isSha256 (s : String) : Bool := s.toList.length == 64 && s.toList.all isHexDigit

/-- `normalize_git_sha`. -/
def normalizeGitSha (value fieldName : String) : Except String String :=
  if pyStrip value = "" then .error (fieldName ++ " must be non-empty")
  else if isGitSha (pyLower (pyStrip value)) then .ok (pyLower (pyStrip value))
  else .error (fieldName ++ " must be a Git SHA")

/-- `normalize_optional_git_sha`. -/
def normalizeOptionalGitSha (value fieldName : String) : Except String String :=
  if pyLower (pyStrip value) = "" then .ok ""
  else if isGitSha (pyLower (pyStrip value)) then .ok (pyLower (pyStrip value))
  else .error (fieldName ++ " must be a Git SHA when present")

/-- `normalize_sha256`. -/
def normalizeSha256 (value fieldName : String) : Except String String :=
  if pyStrip value = "" then .error (fieldName ++ " must be non-empty")
  else if isSha256 (pyLower (pyStrip value)) then .ok (pyLower (pyStrip value))
  else .error (fieldName ++ " must be a lowercase SHA-256 digest")

theorem isHexDigit_toNat {c : Char} (h : isHexDigit c = true) :
    (48 ≤ c.toNat ∧ c.toNat ≤ 57) ∨ (97 ≤ c.toNat ∧ c.toNat ≤ 102) := by
  simp only [isHexDigit, Bool.or_eq_true, Bool.and_eq_true, decide_eq_true_eq] at h
  simp only [Char.le_def, UInt32.le_iff_toNat_le] at h
  exact h

theorem isPySpace_of_isHexDigit {c : Char} (h : isHexDigit c = true) : isPySpace c = false := by
  have hnat := isHexDigit_toNat h
  simp only [isPySpace, Bool.or_eq_false_iff, Bool.and_eq_false_iff, decide_eq_false_iff_not,
    beq_eq_false_iff_ne]
  omega

theorem toLower_of_isHexDigit {c : Char} (h : isHexDigit c = true) : c.toLower = c := by
  have hnat := isHexDigit_toNat h
  refine Char.ext (UInt32.toNat.inj ?_)
  show c.toLower.toNat = c.toNat
  rw [toNat_toLower, if_neg (by omega)]

/-- A text of hexadecimal digits is in normal form. -/
theorem normal_of_isHexDigit {s : String} (h : s.toList.all isHexDigit = true) :
    pyStrip s = s ∧ pyLower s = s := by
  rw [List.all_eq_true] at h
  refine ⟨pyStrip_eq_self fun c hc => isPySpace_of_isHexDigit (h c hc), ?_⟩
  rw [pyLower, List.map_congr_left fun c hc => toLower_of_isHexDigit (h c hc), List.map_id',
    String.ofList_toList]

theorem normal_of_isSha256 {s : String} (h : isSha256 s = true) : pyLower (pyStrip s) = s := by
  obtain ⟨hstrip, hlower⟩ := normal_of_isHexDigit (Bool.and_eq_true_iff.mp h).2
  rw [hstrip, hlower]

/-- A digest is normalized to itself. -/
theorem normalizeSha256_of_isSha256 {s : String} (h : isSha256 s = true) (fieldName : String) :
    normalizeSha256 s fieldName = .ok s := by
  obtain ⟨hstrip, hlower⟩ := normal_of_isHexDigit (Bool.and_eq_true_iff.mp h).2
  have hne : s ≠ "" := by
    rintro rfl
    revert h
    decide
  rw [normalizeSha256, hstrip, hlower, if_neg hne, if_pos h]

/-- A text that `normalize_git_sha` accepts. -/
def GitSha (value : String) : Prop := isGitSha (pyLower (pyStrip value)) = true

instance (value : String) : Decidable (GitSha value) :=
  inferInstanceAs (Decidable (isGitSha (pyLower (pyStrip value)) = true))

theorem isGitSha_ne_empty {s : String} (h : isGitSha s = true) : s ≠ "" := by
  rintro rfl
  revert h
  decide

theorem normalizeGitSha_of_isGitSha {s : String} (h : isGitSha s = true) (fieldName : String) :
    normalizeGitSha s fieldName = .ok s := by
  obtain ⟨hstrip, hlower⟩ := normal_of_isHexDigit (Bool.and_eq_true_iff.mp h).2
  rw [normalizeGitSha, hstrip, hlower, if_neg (isGitSha_ne_empty h), if_pos h]

theorem normalizeGitSha_eq_ok {value fieldName sha : String}
    (h : normalizeGitSha value fieldName = .ok sha) :
    GitSha value ∧ sha = pyLower (pyStrip value) := by
  unfold normalizeGitSha at h
  by_cases hempty : pyStrip value = ""
  · rw [if_pos hempty] at h
    exact absurd h (by simp)
  · rw [if_neg hempty] at h
    by_cases hsha : isGitSha (pyLower (pyStrip value)) = true
    · rw [if_pos hsha] at h
      exact ⟨hsha, (Except.ok.inj h).symm⟩
    · rw [if_neg hsha] at h
      exact absurd h (by simp)

end Launchplane
