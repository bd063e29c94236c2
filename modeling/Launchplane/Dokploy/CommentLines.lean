import Launchplane.Dokploy.Environment

/-!
# Launchplane.Dokploy.CommentLines

**Which comment lines count.** A header line before a text is read as metadata
and nothing else: it holds no assignment, and it only moves what follows. In a
text that `serializeDotenv` wrote, no line counts, since every `#` is inside a
value.
-/

namespace Launchplane.Dokploy

open Launchplane.Regex Launchplane.Regex.Matcher

/-! ### Lines of a written text -/

theorem flatten_splitLines (text : Chars) : (splitLines text).flatten = text := by
  fun_induction splitLines text with
  | case1 => rfl
  | case2 rest ih => simp [ih]
  | case3 c rest _ _ ih => simp [ih]
  | case4 c rest _ _ hnil ih =>
      rw [hnil] at ih
      simp [← ih]
  | case5 c rest _ _ line lines hcons ih =>
      rw [hcons] at ih
      simp [← ih]

theorem head?_of_isHeaderComment {header comment : Chars} (hheader : header.head? = some '#')
    (h : isHeaderComment header comment = true) : comment.head? = some '#' := by
  rcases Bool.or_eq_true _ _ ▸ h with heq | hprefix
  · rw [beq_iff_eq.mp heq]
    exact hheader
  · obtain ⟨tail, rfl⟩ := List.isPrefixOf_iff_prefix.mp hprefix
    cases header with
    | nil => cases hheader
    | cons c header => exact hheader

/-- A line whose stripped text starts with a hash has only white space before the hash. -/
theorem hash_of_stripChars {line : Chars} (h : (stripChars line).head? = some '#') :
    ∃ blank tail, line = blank ++ '#' :: tail ∧ ∀ c ∈ blank, isPySpace c = true := by
  obtain ⟨suffix, hsuffix⟩ := List.rdropWhile_prefix isPySpace (line.dropWhile isPySpace)
  have hstrip : stripChars line ++ suffix = line.dropWhile isPySpace := hsuffix
  cases hcase : stripChars line with
  | nil =>
      rw [hcase] at h
      cases h
  | cons c rest =>
      rw [hcase, List.head?_cons] at h
      obtain rfl := Option.some.inj h
      rw [hcase] at hstrip
      refine ⟨line.takeWhile isPySpace, rest ++ suffix, ?_, fun c hc => List.mem_takeWhile_imp hc⟩
      conv_lhs => rw [← List.takeWhile_append_dropWhile (p := isPySpace) (l := line)]
      rw [← hstrip]
      rfl

/-- In a text without waste a line that looks like a comment starts inside a value. -/
theorem inside_of_comment {tokens : List (Token LineMatch)} {before line after : Chars}
    (hscan : Scanned Dokploy.line tokens (before ++ (line ++ after))) (hwaste : waste tokens = 0)
    (hcomment : (stripChars line).head? = some '#') (offset : Nat) :
    (valueSpans offset tokens).any (fun span =>
      span.1 ≤ offset + before.length && offset + before.length < span.2) = true := by
  obtain ⟨blank, tail, rfl, hblank⟩ := hash_of_stripChars hcomment
  have hhash : (before ++ (blank ++ '#' :: tail ++ after))[before.length + blank.length]? =
      some '#' := by
    rw [List.getElem?_append_right (by omega)]
    simp
  obtain ⟨start, stop, hmem, hle, hlt, sep, rfl, hsep⟩ :=
    hash_in_value hscan hwaste offset hhash
  -- the separator before the value is no white space, so it is not on this line
  have hstart : sep < before.length := by
    by_contra hge
    have hget : blank[sep - before.length]? = some '=' ∨ blank[sep - before.length]? = some ':' := by
      rw [List.getElem?_append_right (by omega), List.append_assoc,
        List.getElem?_append_left (by omega)] at hsep
      exact hsep
    rcases hget with hget | hget
    · exact absurd (hblank _ (List.mem_of_getElem? hget)) (by decide)
    · exact absurd (hblank _ (List.mem_of_getElem? hget)) (by decide)
  refine List.any_eq_true.mpr ⟨_, hmem, ?_⟩
  simp only [Bool.and_eq_true, decide_eq_true_eq]
  omega

theorem encodedKeysOfLines_of_waste {header : Chars} (hheader : header.head? = some '#')
    {tokens : List (Token LineMatch)} {text : Chars} (hscan : Scanned line tokens text)
    (hwaste : waste tokens = 0) (offset : Nat) (keys : Option (List Chars)) {lines : List Chars} :
    ∀ {before : Chars}, text = before ++ lines.flatten →
      encodedKeysOfLines header (valueSpans offset tokens) (offset + before.length) keys lines =
        keys := by
  induction lines with
  | nil =>
      intro before _
      rfl
  | cons line lines ih =>
      intro before htext
      have hnext := @ih (before ++ line) (by rw [htext]; simp)
      rw [List.length_append, ← Nat.add_assoc] at hnext
      rw [encodedKeysOfLines]
      split
      · rename_i hcounts
        rw [Bool.and_eq_true, Bool.not_eq_true'] at hcounts
        rw [htext, List.flatten_cons] at hscan
        have hinside := inside_of_comment hscan hwaste
          (head?_of_isHeaderComment hheader hcounts.1) offset
        rw [hcounts.2] at hinside
        cases hinside
      · exact hnext

/-- What the comment lines of a text add to the keys, given how much text came before. -/
def encodedKeysFrom (header : Chars) (offset : Nat) (keys : Option (List Chars)) (text : Chars) :
    Option (List Chars) :=
  encodedKeysOfLines header (valueSpans offset (lineTokens (normalizeNewlines text))) offset keys
    (splitLines (normalizeNewlines text))

theorem composeEncodedKeys_eq (raw header : Chars) :
    composeEncodedKeys raw header = encodedKeysFrom header 0 none raw := rfl

/-- **No line of a written text counts.** -/
theorem encodedKeysFrom_serializeDotenv {header : Chars} (hheader : header.head? = some '#')
    {env : Dict Chars Chars} (henv : env.keys.Nodup) {text : Chars}
    (h : serializeDotenv env = .ok text) (offset : Nat) (keys : Option (List Chars)) :
    encodedKeysFrom header offset keys text = keys := by
  have hscan : Scanned line (lineTokens (normalizeNewlines text)) (normalizeNewlines text) :=
    scanned_scan (m := line) line_progress _
  exact @encodedKeysOfLines_of_waste _ hheader _ _ hscan (waste_eq_zero henv h) offset keys _ []
    (flatten_splitLines _).symm

/-! ### A line before a text -/

/-- A character of a comment line: printable ASCII. -/
def isInline (c : Char) : Bool := 0x20 ≤ c.toNat && c.toNat < 0x7F

theorem not_lineBreak_of_isInline {c : Char} (h : isInline c = true) :
    isLineBreak c = false ∧ isPyLineBreak c = false ∧ c ≠ '\r' := by
  rw [isInline, Bool.and_eq_true, decide_eq_true_eq, decide_eq_true_eq] at h
  refine ⟨?_, ?_, ?_⟩
  · have hne : c ≠ '\n' := by
      rintro rfl
      revert h
      decide
    simp [isLineBreak, hne]
    omega
  · simp [isPyLineBreak]
    omega
  · rintro rfl
    revert h
    decide

theorem normalizeNewlines_line {comment : Chars} (h : ∀ c ∈ comment, isInline c = true)
    (text : Chars) : normalizeNewlines (comment ++ '\n' :: text) =
      comment ++ '\n' :: normalizeNewlines text := by
  induction comment with
  | nil =>
      show normalizeNewlines ('\n' :: text) = _
      rw [normalizeNewlines]
      · rfl
      · simp
      · simp
  | cons c comment ih =>
      have hc := (not_lineBreak_of_isInline (h c List.mem_cons_self)).2.2
      rw [List.cons_append, normalizeNewlines, ih fun d hd => h d (List.mem_cons_of_mem _ hd)]
      · rfl
      · exact fun _ hc' => absurd hc' hc
      · exact fun hc' => absurd hc' hc

theorem splitLines_line {comment : Chars} (h : ∀ c ∈ comment, isInline c = true) (text : Chars) :
    splitLines (comment ++ '\n' :: text) = (comment ++ ['\n']) :: splitLines text := by
  induction comment with
  | nil =>
      show splitLines ('\n' :: text) = _
      rw [splitLines]
      · rfl
      · simp
  | cons c comment ih =>
      obtain ⟨-, hbreak, hreturn⟩ := not_lineBreak_of_isInline (h c List.mem_cons_self)
      rw [List.cons_append, splitLines, ih fun d hd => h d (List.mem_cons_of_mem _ hd),
        if_neg (by simp [hbreak])]
      · rfl
      · exact fun _ hc' => absurd hc' hreturn

/-- No assignment starts with a hash. -/
theorem line_hash (rest : Chars) : line ('#' :: rest) = [] := by
  refine List.eq_nil_iff_forall_not_mem.mpr fun found hfound => ?_
  obtain ⟨indent, rest₁, hindent, h⟩ := mem_bind.mp (show (found.1, found.2) ∈ _ from hfound)
  rw [many_eq_singleton (by decide), List.mem_singleton, Prod.mk.injEq] at hindent
  obtain ⟨-, rfl⟩ := hindent
  obtain ⟨exported, rest₂, hexported, h⟩ := mem_bind.mp h
  have hnone : optional exportPrefix ('#' :: rest) = [(none, '#' :: rest)] := rfl
  rw [hnone, List.mem_singleton, Prod.mk.injEq] at hexported
  obtain ⟨-, rfl⟩ := hexported
  obtain ⟨key, rest₃, hkey, -⟩ := mem_bind.mp h
  rw [some1_eq_nil (by decide)] at hkey
  cases hkey

/-- A comment line is skipped, and the rest is searched as if it stood alone. -/
theorem lineTokens_line {comment : Chars} (h : ∀ c ∈ comment, isInline c = true)
    (hhash : comment.head? = some '#') (text : Chars) :
    lineTokens (comment ++ '\n' :: text) =
      comment.map .skip ++ .skip '\n' :: lineTokens text := by
  have hline : ∀ c ∈ comment, lineStart (some c) = false := by
    intro c hc
    exact (not_lineBreak_of_isInline (h c hc)).1
  have hfuel : (comment ++ '\n' :: text).length + 1 = (text.length + 1) + (comment.length + 1) := by
    rw [List.length_append, List.length_cons]
    omega
  unfold lineTokens scan
  rw [hfuel, scanUpTo_skip hline, scanUpTo_before (some '\n') none rfl]
  intro _
  cases comment with
  | nil => cases hhash
  | cons c comment =>
      obtain rfl := Option.some.inj hhash
      exact line_hash _

theorem hits_skips (comment : Chars) (tokens : List (Token LineMatch)) :
    hits (comment.map .skip ++ tokens) = hits tokens := by
  induction comment with
  | nil => rfl
  | cons c comment ih => exact ih

theorem valueSpans_skips (comment : Chars) (tokens : List (Token LineMatch)) (offset : Nat) :
    valueSpans offset (comment.map .skip ++ tokens) =
      valueSpans (offset + comment.length) tokens := by
  induction comment generalizing offset with
  | nil => rfl
  | cons c comment ih =>
      show valueSpans (offset + 1) (comment.map .skip ++ tokens) = _
      rw [ih, List.length_cons]
      congr 1
      omega

theorem le_of_mem_valueSpans {tokens : List (Token LineMatch)} {offset : Nat} {span : Nat × Nat}
    (h : span ∈ valueSpans offset tokens) : offset ≤ span.1 := by
  induction tokens generalizing offset with
  | nil => cases h
  | cons token tokens ih =>
      cases token with
      | skip c =>
          have := @ih (offset + 1) h
          omega
      | hit a consumed =>
          rcases List.mem_append.mp h with h | h
          · rw [Option.mem_toList, Option.map_eq_some_iff] at h
            obtain ⟨value, -, rfl⟩ := h
            exact Nat.le_add_right _ _
          · have := ih h
            omega

/-- **A comment line is no assignment.** -/
theorem parseDotenv_line {comment : Chars} (h : ∀ c ∈ comment, isInline c = true)
    (hhash : comment.head? = some '#') (text : Chars) :
    parseDotenv (comment ++ '\n' :: text) = parseDotenv text := by
  unfold parseDotenv
  rw [normalizeNewlines_line h, lineTokens_line h hhash, hits_skips]
  rfl

/-- **A comment line before a text counts**, and leaves the other lines as they are. -/
theorem encodedKeysFrom_line {comment : Chars} (h : ∀ c ∈ comment, isInline c = true)
    (hhash : comment.head? = some '#') (header : Chars) (offset : Nat) (keys : Option (List Chars))
    (text : Chars) :
    encodedKeysFrom header offset keys (comment ++ '\n' :: text) =
      encodedKeysFrom header (offset + (comment.length + 1))
        (if isHeaderComment header (stripChars (comment ++ ['\n'])) then
          some ((keys.getD [] ++
            splitWords ((stripChars (comment ++ ['\n'])).drop header.length)).dedup)
        else keys) text := by
  have hspans : valueSpans offset (comment.map .skip ++ .skip '\n' ::
      lineTokens (normalizeNewlines text)) =
        valueSpans (offset + (comment.length + 1)) (lineTokens (normalizeNewlines text)) := by
    rw [valueSpans_skips]
    rfl
  have houtside : (valueSpans (offset + (comment.length + 1))
      (lineTokens (normalizeNewlines text))).any
        (fun span => span.1 ≤ offset && offset < span.2) = false := by
    refine List.any_eq_false.mpr fun span hspan => ?_
    have hle := le_of_mem_valueSpans hspan
    simp only [Bool.and_eq_true, decide_eq_true_eq]
    omega
  unfold encodedKeysFrom
  rw [normalizeNewlines_line h, lineTokens_line h hhash, hspans, splitLines_line h,
    encodedKeysOfLines, houtside, Bool.not_false, Bool.and_true]
  simp

/-! ### Header lines -/

/-- A character of a word of the metadata. -/
def isWordChar (c : Char) : Bool := isKeyChar c || c == '='

/-- The words of the metadata: they are not empty, and hold no white space. -/
def AreWords (words : List Chars) : Prop :=
  ∀ word ∈ words, word ≠ [] ∧ ∀ c ∈ word, isWordChar c = true

theorem isWordChar_nat {c : Char} (h : isWordChar c = true) : 0x2D ≤ c.toNat ∧ c.toNat < 0x7F := by
  rw [isWordChar, Bool.or_eq_true] at h
  rcases h with h | h
  · exact isKeyChar_nat h
  · obtain rfl := beq_iff_eq.mp h
    decide

theorem isInline_of_isWordChar {c : Char} (h : isWordChar c = true) : isInline c = true := by
  obtain ⟨hlow, hhigh⟩ := isWordChar_nat h
  rw [isInline, Bool.and_eq_true, decide_eq_true_eq, decide_eq_true_eq]
  omega

theorem not_isPySpace_of_isWordChar {c : Char} (h : isWordChar c = true) : isPySpace c = false := by
  obtain ⟨hlow, hhigh⟩ := isWordChar_nat h
  simp [isPySpace]
  omega

/-- The words of a comment, each after a blank. -/
def blankWords (words : List Chars) : Chars := words.flatMap fun word => ' ' :: word

theorem blankWords_cons (word : Chars) (words : List Chars) :
    blankWords (word :: words) = ' ' :: (word ++ blankWords words) := by
  rw [blankWords, List.flatMap_cons, ← blankWords, List.cons_append]

theorem intercalate_blank (word : Chars) (words : List Chars) :
    List.intercalate [' '] (word :: words) = word ++ blankWords words := by
  induction words generalizing word with
  | nil => simp [blankWords]
  | cons next words ih =>
      rw [List.intercalate_cons_cons, ih, blankWords_cons]
      simp

theorem splitWords_blankWords {words : List Chars} (h : AreWords words) :
    splitWords (blankWords words) = words := by
  have hfree : ∀ word ∈ words, ∀ c ∈ word, isPySpace c = false := fun word hword c hc =>
    not_isPySpace_of_isWordChar ((h word hword).2 c hc)
  have hsplit : ∀ word ∈ words, ∀ others : List Chars, (∀ other ∈ others, other ∈ words) →
      (word ++ blankWords others).splitOnP isPySpace = word :: others := by
    intro word hword others
    induction others generalizing word with
    | nil =>
        intro _
        rw [show blankWords [] = [] from rfl, List.append_nil,
          List.splitOnP_eq_singleton (hfree word hword)]
    | cons next others ih =>
        intro hothers
        rw [blankWords_cons,
          List.splitOnP_append_cons_of_forall_mem (hfree word hword) ' ' (by decide),
          ih next (hothers next List.mem_cons_self) fun other hother =>
            hothers other (List.mem_cons_of_mem _ hother)]
  cases hwords : words with
  | nil => rfl
  | cons word others =>
      rw [hwords] at hsplit h
      have hrest := hsplit word List.mem_cons_self others fun other hother =>
        List.mem_cons_of_mem _ hother
      have hfirst : (' ' :: (word ++ blankWords others)).splitOnP isPySpace =
          [] :: (word ++ blankWords others).splitOnP isPySpace :=
        @List.splitOnP_append_cons_of_forall_mem _ isPySpace [] (by simp) ' ' (by decide) _
      rw [splitWords, blankWords_cons, hfirst, hrest, List.filter_cons_of_neg (by simp)]
      exact List.filter_eq_self.mpr fun other hother => by simp [(h other hother).1]

theorem getLast?_blankWords {words : List Chars} (h : AreWords words) {c : Char}
    (hc : (blankWords words).getLast? = some c) : isWordChar c = true := by
  induction words with
  | nil => cases hc
  | cons word words ih =>
      have hword := h word List.mem_cons_self
      have hsplit : blankWords (word :: words) = [' '] ++ word ++ blankWords words := by
        rw [blankWords_cons]
        simp
      rw [hsplit, List.getLast?_append, List.getLast?_append,
        List.getLast?_eq_getLast_of_ne_nil hword.1] at hc
      cases hlast : (blankWords words).getLast? with
      | some d =>
          rw [hlast] at hc
          obtain rfl := Option.some.inj hc
          exact ih (fun other hother => h other (List.mem_cons_of_mem _ hother)) hlast
      | none =>
          rw [hlast] at hc
          obtain rfl := Option.some.inj hc
          exact hword.2 _ (List.getLast_mem hword.1)

/-- What makes a text a header. -/
structure IsHeader (header : Chars) : Prop where
  hash : header.head? = some '#'
  inline : ∀ c ∈ header, isInline c = true
  last : ∀ c ∈ header.getLast?, isPySpace c = false

theorem isHeader_composeHeader : IsHeader composeHeader where
  hash := by decide
  inline := List.all_eq_true.mp (by decide)
  last := by
    intro c hc
    obtain rfl : '1' = c := Option.some.inj hc
    decide

theorem isHeader_composeLiteralHeader : IsHeader composeLiteralHeader where
  hash := by decide
  inline := List.all_eq_true.mp (by decide)
  last := by
    intro c hc
    obtain rfl : '2' = c := Option.some.inj hc
    decide

theorem headerLine_inline {header : Chars} (hheader : IsHeader header) {words : List Chars}
    (hwords : AreWords words) : ∀ c ∈ headerLine header words, isInline c = true := by
  intro c hc
  rcases List.mem_append.mp hc with hc | hc
  · exact hheader.inline c hc
  rcases List.mem_cons.mp hc with rfl | hc
  · decide
  cases hsorted : words.insertionSort (· ≤ ·) with
  | nil =>
      rw [hsorted] at hc
      cases hc
  | cons word others =>
      have hmem : ∀ other ∈ word :: others, other ∈ words := fun other hother =>
        (List.mem_insertionSort (· ≤ ·)).mp (hsorted ▸ hother)
      rw [hsorted, intercalate_blank, List.mem_append, blankWords, List.mem_flatMap] at hc
      rcases hc with hc | hc
      · exact isInline_of_isWordChar ((hwords _ (hmem _ List.mem_cons_self)).2 c hc)
      · obtain ⟨other, hother, hc⟩ := hc
        rcases List.mem_cons.mp hc with rfl | hc
        · decide
        · exact isInline_of_isWordChar
            ((hwords _ (hmem _ (List.mem_cons_of_mem _ hother))).2 c hc)

theorem headerLine_hash {header : Chars} (hheader : IsHeader header) (words : List Chars) :
    (headerLine header words).head? = some '#' := by
  rw [headerLine, List.head?_append, hheader.hash]
  rfl

theorem stripChars_headerLine {header : Chars} (hheader : IsHeader header) {words : List Chars}
    (hwords : AreWords words) :
    stripChars (headerLine header words ++ ['\n']) =
      header ++ blankWords (words.insertionSort (· ≤ ·)) := by
  have hsortedWords : AreWords (words.insertionSort (· ≤ ·)) := fun word hword =>
    hwords word ((List.mem_insertionSort (· ≤ ·)).mp hword)
  have hfirst : ∀ c ∈ (header ++ blankWords (words.insertionSort (· ≤ ·))).head?,
      isPySpace c = false := by
    intro c hc
    rw [List.head?_append, hheader.hash] at hc
    obtain rfl := Option.some.inj hc
    decide
  have hne : header ++ blankWords (words.insertionSort (· ≤ ·)) ≠ [] := by
    intro hnil
    have hheaderNil := (List.append_eq_nil_iff.mp hnil).1
    have hhash := hheader.hash
    rw [hheaderNil] at hhash
    cases hhash
  have hlast : ∀ c ∈ (header ++ blankWords (words.insertionSort (· ≤ ·))).getLast?,
      isPySpace c = false := by
    intro c hc
    rw [List.getLast?_append] at hc
    cases hend : (blankWords (words.insertionSort (· ≤ ·))).getLast? with
    | some d =>
        rw [hend] at hc
        obtain rfl := Option.some.inj hc
        exact not_isPySpace_of_isWordChar (getLast?_blankWords hsortedWords hend)
    | none =>
        rw [hend] at hc
        exact hheader.last c hc
  have htext : ∃ blank, headerLine header words ++ ['\n'] =
      header ++ blankWords (words.insertionSort (· ≤ ·)) ++ blank ∧
        ∀ c ∈ blank, isPySpace c = true := by
    cases hsorted : words.insertionSort (· ≤ ·) with
    | nil => exact ⟨[' ', '\n'], by simp [headerLine, hsorted, blankWords],
        List.all_eq_true.mp (by decide)⟩
    | cons word others =>
        refine ⟨['\n'], ?_, List.all_eq_true.mp (by decide)⟩
        rw [headerLine, hsorted, intercalate_blank, blankWords_cons]
  obtain ⟨blank, heq, hblank⟩ := htext
  rw [heq]
  exact stripWith_append hfirst hlast hne hblank

/-- **A header line gives its words back**, to the header it was written with. -/
theorem encodedKeysFrom_headerLine {header : Chars} (hheader : IsHeader header)
    {words : List Chars} (hwords : AreWords words) (offset : Nat) (keys : Option (List Chars))
    (text : Chars) :
    encodedKeysFrom header offset keys (headerLine header words ++ '\n' :: text) =
      encodedKeysFrom header (offset + ((headerLine header words).length + 1))
        (some ((keys.getD [] ++ words.insertionSort (· ≤ ·)).dedup)) text := by
  have hsortedWords : AreWords (words.insertionSort (· ≤ ·)) := fun word hword =>
    hwords word ((List.mem_insertionSort (· ≤ ·)).mp hword)
  have hcounts : isHeaderComment header (header ++ blankWords (words.insertionSort (· ≤ ·))) =
      true := by
    cases hsorted : words.insertionSort (· ≤ ·) with
    | nil => simp [isHeaderComment, blankWords]
    | cons word others =>
        rw [isHeaderComment, blankWords_cons, Bool.or_eq_true]
        refine .inr (List.isPrefixOf_iff_prefix.mpr ⟨word ++ blankWords others, by simp⟩)
  rw [encodedKeysFrom_line (headerLine_inline hheader hwords) (headerLine_hash hheader words),
    stripChars_headerLine hheader hwords, if_pos hcounts, List.drop_left,
    splitWords_blankWords hsortedWords]

/-- A header line says nothing to the other header. -/
theorem encodedKeysFrom_headerLine_other {header other : Chars} (hother : IsHeader other)
    (hdiffer : ∀ tail, isHeaderComment header (other ++ tail) = false) {words : List Chars}
    (hwords : AreWords words) (offset : Nat) (keys : Option (List Chars)) (text : Chars) :
    encodedKeysFrom header offset keys (headerLine other words ++ '\n' :: text) =
      encodedKeysFrom header (offset + ((headerLine other words).length + 1)) keys text := by
  rw [encodedKeysFrom_line (headerLine_inline hother hwords) (headerLine_hash hother words),
    stripChars_headerLine hother hwords, hdiffer]
  rfl

theorem composeHeader_differs (tail : Chars) :
    isHeaderComment composeHeader (composeLiteralHeader ++ tail) = false := rfl

theorem composeLiteralHeader_differs (tail : Chars) :
    isHeaderComment composeLiteralHeader (composeHeader ++ tail) = false := rfl

theorem parseDotenv_headerLine {header : Chars} (hheader : IsHeader header) {words : List Chars}
    (hwords : AreWords words) (text : Chars) :
    parseDotenv (headerLine header words ++ '\n' :: text) = parseDotenv text :=
  parseDotenv_line (headerLine_inline hheader hwords) (headerLine_hash hheader words) text

end Launchplane.Dokploy
