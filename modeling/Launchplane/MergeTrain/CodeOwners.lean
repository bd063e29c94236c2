import Launchplane.Glob
import Launchplane.Text

/-!
# Launchplane.MergeTrain.CodeOwners

**Which changes have code owners.** A change that someone owns lands on its own
pull request. The routing does not decide who owns what: it only has to see every
change that somebody may own, so it reads patterns more widely than CODEOWNERS
does.

* `Owns`: what a pattern owns, the way gitignore patterns match.
* `mayMatch`: what the routing takes for owned.

`mayMatch_of_owns` compares the two, one case for each way the routing reads a
pattern; the rest is about finding the pattern's line in the file.
-/

namespace Launchplane.MergeTrain

open Launchplane.Glob

/-! ### Routing -/

/-- `CODEOWNERS_PATHS`. -/
def codeownersPaths : List String := [".github/CODEOWNERS", "CODEOWNERS", "docs/CODEOWNERS"]

/-- The characters `str.splitlines` ends a line at. -/
def isLineBoundary (c : Char) : Bool :=
  c ∈ ['\n', '\r', '\x0b', '\x0c', '\x1c', '\x1d', '\x1e', '\u0085', '\u2028', '\u2029']

/-- `str.splitlines`. -/
def splitlines : List Char → List (List Char)
  | [] => []
  | '\r' :: '\n' :: rest => [] :: splitlines rest
  | c :: rest =>
    if isLineBoundary c then [] :: splitlines rest
    else
      match splitlines rest with
      | [] => [[c]]
      | line :: lines => (c :: line) :: lines

/-- `str.split`, at blanks. -/
def pySplit (cs : List Char) : List (List Char) := (cs.splitOnP isPySpace).filter (· ≠ [])

/-- `parse_codeowner_patterns`. -/
def parseCodeownerPatterns (content : String) : List String :=
  (splitlines (content.toList.dropWhile (· = '\uFEFF'))).filterMap fun rawLine =>
    match pySplit rawLine with
    | word :: _ :: _ => if word.head? = some '#' then none else some (String.ofList word)
    | _ => none

/-- The token of a pattern character. -/
def globToken (c : Char) : Token Char :=
  if c = '*' then .star else if c = '?' then .any else .lit c

/-- `fnmatchcase`, of a pattern without brackets: those are routed before it is asked. -/
def fnmatchcase (name pattern : List Char) : Bool := test (pattern.map globToken) name

/-- The characters of a pattern that is routed individually instead of guessed. -/
def isUnusual (c : Char) : Bool := c ∈ ['\\', '[', ']', '!']

/-- `path.split("/")`. -/
def pathComponents (path : List Char) : List (List Char) := path.splitOn '/'

/-- `"/".join`. -/
def joinComponents (components : List (List Char)) : List Char := ['/'].intercalate components

/-- `_may_match`. -/
def mayMatch (path pattern : List Char) : Bool :=
  if pattern.any isUnusual then true
  else
    let anchored := pattern.head? = some '/'
    let pattern := stripWith (· = '/') pattern
    let components := pathComponents path
    if pattern = [] then true
    else if ['*', '*'] <:+: pattern then
      let literal := (pattern.takeWhile (· ≠ '*')).takeWhile (· ≠ '?')
      if anchored ∨ '/' ∈ pattern then literal.isPrefixOf path
      else components.any literal.isPrefixOf
    else
      let prefixes := (List.range components.length).map fun index =>
        joinComponents (components.take (index + 1))
      if anchored ∨ '/' ∈ pattern then prefixes.any fun leading => fnmatchcase leading pattern
      else components.any fun component => fnmatchcase component pattern

/-- `paths_require_individual_landing`. -/
def pathsRequireIndividualLanding (paths patterns : List String) : Bool :=
  paths.any fun path =>
    path ∈ codeownersPaths || patterns.any fun pattern => mayMatch path.toList pattern.toList

/-! ### Ownership -/

/-- A component of a pattern: `**` crosses directories, and acts as `*` within a component. -/
def patternSegment (component : List Char) : Segment Char :=
  if component = ['*', '*'] then .dirs else .name (component.map globToken)

/-- The segments of a pattern. A slash at the start or in the middle anchors it at the root;
otherwise it matches at any depth. -/
def patternSegments (pattern : List Char) : List (Segment Char) :=
  let body := stripWith (· = '/') pattern
  if pattern.head? = some '/' ∨ '/' ∈ body then (body.splitOn '/').map patternSegment
  else [.dirs, .name (body.map globToken)]

/-- What a pattern owns: the paths it matches, where wildcards do not cross a slash, and everything
below a directory it matches. With a trailing slash it matches directories only. What brackets,
escapes and negation mean is left open. -/
def Owns (unusual : List Char → List Char → Prop) (pattern path : List Char) : Prop :=
  if pattern.any isUnusual then unusual pattern path
  else
    ∃ matched below, pathComponents path = matched ++ below ∧
      SegmentsMatch (· ≠ '/') (patternSegments pattern) matched ∧
      (pattern.getLast? = some '/' → below ≠ [])

/-! ### The comparison -/

section

variable {pattern path : List Char}

theorem joinComponents_pathComponents (path : List Char) :
    joinComponents (pathComponents path) = path := List.intercalate_splitOn '/'

/-- The tokens of joined components are the joined tokens. -/
theorem map_globToken_join (components : List (List Char)) :
    (joinComponents components).map globToken =
      joinTokens '/' (components.map patternSegment) := by
  have htokens (component : List Char) :
      (patternSegment component).tokens = component.map globToken := by
    unfold patternSegment
    split
    case isTrue hstars => rw [hstars]; rfl
    case isFalse => rfl
  unfold joinComponents joinTokens
  induction components with
  | nil => rfl
  | cons component rest ih =>
    cases rest with
    | nil => simp [htokens]
    | cons next rest =>
      rw [List.intercalate_cons_cons, List.map_append, List.map_append, ih]
      show _ = [Token.lit '/'].intercalate
        ((patternSegment component).tokens :: (patternSegment next).tokens :: _)
      rw [List.intercalate_cons_cons, htokens component]
      rfl

theorem literals_map_globToken (cs : List Char) :
    literals (cs.map globToken) = (cs.takeWhile (· ≠ '*')).takeWhile (· ≠ '?') := by
  induction cs with
  | nil => rfl
  | cons c cs ih =>
    by_cases hstar : c = '*'
    · simp [globToken, hstar, literals]
    · by_cases hany : c = '?'
      · simp [globToken, hany, literals]
      · simp [globToken, hstar, hany, literals, ih]

/-- A component is a part of the path. -/
theorem infix_of_mem_pathComponents {component : List Char} (h : component ∈ pathComponents path) :
    component <:+: path := by
  rw [← joinComponents_pathComponents path]
  generalize pathComponents path = components at h
  unfold joinComponents
  induction components with
  | nil => cases h
  | cons first rest ih =>
    cases rest with
    | nil =>
      rw [List.mem_singleton.mp h, List.intercalate_singleton]
    | cons next rest =>
      rw [List.intercalate_cons_cons]
      rcases List.mem_cons.mp h with rfl | h
      · exact (List.prefix_append _ _).isInfix.trans (List.prefix_append _ _).isInfix
      · exact (ih h).trans (List.suffix_append _ _).isInfix

/-- What the wildcards of a name match, `fnmatchcase` matches too. -/
theorem fnmatchcase_of_matches {wild : Char → Prop} {name : List Char}
    (h : Matches wild (pattern.map globToken) name) : fnmatchcase name pattern = true :=
  test_iff.mpr (h.mono fun _ _ => trivial)

/-- **The routing sees every owned change.** -/
theorem mayMatch_of_owns {unusual : List Char → List Char → Prop} (h : Owns unusual pattern path) :
    mayMatch path pattern = true := by
  unfold Owns at h
  unfold mayMatch
  split at h
  case isTrue hunusual => rw [if_pos hunusual]
  case isFalse hunusual =>
    rw [if_neg hunusual]
    obtain ⟨matched, below, hpath, hmatch, _⟩ := h
    unfold patternSegments at hmatch
    dsimp only at hmatch ⊢
    generalize stripWith (· = '/') pattern = body at hmatch ⊢
    have hjoined : joinTokens '/' ((body.splitOn '/').map patternSegment) = body.map globToken := by
      rw [← map_globToken_join]
      exact congrArg (List.map globToken) (joinComponents_pathComponents body)
    have hmem {component : List Char} (h : component ∈ matched) :
        component ∈ pathComponents path := by
      rw [hpath]
      exact List.mem_append_left below h
    split
    case isTrue => rfl
    case isFalse hbody =>
      split
      case isTrue =>
        -- whatever is matched starts with the literal prefix
        rw [← literals_map_globToken]
        split at hmatch
        case isTrue hanchored =>
          rw [if_pos (by simpa using hanchored), List.isPrefixOf_iff_prefix]
          have hprefix : literals (joinTokens '/' ((body.splitOn '/').map patternSegment)) <+:
              joinComponents (matched ++ below) := hmatch.literals_prefix below
          rwa [hjoined, ← hpath, joinComponents_pathComponents] at hprefix
        case isFalse hanchored =>
          rw [if_neg (by simpa using hanchored)]
          obtain ⟨component, hcomponent, hname⟩ := hmatch.anywhere
          exact List.any_eq_true.mpr
            ⟨component, hmem hcomponent, List.isPrefixOf_iff_prefix.mpr hname.literals_prefix⟩
      case isFalse hstars =>
        split at hmatch
        case isTrue hanchored =>
          rw [if_pos (by simpa using hanchored)]
          -- without `**` every segment is a name
          have hnames : (body.splitOn '/').map patternSegment =
              ((body.splitOn '/').map (List.map globToken)).map .name := by
            rw [List.map_map]
            refine List.map_congr_left fun component hcomponent => if_neg fun hdirs => hstars ?_
            rw [← hdirs]
            exact infix_of_mem_pathComponents hcomponent
          have hne : matched ≠ [] := hmatch.ne_nil (by simp)
          rw [hnames] at hmatch hjoined
          have hwhole : Matches (fun _ => True) (joinTokens '/' _) (joinComponents matched) :=
            matches_join hmatch
          rw [hjoined] at hwhole
          refine List.any_eq_true.mpr ⟨joinComponents matched, ?_, fnmatchcase_of_matches hwhole⟩
          obtain ⟨first, rest, rfl⟩ := List.exists_cons_of_ne_nil hne
          refine List.mem_map.mpr ⟨rest.length, List.mem_range.mpr (by rw [hpath, List.length_append, List.length_cons]; omega), ?_⟩
          simp [hpath]
        case isFalse hanchored =>
          rw [if_neg (by simpa using hanchored)]
          obtain ⟨component, hcomponent, hname⟩ := hmatch.anywhere
          exact List.any_eq_true.mpr
            ⟨component, hmem hcomponent, fnmatchcase_of_matches hname⟩

end

/-! ### Finding the line -/

/-- A text in which a line ends at a newline, with or without a carriage return before it. -/
def NewlineSeparated (cs : List Char) : Prop :=
  ∀ before c after, cs = before ++ c :: after → isLineBoundary c = true →
    c = '\n' ∨ (c = '\r' ∧ after.head? = some '\n')

/-- A line that gives a pattern owners. -/
structure OwnerLine (line pattern : List Char) : Prop where
  /-- The pattern stands first, and something that is not blank follows it. -/
  form : ∃ indent gap owners, line = indent ++ pattern ++ gap ++ owners ∧
    (∀ c ∈ indent, isPySpace c = true) ∧ (∀ c ∈ gap, isPySpace c = true) ∧ gap ≠ [] ∧
    ∃ c ∈ owners, isPySpace c = false
  nonempty : pattern ≠ []
  word : ∀ c ∈ pattern, isPySpace c = false
  /-- The line is not a comment. -/
  uncommented : pattern.head? ≠ some '#'

section

variable {cs rest : List Char}

theorem NewlineSeparated.tail {c : Char} (h : NewlineSeparated (c :: cs)) : NewlineSeparated cs := by
  intro before d after heq
  exact h (c :: before) d after (by rw [heq, List.cons_append])

/-- A line of the file is among those the routing reads, up to a carriage return at its end. -/
def Covered (line : List Char) (lines : List (List Char)) : Prop :=
  line = [] ∨ ∃ read ∈ lines, line = read ∨ line = read ++ ['\r']

theorem Covered.cons {line read : List Char} {lines : List (List Char)} (h : Covered line lines) :
    Covered line (read :: lines) := by
  rcases h with h | ⟨other, hmem, h⟩
  · exact .inl h
  · exact .inr ⟨other, List.mem_cons_of_mem read hmem, h⟩

/-- The lines of a file and those read from it, the first ones apart: both grow together. -/
def Lines (split read : List (List Char)) : Prop :=
  (split = [[]] ∧ read = []) ∨
    ∃ line lines first others, split = line :: lines ∧ read = first :: others ∧
      (line = first ∨ line = first ++ ['\r']) ∧ ∀ l ∈ lines, Covered l others

theorem Lines.covered {split read : List (List Char)} (h : Lines split read) :
    ∀ line ∈ split, Covered line read := by
  rcases h with ⟨rfl, rfl⟩ | ⟨line, lines, first, others, rfl, rfl, hfirst, hothers⟩
  · simp [Covered]
  · intro l hl
    rcases List.mem_cons.mp hl with rfl | hl
    · exact .inr ⟨first, List.mem_cons_self, hfirst⟩
    · exact (hothers l hl).cons

theorem lines_splitlines (h : NewlineSeparated cs) : Lines (cs.splitOn '\n') (splitlines cs) := by
  -- the first line grows character by character, from the end of the text
  fun_induction splitlines cs with
  | case1 => exact .inl ⟨rfl, rfl⟩
  | case2 rest ih =>
    refine .inr ⟨['\r'], rest.splitOn '\n', [], splitlines rest, ?_, rfl, .inr rfl,
      (ih h.tail.tail).covered⟩
    simp [List.splitOn_cons_eq_if_modifyHead]
  | case3 c rest hcrlf hboundary ih =>
    obtain rfl : c = '\n' := by
      rcases h [] c rest rfl hboundary with hnewline | ⟨hreturn, hnext⟩
      · exact hnewline
      · cases rest with
        | nil => cases hnext
        | cons d rest => exact absurd (Option.some.inj hnext) (hcrlf _ hreturn ∘ congrArg (· :: rest))
    refine .inr ⟨[], rest.splitOn '\n', [], splitlines rest, ?_, rfl, .inl rfl,
      (ih h.tail).covered⟩
    simp [List.splitOn_cons_eq_if_modifyHead]
  | case4 c rest hcrlf hboundary hread ih =>
    have hother : c ≠ '\n' := by
      rintro rfl
      exact hboundary rfl
    rcases ih h.tail with ⟨hsplit, _⟩ | ⟨_, _, _, _, _, hcons, _⟩
    · refine .inr ⟨[c], [], [c], [], ?_, rfl, .inl rfl, by simp⟩
      simp [List.splitOn_cons_eq_if_modifyHead, hother, hsplit]
    · rw [hread] at hcons
      cases hcons
  | case5 c rest hcrlf hboundary first others hread ih =>
    have hother : c ≠ '\n' := by
      rintro rfl
      exact hboundary rfl
    rcases ih h.tail with ⟨_, hnil⟩ | ⟨line, lines, first', others', hsplit, hcons, hfirst, hothers⟩
    · rw [hread] at hnil
      cases hnil
    · rw [hread] at hcons
      cases hcons
      refine .inr ⟨c :: line, lines, c :: first, others, ?_, rfl, ?_, hothers⟩
      · simp [List.splitOn_cons_eq_if_modifyHead, hother, hsplit]
      · rcases hfirst with rfl | rfl
        · exact .inl rfl
        · exact .inr rfl

/-! #### Its words -/

theorem pySplit_blank {c : Char} (hc : isPySpace c = true) (cs : List Char) :
    pySplit (c :: cs) = pySplit cs := by
  simp [pySplit, List.splitOnP_cons_eq_if_modifyHead, hc]

theorem pySplit_indent {indent : List Char} (h : ∀ c ∈ indent, isPySpace c = true) :
    pySplit (indent ++ cs) = pySplit cs := by
  induction indent with
  | nil => rfl
  | cons c indent ih =>
    rw [List.cons_append, pySplit_blank (h c List.mem_cons_self)]
    exact ih fun d hd => h d (List.mem_cons_of_mem c hd)

theorem pySplit_return (cs : List Char) : pySplit (cs ++ ['\r']) = pySplit cs := by
  unfold pySplit
  rw [List.splitOnP_append_cons cs [] (by decide), List.filter_append]
  simp

/-- The first word of a text. -/
theorem pySplit_word {word : List Char} {c : Char} (hword : ∀ d ∈ word, isPySpace d = false)
    (hne : word ≠ []) (hc : isPySpace c = true) : pySplit (word ++ c :: cs) = word :: pySplit cs := by
  unfold pySplit
  rw [List.splitOnP_append_cons_of_forall_mem hword c hc, List.filter_cons_of_pos (by simpa using hne)]

/-- A text that is not blank has words. -/
theorem pySplit_ne_nil {c : Char} (hc : c ∈ cs) (hblank : isPySpace c = false) :
    pySplit cs ≠ [] := by
  induction cs with
  | nil => cases hc
  | cons d cs ih =>
    by_cases hd : isPySpace d = true
    · rw [pySplit_blank hd]
      rcases List.mem_cons.mp hc with rfl | hc
      · rw [hblank] at hd
        cases hd
      · exact ih hc
    · unfold pySplit
      rw [List.splitOnP_cons_eq_if_modifyHead, if_neg hd]
      obtain ⟨first, others, hsplit⟩ := List.exists_cons_of_ne_nil (List.splitOnP_ne_nil isPySpace cs)
      rw [hsplit, List.modifyHead_cons, List.filter_cons_of_pos (by simp)]
      exact List.cons_ne_nil _ _

/-- The words of an owner line: its pattern, and at least one more. -/
theorem OwnerLine.words {line pattern : List Char} (h : OwnerLine line pattern) :
    ∃ owner others, pySplit line = pattern :: owner :: others := by
  obtain ⟨indent, gap, owners, rfl, hindent, hgap, hne, c, hc, howner⟩ := h.form
  obtain ⟨blank, gap, rfl⟩ := List.exists_cons_of_ne_nil hne
  obtain ⟨owner, others, howners⟩ := List.exists_cons_of_ne_nil (pySplit_ne_nil hc howner)
  refine ⟨owner, others, ?_⟩
  rw [List.append_assoc, List.append_assoc, pySplit_indent hindent, List.cons_append,
    pySplit_word h.word h.nonempty (hgap blank List.mem_cons_self),
    pySplit_indent (fun d hd => hgap d (List.mem_cons_of_mem blank hd)), howners]

end

/-- The content of a CODEOWNERS file: plain ASCII in lines. -/
structure PlainContent (content : String) : Prop where
  ascii : ∀ c ∈ content.toList, c.toNat < 128
  lines : NewlineSeparated content.toList

/-- The pattern of every owner line is read, whatever the other lines are. -/
theorem mem_parseCodeownerPatterns {content : String} (hcontent : PlainContent content)
    {line pattern : List Char} (hline : line ∈ content.toList.splitOn '\n')
    (howner : OwnerLine line pattern) :
    String.ofList pattern ∈ parseCodeownerPatterns content := by
  have hmark : content.toList.dropWhile (· = '\uFEFF') = content.toList := by
    rw [List.dropWhile_eq_self_iff]
    intro hlength hmark
    have hascii := hcontent.ascii _ (List.getElem_mem hlength)
    rw [of_decide_eq_true hmark] at hascii
    exact absurd hascii (by decide)
  obtain ⟨owner, others, hwords⟩ := howner.words
  obtain ⟨read, hread, hsame⟩ : ∃ read ∈ splitlines content.toList, pySplit read = pySplit line := by
    rcases (lines_splitlines hcontent.lines).covered line hline with rfl | ⟨read, hread, hsame⟩
    · cases hwords
    · refine ⟨read, hread, ?_⟩
      rcases hsame with rfl | rfl
      · rfl
      · exact (pySplit_return read).symm
  unfold parseCodeownerPatterns
  rw [hmark]
  refine List.mem_filterMap.mpr ⟨read, hread, ?_⟩
  rw [hsame, hwords]
  exact if_neg howner.uncommented

/-- **A change that a pattern owns lands individually**, wherever the pattern's line stands in the
file and whatever other paths were changed. -/
theorem pathsRequireIndividualLanding_of_owns {unusual : List Char → List Char → Prop}
    {content : String} (hcontent : PlainContent content) {line pattern : List Char}
    (hline : line ∈ content.toList.splitOn '\n') (howner : OwnerLine line pattern)
    {path : String} (howns : Owns unusual pattern path.toList) {paths : List String}
    (hpath : path ∈ paths) :
    pathsRequireIndividualLanding paths (parseCodeownerPatterns content) = true := by
  refine List.any_eq_true.mpr ⟨path, hpath, Bool.or_eq_true_iff.mpr (.inr ?_)⟩
  refine List.any_eq_true.mpr
    ⟨String.ofList pattern, mem_parseCodeownerPatterns hcontent hline howner, ?_⟩
  rw [String.toList_ofList]
  exact mayMatch_of_owns howns

theorem newlineSeparated_of_newlines {cs : List Char}
    (h : ∀ c ∈ cs, isLineBoundary c = true → c = '\n') : NewlineSeparated cs := by
  intro before c after heq hboundary
  exact .inl (h c (by simp [heq]) hboundary)

-- A test of every character of a text goes through its list, not through all characters.
theorem forall_mem_of_all {p : Char → Prop} [DecidablePred p] {cs : List Char}
    (h : cs.all (fun c => decide (p c)) = true) : ∀ c ∈ cs, p c := by
  simpa using h

/-- A comment, a pattern with an owner, and the same pattern without one. -/
def sampleCodeowners : String := "# reviewed docs\n/docs/ @writers\n\n/docs/\n"

theorem owns_sample (unusual : List Char → List Char → Prop) :
    Owns unusual "/docs/".toList "docs/guide.md".toList := by
  refine ⟨["docs".toList], ["guide.md".toList], by decide +kernel, ?_, by decide +kernel⟩
  show SegmentsMatch _ [.name [.lit 'd', .lit 'o', .lit 'c', .lit 's']] _
  exact .name (.lit (.lit (.lit (.lit .nil)))) .nil

theorem pathsRequireIndividualLanding_sample :
    pathsRequireIndividualLanding ["README.md", "docs/guide.md"]
      (parseCodeownerPatterns sampleCodeowners) = true := by
  have hcontent : PlainContent sampleCodeowners :=
    ⟨forall_mem_of_all (by decide +kernel),
      newlineSeparated_of_newlines (forall_mem_of_all (by decide +kernel))⟩
  have howner : OwnerLine "/docs/ @writers".toList "/docs/".toList :=
    ⟨⟨[], [' '], "@writers".toList, by decide +kernel, by simp,
      forall_mem_of_all (by decide +kernel), by simp, '@', by decide +kernel, by decide +kernel⟩,
      by decide +kernel, forall_mem_of_all (by decide +kernel), by decide +kernel⟩
  exact pathsRequireIndividualLanding_of_owns hcontent (by decide +kernel) howner
    (owns_sample fun _ _ => False) (by simp)

end Launchplane.MergeTrain
