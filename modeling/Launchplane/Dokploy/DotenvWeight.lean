import Launchplane.Dokploy.Dotenv

/-!
# Launchplane.Dokploy.DotenvWeight

**No reading of a value is lighter than its writing.** The weight of a text
counts its characters, except that quotes weigh nothing and a carriage return
weighs two. Stripping, unquoting and expanding escapes never add weight, and the
candidates for a value all weigh what the value weighs. A joined text that reads
back therefore spends its whole weight on keys, separators and values, and a `#`
outside a value would be one character too many.
-/

namespace Launchplane.Dokploy

open Launchplane.Regex Launchplane.Regex.Matcher

/-! ### Weights -/

/-- The weight of a character. -/
def charWeight (c : Char) : Nat := if isQuote c then 0 else if c = '\r' then 2 else 1

/-- The weight of a text. -/
def weigh (text : Chars) : Nat := (text.map charWeight).sum

@[simp] theorem weigh_nil : weigh [] = 0 := rfl

@[simp] theorem weigh_cons (c : Char) (text : Chars) :
    weigh (c :: text) = charWeight c + weigh text := rfl

@[simp] theorem weigh_append (text text' : Chars) :
    weigh (text ++ text') = weigh text + weigh text' := by
  simp [weigh]

theorem weigh_sublist {text text' : Chars} (h : text.Sublist text') : weigh text ≤ weigh text' := by
  induction h with
  | slnil => exact Nat.le_refl _
  | cons c _ ih =>
      rw [weigh_cons]
      omega
  | cons_cons c _ ih =>
      rw [weigh_cons, weigh_cons]
      omega

theorem quote_toNat {c : Char} (h : isQuote c = true) :
    c.toNat = 0x27 ∨ c.toNat = 0x22 ∨ c.toNat = 0x60 := by
  unfold isQuote at h
  simp only [Bool.or_eq_true, beq_iff_eq] at h
  rcases h with (rfl | rfl) | rfl
  · decide
  · decide
  · decide

theorem charWeight_of_quote {c : Char} (h : isQuote c = true) : charWeight c = 0 := if_pos h

theorem charWeight_hash : charWeight '#' = 1 := by decide

theorem charWeight_newline : charWeight '\n' = 1 := by decide

theorem charWeight_lineBreak {c : Char} (h : isLineBreak c = true) : charWeight c = 1 := by
  have hnat : c.toNat = 10 ∨ c.toNat = 0x2028 ∨ c.toNat = 0x2029 := by
    simp only [isLineBreak, Bool.or_eq_true, beq_iff_eq] at h
    rcases h with (rfl | h) | h
    · exact .inl rfl
    · exact .inr (.inl h)
    · exact .inr (.inr h)
  have hquote : ¬ isQuote c = true := by
    intro hq
    have := quote_toNat hq
    omega
  have hreturn : c ≠ '\r' := by
    rintro rfl
    revert hnat
    decide
  rw [charWeight, if_neg hquote, if_neg hreturn]

theorem one_le_charWeight_space {c : Char} (h : isDotenvSpace c = true) : 1 ≤ charWeight c := by
  have hquote : ¬ isQuote c = true := by
    intro hq
    have := quote_toNat hq
    simp [isDotenvSpace] at h
    omega
  rw [charWeight, if_neg hquote]
  split <;> omega

theorem length_le_weigh {text : Chars} (h : ∀ c ∈ text, isDotenvSpace c = true) :
    text.length ≤ weigh text := by
  induction text with
  | nil => exact Nat.le_refl _
  | cons c text ih =>
      have hc := one_le_charWeight_space (h c List.mem_cons_self)
      have htext := ih fun d hd => h d (List.mem_cons_of_mem _ hd)
      rw [weigh_cons, List.length_cons]
      omega

/-! ### Reading adds no weight -/

theorem quoted_spec {input rest body : Chars} (h : (body, rest) ∈ quoted input) :
    ∃ quote, isQuote quote = true ∧ input = quote :: (body ++ quote :: rest) := by
  obtain ⟨quote, afterQuote, hquote, h⟩ := mem_bind.mp h
  obtain ⟨text, afterText, htext, h⟩ := mem_bind.mp h
  obtain ⟨close, afterClose, hclose, h⟩ := mem_bind.mp h
  obtain ⟨u, last, hlook, h⟩ := mem_bind.mp h
  obtain ⟨rfl, rfl⟩ := mem_pure.mp h
  obtain ⟨rfl, -⟩ := mem_lookAhead.mp hlook
  obtain ⟨rfl, heq⟩ := mem_satisfy.mp hclose
  obtain rfl := beq_iff_eq.mp heq
  obtain ⟨rfl, -⟩ := mem_many htext
  obtain ⟨rfl, hq⟩ := mem_satisfy.mp hquote
  exact ⟨_, hq, rfl⟩

theorem quoted_progress : quoted.Progress := by
  intro input rest body h
  obtain ⟨quote, -, rfl⟩ := quoted_spec h
  exact ⟨quote :: (body ++ [quote]), List.cons_ne_nil _ _, by simp⟩

theorem weigh_unquote (value : Chars) : weigh (unquote value) = weigh value := by
  have hscan : Scanned quoted (scan lineStart quoted value) value :=
    scanned_scan quoted_progress value
  unfold unquote
  generalize scan lineStart quoted value = tokens at hscan
  induction hscan with
  | nil => rfl
  | skip _ ih => rw [List.flatMap_cons, weigh_append, ih]; rfl
  | hit hmatch _ _ ih =>
      obtain ⟨quote, hquote, hinput⟩ := quoted_spec hmatch
      rename_i body consumed rest tokens _ _
      have htail : weigh (consumed ++ rest) = weigh body + weigh rest := by
        rw [hinput, weigh_cons, weigh_append, weigh_cons, charWeight_of_quote hquote]
        omega
      rw [List.flatMap_cons, weigh_append, ih, htail]

theorem weigh_replacePair {a b c : Char} (h : charWeight c ≤ charWeight a + charWeight b)
    (text : Chars) : weigh (replacePair a b c text) ≤ weigh text := by
  fun_induction replacePair a b c text with
  | case1 x y rest hxy ih =>
      obtain ⟨rfl, rfl⟩ := hxy
      simp only [weigh_cons]
      omega
  | case2 x y rest hxy ih =>
      simp only [weigh_cons] at ih ⊢
      omega
  | case3 => exact Nat.le_refl _

theorem weigh_parseValue (group : Chars) : weigh (parseValue group) ≤ weigh group := by
  have hstrip := weigh_sublist (stripWith_sublist isDotenvSpace group)
  unfold parseValue
  dsimp only
  split
  · have hnewline := weigh_replacePair (a := '\\') (b := 'n') (c := '\n') (by decide)
      (unquote (stripWith isDotenvSpace group))
    have hreturn := weigh_replacePair (a := '\\') (b := 'r') (c := '\r') (by decide)
      (replacePair '\\' 'n' '\n' (unquote (stripWith isDotenvSpace group)))
    rw [weigh_unquote] at hnewline
    omega
  · rw [weigh_unquote]
    exact hstrip

theorem weigh_normalizeNewlines (text : Chars) : weigh (normalizeNewlines text) ≤ weigh text := by
  have hreturn : charWeight '\r' = 2 := by decide
  fun_induction normalizeNewlines text with
  | case1 rest ih =>
      simp only [weigh_cons, charWeight_newline]
      omega
  | case2 rest _ ih =>
      simp only [weigh_cons, charWeight_newline, hreturn]
      omega
  | case3 c rest _ _ ih =>
      simp only [weigh_cons]
      omega
  | case4 => exact Nat.le_refl _

/-! ### Writing adds no weight -/

theorem weigh_escapeReturns (value : Chars) : weigh (escapeReturns value) = weigh value := by
  have hreturn : charWeight '\r' = weigh ['\\', 'r'] := by decide
  induction value with
  | nil => rfl
  | cons c value ih =>
      rw [escapeReturns, List.flatMap_cons, weigh_append, ← escapeReturns, ih, weigh_cons]
      split
      · rename_i h
        rw [h, hreturn]
      · rfl

theorem weigh_candidate {value candidate : Chars} (h : candidate ∈ candidates value) :
    weigh candidate = weigh value := by
  have hsingle : charWeight '\'' = 0 := by decide
  have hdouble : charWeight '"' = 0 := by decide
  have hback : charWeight (Char.ofNat 0x60) = 0 := by decide
  simp only [candidates, List.mem_cons, List.not_mem_nil, or_false] at h
  rcases h with rfl | rfl | rfl | rfl
  · rfl
  · simp [hsingle]
  · simp [hback]
  · simp [hdouble, weigh_escapeReturns]

/-! ### The parts of a line -/

theorem separator_spec {mid gap input rest : Chars} {sep : Char}
    (h : ((mid, sep, gap), rest) ∈ separator input) :
    input = mid ++ sep :: (gap ++ rest) ∧ (sep = '=' ∨ sep = ':') ∧
      ∀ c ∈ gap, isDotenvSpace c = true := by
  rcases mem_or.mp h with h | h
  · obtain ⟨mid', rest₁, hmid, h⟩ := mem_bind.mp h
    obtain ⟨sep', rest₂, hsep, h⟩ := mem_bind.mp h
    obtain ⟨gap', rest₃, hgap, h⟩ := mem_bind.mp h
    obtain ⟨heq, rfl⟩ := mem_pure.mp h
    cases heq
    obtain ⟨rfl, hspaces⟩ := mem_lazyMany hgap
    obtain ⟨rfl, hsepEq⟩ := mem_satisfy.mp hsep
    obtain ⟨rfl, -⟩ := mem_many hmid
    exact ⟨rfl, .inl (beq_iff_eq.mp hsepEq), hspaces⟩
  · obtain ⟨sep', rest₂, hsep, h⟩ := mem_bind.mp h
    obtain ⟨gap', rest₃, hgap, h⟩ := mem_bind.mp h
    obtain ⟨heq, rfl⟩ := mem_pure.mp h
    cases heq
    obtain ⟨rfl, -, hspaces⟩ := mem_lazySome hgap
    obtain ⟨rfl, hsepEq⟩ := mem_satisfy.mp hsep
    exact ⟨rfl, .inr (beq_iff_eq.mp hsepEq), hspaces⟩

theorem quotedValue_spec {quote : Char} {input value rest : Chars}
    (h : (value, rest) ∈ quotedValue quote input) : input = value ++ rest := by
  obtain ⟨spaces, rest₁, hspaces, h⟩ := mem_bind.mp h
  obtain ⟨left, rest₂, hleft, h⟩ := mem_bind.mp h
  obtain ⟨body, rest₃, hbody, h⟩ := mem_bind.mp h
  obtain ⟨right, rest₄, hright, h⟩ := mem_bind.mp h
  obtain ⟨rfl, rfl⟩ := mem_pure.mp h
  obtain ⟨rfl, -⟩ := mem_satisfy.mp hright
  obtain ⟨rfl, -⟩ := mem_star (P := fun _ => True) (fun {_ w rest} hturn => by
    rcases mem_or.mp hturn with hturn | hturn
    · obtain ⟨rfl, rfl⟩ := mem_literal hturn
      exact ⟨rfl, trivial⟩
    · exact ⟨(mem_one hturn).1, trivial⟩) hbody
  obtain ⟨rfl, -⟩ := mem_satisfy.mp hleft
  obtain ⟨rfl, -⟩ := mem_many hspaces
  simp

theorem lineValue_spec {input value rest : Chars} (h : (value, rest) ∈ lineValue input) :
    input = value ++ rest := by
  rcases mem_or.mp h with h | h
  · exact quotedValue_spec h
  rcases mem_or.mp h with h | h
  · exact quotedValue_spec h
  rcases mem_or.mp h with h | h
  · exact quotedValue_spec h
  · exact (mem_some1 h).1

theorem lineTrail_spec {input trail rest : Chars} (h : (trail, rest) ∈ lineTrail input) :
    input = trail ++ rest := by
  obtain ⟨spaces, rest₁, hspaces, h⟩ := mem_bind.mp h
  obtain ⟨comment, rest₂, hcomment, h⟩ := mem_bind.mp h
  obtain ⟨rfl, rfl⟩ := mem_pure.mp h
  obtain ⟨rfl, -⟩ := mem_many hspaces
  rcases mem_optional hcomment with hsome | hnone
  · obtain ⟨text, rfl, htext⟩ := hsome
    obtain ⟨mark, rest₃, hmark, htext⟩ := mem_bind.mp htext
    obtain ⟨body, rest₄, hbody, htext⟩ := mem_bind.mp htext
    obtain ⟨rfl, rfl⟩ := mem_pure.mp htext
    obtain ⟨rfl, -⟩ := mem_many hbody
    obtain ⟨rfl, -⟩ := mem_satisfy.mp hmark
    simp
  · obtain ⟨rfl, rfl⟩ := hnone
    simp

theorem exportPrefix_spec {input word rest : Chars} (h : (word, rest) ∈ exportPrefix input) :
    input = word ++ rest := by
  obtain ⟨literal, rest₁, hliteral, h⟩ := mem_bind.mp h
  obtain ⟨spaces, rest₂, hspaces, h⟩ := mem_bind.mp h
  obtain ⟨rfl, rfl⟩ := mem_pure.mp h
  obtain ⟨rfl, -⟩ := mem_some1 hspaces
  obtain ⟨rfl, rfl⟩ := mem_literal hliteral
  simp

/-- The text of a match up to and with its separator. -/
def LineMatch.front (a : LineMatch) : Chars := a.lead ++ a.key ++ a.mid ++ [a.sep]

/-- What a match of `_LINE` looks like. -/
structure LineSpec (a : LineMatch) (input rest : Chars) : Prop where
  text : input = a.front ++ (a.gap ++ (a.value.getD [] ++ (a.trail ++ rest)))
  keyChars : ∀ c ∈ a.key, isKeyChar c = true
  keyNonempty : a.key ≠ []
  sep : a.sep = '=' ∨ a.sep = ':'
  gap : ∀ c ∈ a.gap, isDotenvSpace c = true
  closed : lineEnd rest.head? = true

theorem line_spec {a : LineMatch} {input rest : Chars} (h : (a, rest) ∈ line input) :
    LineSpec a input rest := by
  obtain ⟨indent, rest₁, hindent, h⟩ := mem_bind.mp h
  obtain ⟨exported, rest₂, hexported, h⟩ := mem_bind.mp h
  obtain ⟨key, rest₃, hkey, h⟩ := mem_bind.mp h
  obtain ⟨⟨mid, sep, gap⟩, rest₄, hsep, h⟩ := mem_bind.mp h
  obtain ⟨value, rest₅, hvalue, h⟩ := mem_bind.mp h
  obtain ⟨trail, rest₆, htrail, h⟩ := mem_bind.mp h
  obtain ⟨u, rest₇, hlook, h⟩ := mem_bind.mp h
  obtain ⟨rfl, rfl⟩ := mem_pure.mp h
  obtain ⟨rfl, hclosed⟩ := mem_lookAhead.mp hlook
  obtain rfl := lineTrail_spec htrail
  have hvalueText : rest₄ = value.getD [] ++ (trail ++ rest) := by
    rcases mem_optional hvalue with hsome | hnone
    · obtain ⟨text, rfl, htext⟩ := hsome
      exact lineValue_spec htext
    · obtain ⟨rfl, rfl⟩ := hnone
      rfl
  obtain ⟨rfl, hsepChar, hgap⟩ := separator_spec hsep
  obtain ⟨rfl, hkeyNonempty, hkeyChars⟩ := mem_some1 hkey
  have hexportedText : rest₁ = exported.getD [] ++ (key ++ (mid ++ sep :: (gap ++ rest₄))) := by
    rcases mem_optional hexported with hsome | hnone
    · obtain ⟨text, rfl, htext⟩ := hsome
      exact exportPrefix_spec htext
    · obtain ⟨rfl, rfl⟩ := hnone
      rfl
  obtain ⟨rfl, -⟩ := mem_many hindent
  refine ⟨?_, hkeyChars, hkeyNonempty, hsepChar, hgap, hclosed⟩
  rw [hexportedText, hvalueText]
  simp [LineMatch.front]

theorem line_progress : line.Progress := by
  intro input rest a h
  have hspec := line_spec h
  refine ⟨a.front ++ (a.gap ++ (a.value.getD [] ++ a.trail)), ?_, ?_⟩
  · simp [LineMatch.front]
  · rw [hspec.text]
    simp

/-! ### The account of a text -/

/-- The number of hashes of a text. -/
def hashes (text : Chars) : Nat := text.count '#'

theorem hashes_le_weigh (text : Chars) : hashes text ≤ weigh text := by
  induction text with
  | nil => exact Nat.le_refl _
  | cons c text ih =>
      unfold hashes at ih ⊢
      rw [List.count_cons, weigh_cons]
      by_cases hc : c = '#'
      · rw [hc, charWeight_hash]
        simp
        omega
      · simp [hc]
        omega

/-- What an assignment costs: its key, its separator, its value and the line break after it. -/
def cost (key value : Chars) : Nat := weigh key + 1 + weigh value + 1

/-- The cost of the matches found. -/
def spent : List (Token LineMatch) → Nat
  | [] => 0
  | .skip _ :: tokens => spent tokens
  | .hit a _ :: tokens => cost a.key (a.value.getD []) + spent tokens

/-- The weight of what no value needs: hashes outside values, and gaps before them. -/
def waste : List (Token LineMatch) → Nat
  | [] => 0
  | .skip c :: tokens => hashes [c] + waste tokens
  | .hit a _ :: tokens => hashes (a.lead ++ a.mid ++ a.trail) + weigh a.gap + waste tokens

theorem charWeight_sep {c : Char} (h : c = '=' ∨ c = ':') : charWeight c = 1 := by
  rcases h with rfl | rfl
  · decide
  · decide

theorem isKeyChar_nat {c : Char} (h : isKeyChar c = true) : 0x2D ≤ c.toNat ∧ c.toNat < 0x7F := by
  simp only [isKeyChar, Bool.or_eq_true, beq_iff_eq] at h
  rcases h with ((h | rfl) | rfl) | rfl
  · delta Char.isAlphanum Char.isAlpha Char.isUpper Char.isLower Char.isDigit at h
    simp only [Bool.or_eq_true, Bool.and_eq_true, decide_eq_true_eq, ge_iff_le,
      UInt32.le_iff_toNat_le] at h
    change ((65 ≤ c.toNat ∧ c.toNat ≤ 90) ∨ (97 ≤ c.toNat ∧ c.toNat ≤ 122)) ∨
      (48 ≤ c.toNat ∧ c.toNat ≤ 57) at h
    omega
  · decide
  · decide
  · decide

theorem isKeyChar_not_lineBreak {c : Char} (h : isKeyChar c = true) : isLineBreak c = false := by
  by_contra hbreak
  rw [Bool.not_eq_false] at hbreak
  simp only [isLineBreak, Bool.or_eq_true, beq_iff_eq] at hbreak
  have hascii := (isKeyChar_nat h).2
  rcases hbreak with (rfl | hnat) | hnat
  · revert h
    decide
  · omega
  · omega

/-- What a match weighs. -/
theorem LineSpec.weigh_eq {a : LineMatch} {input rest : Chars} (h : LineSpec a input rest) :
    weigh input + 1 = weigh a.lead + weigh a.mid + weigh a.trail + weigh a.gap +
      cost a.key (a.value.getD []) + weigh rest := by
  rw [h.text]
  simp only [LineMatch.front, weigh_append, weigh_cons, weigh_nil, charWeight_sep h.sep, cost]
  omega

/-- A match that starts at a line break has the break in its indentation. -/
theorem LineSpec.lead_of_lineBreak {a : LineMatch} {input rest : Chars}
    (h : LineSpec a input rest) (hbreak : lineEnd input.head? = true) :
    hashes a.lead + 1 ≤ weigh a.lead := by
  cases hlead : a.lead with
  | nil =>
      cases hkey : a.key with
      | nil => exact absurd hkey h.keyNonempty
      | cons c key =>
          have hc := isKeyChar_not_lineBreak (h.keyChars c (by rw [hkey]; exact List.mem_cons_self))
          rw [h.text] at hbreak
          simp [LineMatch.front, hlead, hkey, lineEnd, hc] at hbreak
  | cons c lead =>
      have hc : isLineBreak c = true := by
        rw [h.text] at hbreak
        simpa [LineMatch.front, hlead, lineEnd] using hbreak
      have hne : c ≠ '#' := by
        rintro rfl
        revert hc
        decide
      have htail := hashes_le_weigh lead
      unfold hashes at htail ⊢
      rw [List.count_cons_of_ne hne, weigh_cons, charWeight_lineBreak hc]
      omega

/-- **The account of a text.** What is spent and what is wasted is there to be weighed, the line
break after the last line apart; a text that begins with a line break has one to spare. -/
theorem account {tokens : List (Token LineMatch)} {text : Chars} (h : Scanned line tokens text) :
    spent tokens + waste tokens ≤ weigh text + 1 ∧
      (lineEnd text.head? = true → spent tokens + waste tokens ≤ weigh text) := by
  induction h with
  | nil => exact ⟨Nat.zero_le _, fun _ => Nat.le_refl _⟩
  | skip h ih =>
      rename_i c tokens rest
      have hc := hashes_le_weigh [c]
      refine ⟨?_, ?_⟩
      · simp only [spent, waste, weigh_cons, weigh_nil] at hc ⊢
        omega
      · intro hbreak
        have hbreak' : isLineBreak c = true := by simpa [lineEnd] using hbreak
        have hzero : hashes [c] = 0 := by
          have hne : c ≠ '#' := by
            rintro rfl
            revert hbreak'
            decide
          simp [hashes, hne]
        simp only [spent, waste, weigh_cons, charWeight_lineBreak hbreak', hzero]
        omega
  | hit hmatch hne h ih =>
      rename_i a consumed rest tokens
      have hspec := line_spec hmatch
      have hweigh := hspec.weigh_eq
      have hrest := ih.2 hspec.closed
      have hhashes : hashes (a.lead ++ a.mid ++ a.trail) =
          hashes a.lead + hashes a.mid + hashes a.trail := by
        simp [hashes, Nat.add_assoc]
      have hlead := hashes_le_weigh a.lead
      have hmid := hashes_le_weigh a.mid
      have htrail := hashes_le_weigh a.trail
      refine ⟨?_, ?_⟩
      · simp only [spent, waste, hhashes]
        omega
      · intro hbreak
        have hspare := hspec.lead_of_lineBreak hbreak
        simp only [spent, waste, hhashes]
        omega

/-! ### A text that reads back -/

/-- What reading a text costs is spent in it: of several matches of a key the last one stays. -/
theorem sum_foldl_setMatch_le (found : List LineMatch) (values : Dict Chars Chars)
    (hvalues : values.keys.Nodup) :
    (found.foldl setMatch values).keys.Nodup ∧
      ((found.foldl setMatch values).map fun item => cost item.1 item.2).sum ≤
        (values.map fun item => cost item.1 item.2).sum +
          (found.map fun a => cost a.key (a.value.getD [])).sum := by
  induction found generalizing values with
  | nil => exact ⟨hvalues, by simp⟩
  | cons a found ih =>
      rw [List.foldl_cons, List.map_cons, List.sum_cons]
      by_cases hproto : a.key = "__proto__".toList
      · rw [setMatch, if_pos hproto]
        obtain ⟨hnodup, hsum⟩ := ih values hvalues
        exact ⟨hnodup, by omega⟩
      · rw [setMatch, if_neg hproto]
        obtain ⟨hnodup, hsum⟩ :=
          ih _ (Dict.nodup_keys_set hvalues a.key (parseValue (a.value.getD [])))
        have hset := Dict.sum_set_le (fun item => cost item.1 item.2) hvalues a.key
          (parseValue (a.value.getD []))
        have hvalue := weigh_parseValue (a.value.getD [])
        refine ⟨hnodup, ?_⟩
        simp only [cost] at hsum hset ⊢
        omega

theorem spent_eq (tokens : List (Token LineMatch)) :
    spent tokens = ((hits tokens).map fun a => cost a.key (a.value.getD [])).sum := by
  induction tokens with
  | nil => rfl
  | cons token tokens ih =>
      cases token with
      | skip c => exact ih
      | hit a consumed => rw [spent, hits, List.map_cons, List.sum_cons, ih]

theorem nodup_keys_parseDotenv (raw : Chars) : (parseDotenv raw).keys.Nodup :=
  (sum_foldl_setMatch_le _ [] List.nodup_nil).1

theorem sum_parseDotenv_le (raw : Chars) :
    ((parseDotenv raw).map fun item => cost item.1 item.2).sum ≤
      spent (lineTokens (normalizeNewlines raw)) := by
  have h := (sum_foldl_setMatch_le (hits (lineTokens (normalizeNewlines raw))) []
    List.nodup_nil).2
  rw [List.map_nil, List.sum_nil, Nat.zero_add, ← spent_eq] at h
  exact h

/-- One assignment is written in one of the candidates for its value. -/
theorem renderAssignment_eq_ok {key value assignment : Chars}
    (h : renderAssignment key value = .ok assignment) :
    ∃ candidate ∈ candidates value, assignment = key ++ '=' :: candidate := by
  unfold renderAssignment at h
  split at h
  · cases h
  split at h
  · rename_i candidate hfind
    exact ⟨candidate, List.mem_of_find?_eq_some hfind, (Except.ok.inj h).symm⟩
  · cases h

/-- The joined assignments weigh what they cost, the line break after the last one apart. -/
theorem weigh_intercalate {env : Dict Chars Chars} {rendered : List Chars}
    (h : env.mapM (fun item => renderAssignment item.1 item.2) = .ok rendered) :
    (rendered = [] ↔ env = []) ∧ (rendered ≠ [] →
      weigh (List.intercalate ['\n'] rendered) + 1 =
        (env.map fun item => cost item.1 item.2).sum) := by
  induction env generalizing rendered with
  | nil =>
      cases h
      exact ⟨by simp, fun hne => absurd rfl hne⟩
  | cons item env ih =>
      rw [List.mapM_cons] at h
      obtain ⟨assignment, hassignment, h⟩ := bind_eq_ok.mp h
      obtain ⟨others, hothers, h⟩ := bind_eq_ok.mp h
      obtain rfl := Except.ok.inj h
      obtain ⟨candidate, hcandidate, rfl⟩ := renderAssignment_eq_ok hassignment
      obtain ⟨hempty, hsum⟩ := ih hothers
      have hfirst : weigh (item.1 ++ '=' :: candidate) + 1 = cost item.1 item.2 := by
        rw [weigh_append, weigh_cons, charWeight_sep (.inl rfl), weigh_candidate hcandidate, cost]
        omega
      refine ⟨by simp, fun _ => ?_⟩
      rw [List.map_cons, List.sum_cons]
      cases others with
      | nil =>
          rw [hempty.mp rfl, List.intercalate_singleton, hfirst]
          rfl
      | cons other others =>
          have htail := hsum (List.cons_ne_nil _ _)
          rw [List.intercalate_cons_cons, weigh_append, weigh_append, weigh_cons, weigh_nil,
            charWeight_newline]
          omega

theorem serializeDotenv_eq_ok {env : Dict Chars Chars} {text : Chars}
    (h : serializeDotenv env = .ok text) :
    (parseDotenv text).Same env ∧ ∃ rendered, text = List.intercalate ['\n'] rendered ∧
      env.mapM (fun item => renderAssignment item.1 item.2) = .ok rendered := by
  unfold serializeDotenv at h
  simp only [bind_eq_ok, raiseIf_eq_ok, not_not] at h
  obtain ⟨rendered, hrendered, _, hsame, h⟩ := h
  cases h
  exact ⟨hsame, rendered, rfl, hrendered⟩

/-- **A text that was written for a map has nothing to waste.** -/
theorem waste_eq_zero {env : Dict Chars Chars} (henv : env.keys.Nodup) {text : Chars}
    (h : serializeDotenv env = .ok text) : waste (lineTokens (normalizeNewlines text)) = 0 := by
  obtain ⟨hsame, rendered, rfl, hrendered⟩ := serializeDotenv_eq_ok h
  obtain ⟨hempty, hweigh⟩ := weigh_intercalate hrendered
  cases hcase : rendered with
  | nil => rfl
  | cons first others =>
      rw [← hcase]
      have hcost := hweigh (by rw [hcase]; exact List.cons_ne_nil _ _)
      have hperm := hsame.perm (nodup_keys_parseDotenv _) henv
      have hsum := (hperm.map fun item => cost item.1 item.2).sum_nat
      have hparse := sum_parseDotenv_le (List.intercalate ['\n'] rendered)
      have hnormal := weigh_normalizeNewlines (List.intercalate ['\n'] rendered)
      have hscanned : Scanned line
          (scan lineStart line (normalizeNewlines (List.intercalate ['\n'] rendered)))
          (normalizeNewlines (List.intercalate ['\n'] rendered)) :=
        scanned_scan line_progress _
      have haccount := (account hscanned).1
      unfold lineTokens at hparse ⊢
      omega

/-! ### Where the hashes are -/

/-- In a text without waste every `#` is inside the value of a match, and the value begins right
after the separator. -/
theorem hash_in_value {tokens : List (Token LineMatch)} {text : Chars}
    (h : Scanned line tokens text) (hwaste : waste tokens = 0) (offset : Nat) {position : Nat}
    (hhash : text[position]? = some '#') :
    ∃ start stop, (offset + start, offset + stop) ∈ valueSpans offset tokens ∧
      start ≤ position ∧ position < stop ∧
      ∃ before, start = before + 1 ∧ (text[before]? = some '=' ∨ text[before]? = some ':') := by
  induction h generalizing offset position with
  | nil => cases hhash
  | skip h ih =>
      rename_i c tokens rest
      rw [waste, Nat.add_eq_zero_iff] at hwaste
      cases position with
      | zero =>
          obtain rfl : c = '#' := by simpa using hhash
          exact absurd hwaste.1 (by decide)
      | succ position =>
          obtain ⟨start, stop, hmem, hle, hlt, before, rfl, hsep⟩ :=
            ih hwaste.2 (offset + 1) (by simpa using hhash)
          refine ⟨before + 1 + 1, stop + 1, ?_, by omega, by omega, before + 1, rfl, ?_⟩
          · rw [valueSpans]
            convert hmem using 2 <;> omega
          · simpa using hsep
  | hit hmatch hne h ih =>
      rename_i a consumed rest tokens
      have hspec := line_spec hmatch
      rw [waste, Nat.add_eq_zero_iff, Nat.add_eq_zero_iff] at hwaste
      obtain ⟨⟨hclean, hgap⟩, hwaste⟩ := hwaste
      have hgapNil : a.gap = [] := by
        have hlength := length_le_weigh hspec.gap
        exact List.eq_nil_of_length_eq_zero (by omega)
      have hconsumed : consumed = a.front ++ (a.value.getD [] ++ a.trail) := by
        have htext := hspec.text
        rw [hgapNil, List.nil_append] at htext
        have hwhole : consumed ++ rest = a.front ++ (a.value.getD [] ++ a.trail) ++ rest := by
          rw [htext]
          simp
        exact List.append_cancel_right hwhole
      by_cases hposition : position < consumed.length
      · rw [List.getElem?_append_left hposition, hconsumed] at hhash
        have hfront : '#' ∉ a.front := by
          have hkey : '#' ∉ a.key := fun hmem => absurd (hspec.keyChars _ hmem) (by decide)
          have hsep : '#' ≠ a.sep := by
            rcases hspec.sep with heq | heq <;> rw [heq] <;> decide
          simp only [hashes, List.count_append, Nat.add_eq_zero_iff, List.count_eq_zero] at hclean
          simp [LineMatch.front, hclean, hkey, hsep]
        have htrail : '#' ∉ a.trail := by
          simp only [hashes, List.count_append, Nat.add_eq_zero_iff, List.count_eq_zero] at hclean
          exact hclean.2
        have hstart : a.front.length ≤ position := by
          by_contra hlt
          rw [List.getElem?_append_left (by omega)] at hhash
          exact hfront (List.mem_of_getElem? hhash)
        have hstop : position < a.front.length + (a.value.getD []).length := by
          by_contra hge
          rw [List.getElem?_append_right (by omega), List.getElem?_append_right (by omega)] at hhash
          exact htrail (List.mem_of_getElem? hhash)
        have hvalue : a.value = some (a.value.getD []) := by
          cases hvalue : a.value with
          | none =>
              rw [hvalue, Option.getD_none, List.length_nil] at hstop
              omega
          | some value => rfl
        have hbefore : a.front.length = (a.lead ++ a.key ++ a.mid).length + 1 := by
          simp [LineMatch.front, Nat.add_assoc]
        refine ⟨a.front.length, a.front.length + (a.value.getD []).length, ?_, hstart, hstop,
          (a.lead ++ a.key ++ a.mid).length, hbefore, ?_⟩
        · rw [valueSpans, hvalue, hgapNil]
          simp [LineMatch.front, Nat.add_assoc]
        · have hsepAt : (consumed ++ rest)[(a.lead ++ a.key ++ a.mid).length]? = some a.sep := by
            rw [hconsumed, LineMatch.front]
            simp
          rw [hsepAt]
          exact hspec.sep.imp (congrArg some) (congrArg some)
      · rw [List.getElem?_append_right (by omega)] at hhash
        obtain ⟨start, stop, hmem, hle, hlt, before, rfl, hsep⟩ :=
          ih hwaste (offset + consumed.length) hhash
        refine ⟨consumed.length + before + 1, consumed.length + stop, ?_, by omega, by omega,
          consumed.length + before, rfl, ?_⟩
        · rw [valueSpans]
          refine List.mem_append_right _ ?_
          convert hmem using 2 <;> omega
        · rw [List.getElem?_append_right (by omega)]
          simpa using hsep

end Launchplane.Dokploy
