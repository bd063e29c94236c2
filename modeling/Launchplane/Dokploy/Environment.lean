import Launchplane.Dokploy.DotenvWeight
import Launchplane.Dokploy.Json
import Mathlib.Data.List.Dedup
import Mathlib.Data.List.Infix
import Mathlib.Data.List.Sort
import Mathlib.Data.List.Sublists

/-!
# Launchplane.Dokploy.Environment

**Environment texts of Compose targets.** Compose interpolates what the dotenv
grammar hands over, so four characters travel as references to binding variables
that the text itself defines, and a comment line before the assignments says
which keys were written this way. An older generation wrote such values as JSON
strings with octal escapes; keys that a writer leaves alone keep that form and
are named in a second comment line.

A value may contain lines that look like these comments. They are told apart by
position: a comment line that starts inside the value of some match is data.
-/

namespace Launchplane.Dokploy

open Launchplane.Regex Launchplane.Regex.Matcher

/-! ### Comment lines -/

/-- The characters `str.splitlines` splits at. -/
def isPyLineBreak (c : Char) : Bool :=
  let n := c.toNat
  (0x0A ≤ n && n ≤ 0x0D) || (0x1C ≤ n && n ≤ 0x1E) || n == 0x85 || n == 0x2028 || n == 0x2029

/-- `text.splitlines(keepends=True)`. -/
def splitLines : Chars → List Chars
  | [] => []
  | '\r' :: '\n' :: rest => ['\r', '\n'] :: splitLines rest
  | c :: rest =>
    if isPyLineBreak c then [c] :: splitLines rest
    else
      match splitLines rest with
      | [] => [[c]]
      | line :: lines => (c :: line) :: lines

/-- `text.split()`. -/
def splitWords (text : Chars) : List Chars := (text.splitOnP isPySpace).filter (· ≠ [])

/-- `_COMPOSE_HEADER`. -/
def composeHeader : Chars := "# launchplane:compose-dotenv-v1".toList

/-- `_COMPOSE_LITERAL_HEADER`. -/
def composeLiteralHeader : Chars := "# launchplane:compose-dotenv-v2".toList

/-- The comment is the header, alone or with words after it. -/
def isHeaderComment (header comment : Chars) : Bool :=
  comment == header || (header ++ [' ']).isPrefixOf comment

/-- The loop of `_compose_encoded_keys` over the lines of a text. -/
def encodedKeysOfLines (header : Chars) (spans : List (Nat × Nat)) :
    Nat → Option (List Chars) → List Chars → Option (List Chars)
  | _, keys, [] => keys
  | offset, keys, line :: lines =>
    let comment := stripChars line
    let keys :=
      -- A lookalike comment inside a multiline value is data, not metadata.
      if isHeaderComment header comment &&
          !spans.any fun span => span.1 ≤ offset && offset < span.2 then
        some ((keys.getD [] ++ splitWords (comment.drop header.length)).dedup)
      else keys
    encodedKeysOfLines header spans (offset + line.length) keys lines

/-- `_compose_encoded_keys`: the words of the header comments, each once. -/
def composeEncodedKeys (raw header : Chars) : Option (List Chars) :=
  encodedKeysOfLines header (valueSpans 0 (lineTokens (normalizeNewlines raw))) 0 none
    (splitLines (normalizeNewlines raw))

/-- The order in which a set of strings is iterated: any order, and not the same in each process. -/
structure SetOrder where
  order : List Chars → List Chars
  perm : ∀ keys, (order keys).Perm keys

/-! ### The first generation -/

/-- `_COMPOSE_PLAIN.fullmatch(value)`. -/
def isComposePlain (value : Chars) : Bool :=
  value.all fun c => c.isAlphanum || "_./:@%+=,-".toList.contains c

/-- `_COMPOSE_ESCAPES`: a doubled backslash, or the code of an octal escape. -/
def composeEscape : Matcher (Option Nat) :=
  or
    (do
      let _ ← literal ['\\', '\\']
      return none)
    (do
      let isOctal := fun c : Char => '0' ≤ c && c ≤ '7'
      let _ ← literal ['\\', '0']
      let a ← satisfy isOctal
      let b ← satisfy isOctal
      let c ← satisfy isOctal
      return some ((a.toNat - 48) * 64 + (b.toNat - 48) * 8 + (c.toNat - 48)))

/-- The JSON text of a value of the first generation. -/
def composeJson (wireValue : Chars) : Chars :=
  (scan (fun _ => true) composeEscape wireValue).flatMap fun
    | .skip c => [c]
    | .hit none consumed => consumed
    | .hit (some code) _ => jsonAsciiChar (Char.ofNat code)

/-- One character of `_legacy_compose_literal`. -/
def legacyComposeChar (c : Char) : Chars :=
  if c = '\'' then ['\\', '0', '0', '4', '7']
  else if c = '$' then ['\\', '0', '0', '4', '4', '\\', '0', '0', '4', '4']
  else if c.toNat < 32 ∧ c ∉ ['\n', '\r', '\t', Char.ofNat 8, Char.ofNat 12] then
    '\\' :: '0' :: [c.toNat / 64, c.toNat / 8 % 8, c.toNat % 8].map hexDigit
  else jsonChar c

/-- `_legacy_compose_literal`, which refuses NUL. -/
def legacyComposeLiteral (value : Chars) : Option Chars :=
  if Char.ofNat 0 ∈ value then none
  else if isComposePlain value then some value
  else some ('"' :: value.flatMap legacyComposeChar ++ ['"'])

/-- The value of a key that a header names, in `_legacy_provider_environment`. -/
def legacyLiteral (wireValue : Chars) : Option Chars :=
  if isComposePlain wireValue then some wireValue
  else do
    let json ← jsonLoadsString (composeJson wireValue)
    let literal := replacePair '$' '$' '$' json
    if legacyComposeLiteral literal = some wireValue then some literal else none

/-- One turn of the loops that replace the values of some keys where a decoder accepts them. -/
def decodeKey (decode : Chars → Option Chars) (state : Dict Chars Chars × List Chars)
    (key : Chars) : Dict Chars Chars × List Chars :=
  match (state.1.get key).bind decode with
  | some literal => (state.1.set key literal, state.2 ++ [key])
  | none => state

/-- The loops that replace the values of some keys where a decoder accepts them. -/
def decodeKeys (decode : Chars → Option Chars) (keys : List Chars) (values : Dict Chars Chars) :
    Dict Chars Chars × List Chars :=
  keys.foldl (decodeKey decode) (values, [])

/-- `_legacy_provider_environment`. -/
def legacyProviderEnvironment (O : SetOrder) (raw : Chars) : Dict Chars Chars × List Chars :=
  let values := parseDotenv raw
  let encodedKeys := (composeEncodedKeys raw composeHeader).getD []
  decodeKeys legacyLiteral (O.order (encodedKeys.filter (· ∈ values.keys))) values

/-! ### The second generation -/

/-- `_COMPOSE_CHARACTERS`. -/
def composeCharacters : Dict Chars Char :=
  [("DOLLAR".toList, '$'), ("QUOTE".toList, '\''), ("SLASH".toList, '\\'), ("RETURN".toList, '\r')]

/-- `"${" + name + "}"`. -/
def composeReference (name : Chars) : Chars := '$' :: '{' :: name ++ ['}']

/-- `_compose_value`: a character without a name is a `KeyError`. -/
def composeValue (names : Dict Char Chars) : Chars → Option Chars
  | [] => some []
  | c :: value =>
    if c ∈ composeCharacters.map Prod.snd then do
      let name ← names.get c
      let rest ← composeValue names value
      return composeReference name ++ rest
    else do
      let rest ← composeValue names value
      return c :: rest

/-- `\$\{([^{}]+)}`. -/
def reference : Matcher Chars := do
  let _ ← literal ['$', '{']
  let name ← some1 fun c => c != '{' && c != '}'
  let _ ← satisfy (· == '}')
  return name

/-- `re.sub` with `restore_character`. -/
def restoreCharacters (bindings : Dict Chars Char) (value : Chars) : Chars :=
  (scan (fun _ => true) reference value).flatMap fun
    | .skip c => [c]
    | .hit name consumed => ((bindings.get name).map fun c => [c]).getD consumed

/-- `role + "=" + name`. -/
def bindingToken (role name : Chars) : Chars := role ++ '=' :: name

/-- One turn of the loop over the metadata. -/
def readToken (values : Dict Chars Chars) (bindings : Dict Chars Char) (token : Chars) :
    Option (Dict Chars Char) :=
  if '=' ∈ token then
    -- token.split("=", 1)
    let role := token.takeWhile (· ≠ '=')
    let name := (token.dropWhile (· ≠ '=')).tail
    match composeCharacters.get role with
    | some c => if values.get name = some [c] then some (bindings.set name c) else none
    | none => none
  else some bindings

/-- The loop over the metadata: a binding that the text does not hold makes all of it void. -/
def readBindings (values : Dict Chars Chars) (metadata : List Chars) : Option (Dict Chars Char) :=
  metadata.foldlM (readToken values) []

/-- `{character: name for name, character in bindings.items()}`. -/
def bindingNames (bindings : Dict Chars Char) : Dict Char Chars :=
  bindings.foldl (fun names item => names.set item.2 item.1) []

/-- The value of a key that the header names, in `_literal_provider_environment`. -/
def composeLiteral (bindings : Dict Chars Char) (wireValue : Chars) : Option Chars :=
  let literal := restoreCharacters bindings wireValue
  if composeValue (bindingNames bindings) literal = some wireValue then some literal else none

/-- Whether a value that is no literal still mentions a name. -/
def isMentioned (bindings decodedKeys : List Chars) (values : Dict Chars Chars) (name : Chars) :
    Bool :=
  values.any fun item =>
    decide (('$' :: '{' :: name) <:+: item.2) && !(decide (item.1 ∈ decodedKeys)) &&
      !(decide (item.1 ∈ bindings))

/-- `_literal_provider_environment`. -/
def literalProviderEnvironment (O : SetOrder) (raw : Chars) (values : Dict Chars Chars) :
    Dict Chars Chars × List Chars :=
  match composeEncodedKeys raw composeLiteralHeader with
  | none => (values, [])
  | some metadata =>
    match readBindings values (O.order metadata) with
    | none => (values, [])
    | some bindings =>
      let keys := metadata.filter fun key => key ∈ values.keys ∧ key ∉ bindings.keys
      let (values, decodedKeys) := decodeKeys (composeLiteral bindings) (O.order keys) values
      let values := bindings.keys.foldl (fun values name =>
        if isMentioned bindings.keys decodedKeys values name then values
        else values.erase name) values
      (values, decodedKeys)

/-- `_provider_environment`. -/
def providerEnvironment (O : SetOrder) (raw : Chars) : Dict Chars Chars × List Chars :=
  literalProviderEnvironment O raw (legacyProviderEnvironment O raw).1

/-- `parse_dokploy_env_text`. -/
def parseDokployEnvText (O : SetOrder) (raw : Chars) : Dict Chars Chars :=
  (providerEnvironment O raw).1

/-- `compose_literal_keys`. -/
def composeLiteralKeys (O : SetOrder) (raw : Chars) : List Chars := (providerEnvironment O raw).2

/-! ### Writing -/

/-- The names tried for a role, in order. -/
def bindingName (role : Chars) (suffix : Nat) : Chars :=
  let base := "LAUNCHPLANE_DOTENV_".toList ++ role
  if suffix = 0 then base else base ++ '_' :: (toString suffix).toList

/-- The environment has a name, or one of its values seems to mention it. -/
def IsTaken (env : Dict Chars Chars) (name : Chars) : Prop :=
  name ∈ env.keys ∨ ∃ value ∈ env.map Prod.snd, ('$' :: '{' :: name) <:+: value

instance (env : Dict Chars Chars) (name : Chars) : Decidable (IsTaken env name) :=
  inferInstanceAs (Decidable (_ ∨ _))

theorem bindingName_injective (role : Chars) : Function.Injective (bindingName role) := by
  intro m n h
  unfold bindingName at h
  by_cases hm : m = 0
  · by_cases hn : n = 0
    · rw [hm, hn]
    · simp [hm, hn] at h
  · by_cases hn : n = 0
    · simp [hm, hn] at h
    · simp only [hm, hn, if_false, List.append_cancel_left_eq, List.cons.injEq, true_and] at h
      rw [show toString m = Nat.repr m from rfl, show toString n = Nat.repr n from rfl,
        Nat.toList_repr, Nat.toList_repr] at h
      have hdigits := congrArg (Nat.ofDigitChars 10 · 0) h
      simpa only [Nat.ofDigitChars_ten_toDigits] using hdigits

/-- The loop that looks for a name, with at most so many turns. -/
def firstFree (env : Dict Chars Chars) (role : Chars) : Nat → Nat → Nat
  | 0, suffix => suffix
  | turns + 1, suffix =>
    if IsTaken env (bindingName role suffix) then firstFree env role turns (suffix + 1) else suffix

/-- More turns than there can be names taken. -/
def maxTaken (env : Dict Chars Chars) : Nat :=
  env.length + (env.map fun item => 2 ^ item.2.length).sum

/-- The name a role gets: the first that is free. -/
def freshName (env : Dict Chars Chars) (role : Chars) : Chars :=
  bindingName role (firstFree env role (maxTaken env) 0)

theorem firstFree_spec (env : Dict Chars Chars) (role : Chars) (turns suffix : Nat) :
    ¬ IsTaken env (bindingName role (firstFree env role turns suffix)) ∨
      ∀ n ≤ turns, IsTaken env (bindingName role (suffix + n)) := by
  induction turns generalizing suffix with
  | zero =>
      by_cases h : IsTaken env (bindingName role suffix)
      · refine .inr fun n hn => ?_
        rw [Nat.le_zero.mp hn]
        exact h
      · exact .inl h
  | succ turns ih =>
      rw [firstFree]
      split
      · rename_i h
        refine (ih (suffix + 1)).imp_right fun hall n hn => ?_
        cases n with
        | zero => exact h
        | succ n =>
            rw [Nat.add_comm n 1, ← Nat.add_assoc]
            exact hall n (by omega)
      · rename_i h
        exact .inl h

/-- **The loop that looks for a name ends**: the values mention finitely many. -/
theorem freshName_not_isTaken (env : Dict Chars Chars) (role : Chars) :
    ¬ IsTaken env (freshName env role) := by
  rcases firstFree_spec env role (maxTaken env) 0 with hfree | hall
  · exact hfree
  exfalso
  have hsubset : (List.range (maxTaken env + 1)).map (bindingName role) ⊆
      env.keys ++ (env.map Prod.snd).flatMap List.sublists := by
    intro name hname
    obtain ⟨suffix, hsuffix, rfl⟩ := List.mem_map.mp hname
    have htaken := hall suffix (by rw [List.mem_range] at hsuffix; omega)
    rw [Nat.zero_add] at htaken
    refine List.mem_append.mpr (htaken.imp_right fun hmention => ?_)
    obtain ⟨value, hvalue, hinfix⟩ := hmention
    refine List.mem_flatMap.mpr ⟨value, hvalue, List.mem_sublists.mpr ?_⟩
    exact ((List.sublist_cons_self _ _).trans (List.sublist_cons_self _ _)).trans hinfix.sublist
  have hnodup : ((List.range (maxTaken env + 1)).map (bindingName role)).Nodup :=
    List.nodup_range.map (bindingName_injective role)
  have hlength := (List.subperm_of_subset hnodup hsubset).length_le
  have hcount : (env.keys ++ (env.map Prod.snd).flatMap List.sublists).length = maxTaken env := by
    rw [List.length_append, List.length_flatMap, List.map_map, Dict.keys, List.length_map, maxTaken]
    simp [Function.comp_def]
  rw [hcount, List.length_map, List.length_range] at hlength
  omega

/-- The keys that keep their wire value: they hold this value already, and not as literals. -/
def isUntouched (previous : Dict Chars Chars) (encodedKeys requestedKeys : List Chars)
    (current : Option Chars) (key value : Chars) : Bool :=
  current.isSome && !(encodedKeys ++ requestedKeys).contains key &&
    decide (previous.get key = some value)

/-- The roles whose characters occur in the literals. -/
def usedCharacters (literals : List Chars) : Dict Chars Char :=
  composeCharacters.filter fun item => literals.any (·.contains item.2)

/-- `names`. -/
def chooseNames (env : Dict Chars Chars) (literals : List Chars) : Dict Char Chars :=
  (usedCharacters literals).map fun item => (item.2, freshName env item.1)

/-- The metadata of the names. -/
def nameTokens (env : Dict Chars Chars) (literals : List Chars) : List Chars :=
  (usedCharacters literals).map fun item => bindingToken item.1 (freshName env item.1)

/-- A header comment: the header, and the words in order. -/
def headerLine (header : Chars) (words : List Chars) : Chars :=
  header ++ ' ' :: List.intercalate [' '] (words.insertionSort (· ≤ ·))

/-- `serialize_dokploy_env_text`. -/
def serializeDokployEnvText (O : SetOrder) (envMap : Dict Chars Chars)
    (targetType composeType : String) (currentEnvText : Option Chars) (literalKeys : List Chars) :
    Except String Chars := do
  raiseIf (∃ key ∈ literalKeys, key ∉ envMap.keys)
    "Literal qualification requires managed key names."
  if targetType ≠ "compose" ∨ composeType = "stack" then
    raiseIf (literalKeys ≠ []) "Literal qualification requires a Compose target."
    serializeDotenv envMap
  else
    let (legacy, legacyKeys) := legacyProviderEnvironment O (currentEnvText.getD [])
    let (previous, encodedKeys) := literalProviderEnvironment O (currentEnvText.getD []) legacy
    let previousWire := parseDotenv (currentEnvText.getD [])
    -- A routine image/startup write must not reinterpret an untouched
    -- legacy password/reference against an already-initialized database.
    let untouched := isUntouched previous encodedKeys literalKeys currentEnvText
    let literals : Dict Chars Chars := envMap.filter fun item => !untouched item.1 item.2
    let preservedLegacyKeys := envMap.keys.filter fun key =>
      legacyKeys.contains key && !literals.keys.contains key
    let names := chooseNames envMap (literals.map Prod.snd)
    let metadata := (literals.keys ++ nameTokens envMap (literals.map Prod.snd)).dedup
    let escaped ← envMap.mapValues fun key value =>
      if untouched key value then
        match previousWire.get key with
        | some wireValue => .ok wireValue
        | none => .error "KeyError"
      else
        match composeValue names value with
        | some wireValue => .ok wireValue
        | none => .error "KeyError"
    let rendered ← serializeDotenv
      (Dict.update (names.map fun item => (item.2, [item.1])) escaped)
    let headers := headerLine composeLiteralHeader metadata ::
      (if preservedLegacyKeys = [] then [] else [headerLine composeHeader preservedLegacyKeys])
    return List.intercalate ['\n'] (headers ++ [rendered])

end Launchplane.Dokploy
