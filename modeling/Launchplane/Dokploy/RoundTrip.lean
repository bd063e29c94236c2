import Launchplane.Dokploy.Literals

/-!
# Launchplane.Dokploy.RoundTrip

**Written environment texts read back.** What `serializeDokployEnvText` returns
is a written dotenv text under one or two header lines (`Written`). Reading it
undoes each step of writing: the header lines give back the words they were
written with, keys of the first generation decode as they did in the text they
were taken from, and literals lose their references together with the bindings,
which no other value mentions.
-/

namespace Launchplane.Dokploy

open Launchplane.Regex Launchplane.Regex.Matcher

/-! ### Names -/

theorem isKeyChar_of_mem_composeCharacters {item : Chars × Char} (h : item ∈ composeCharacters) :
    ∀ c ∈ item.1, isKeyChar c = true := by
  have hall : (composeCharacters.all fun item => item.1.all isKeyChar) = true := by decide
  exact List.all_eq_true.mp (List.all_eq_true.mp hall item h)

theorem isName_bindingName {role : Chars} (hrole : ∀ c ∈ role, isKeyChar c = true) (suffix : Nat) :
    IsName (bindingName role suffix) := by
  have hbase : ∀ c ∈ "LAUNCHPLANE_DOTENV_".toList ++ role, isKeyChar c = true := by
    intro c hc
    have hprefix : ∀ d ∈ "LAUNCHPLANE_DOTENV_".toList, isKeyChar d = true :=
      List.all_eq_true.mp (by decide)
    rcases List.mem_append.mp hc with hc | hc
    · exact hprefix c hc
    · exact hrole c hc
  unfold bindingName
  dsimp only
  split
  · exact ⟨by simp, hbase⟩
  · refine ⟨by simp, ?_⟩
    intro c hc
    rcases List.mem_append.mp hc with hc | hc
    · exact hbase c hc
    rcases List.mem_cons.mp hc with rfl | hc
    · decide
    · have hdigit : c.isDigit = true := by
        rw [show toString suffix = Nat.repr suffix from rfl, Nat.toList_repr] at hc
        exact Nat.isDigit_of_mem_toDigits (by decide) (by decide) hc
      simp [isKeyChar, Char.isAlphanum, hdigit]

/-- The roles are told apart by their first letters, and so are the names. -/
theorem bindingName_role {role role' : Chars} {c c' : Char} (h : (role, c) ∈ composeCharacters)
    (h' : (role', c') ∈ composeCharacters) {suffix suffix' : Nat}
    (heq : bindingName role suffix = bindingName role' suffix') : c = c' := by
  have hletter : ∀ r s, r ≠ [] → (bindingName r s)[19]? = r.head? := by
    intro r s hr
    cases r with
    | nil => exact absurd rfl hr
    | cons d r =>
        unfold bindingName
        dsimp only
        split
        · rfl
        · rfl
  have hroles : ∀ item ∈ composeCharacters, item.1 ≠ [] := by decide
  have hfirst : role.head? = role'.head? := by
    rw [← hletter role suffix (hroles _ h), heq, hletter role' suffix' (hroles _ h')]
  have hdistinct : ∀ item ∈ composeCharacters, ∀ item' ∈ composeCharacters,
      item.1.head? = item'.1.head? → item.2 = item'.2 := by decide
  exact hdistinct _ h _ h' hfirst

variable {env : Dict Chars Chars} {literals : List Chars}

theorem usedCharacters_sublist (literals : List Chars) :
    (usedCharacters literals).Sublist composeCharacters := List.filter_sublist

theorem nodup_keys_chooseNames (env : Dict Chars Chars) (literals : List Chars) :
    (chooseNames env literals).keys.Nodup := by
  have hkeys : (chooseNames env literals).keys = (usedCharacters literals).map Prod.snd := by
    rw [Dict.keys, chooseNames, List.map_map]
    rfl
  rw [hkeys]
  exact ((usedCharacters_sublist literals).map Prod.snd).nodup (by decide)

theorem get_chooseNames {c : Char} {name : Chars} :
    (chooseNames env literals).get c = some name ↔
      ∃ role, (role, c) ∈ usedCharacters literals ∧ name = freshName env role := by
  rw [← Dict.mem_iff_get (nodup_keys_chooseNames env literals), chooseNames, List.mem_map]
  constructor
  · intro h
    obtain ⟨item, hitem, heq⟩ := h
    obtain ⟨rfl, rfl⟩ := Prod.mk.inj heq
    exact ⟨item.1, hitem, rfl⟩
  · intro h
    obtain ⟨role, hrole, rfl⟩ := h
    exact ⟨(role, c), hrole, rfl⟩

theorem chooseNames_injective {c c' : Char} {name : Chars}
    (h : (chooseNames env literals).get c = some name)
    (h' : (chooseNames env literals).get c' = some name) : c = c' := by
  obtain ⟨role, hrole, rfl⟩ := get_chooseNames.mp h
  obtain ⟨role', hrole', heq⟩ := get_chooseNames.mp h'
  exact bindingName_role ((usedCharacters_sublist literals).subset hrole)
    ((usedCharacters_sublist literals).subset hrole') heq

theorem isName_of_get {c : Char} {name : Chars}
    (h : (chooseNames env literals).get c = some name) :
    IsName name ∧ ¬ IsTaken env name := by
  obtain ⟨role, hrole, rfl⟩ := get_chooseNames.mp h
  have hchars := isKeyChar_of_mem_composeCharacters ((usedCharacters_sublist literals).subset hrole)
  exact ⟨isName_bindingName hchars _,
    freshName_not_isTaken env role⟩

/-- The assignments of the bindings. -/
def bindingValues (names : Dict Char Chars) : Dict Chars Chars :=
  names.map fun item => (item.2, [item.1])

theorem nodup_keys_bindingValues : (bindingValues (chooseNames env literals)).keys.Nodup := by
  rw [Dict.keys, bindingValues, List.map_map]
  refine List.Nodup.map_on ?_ (List.Nodup.of_map _ (nodup_keys_chooseNames env literals))
  intro item hitem item' hitem' heq
  have hget := Dict.get_of_mem (nodup_keys_chooseNames env literals) hitem
  have hget' := Dict.get_of_mem (nodup_keys_chooseNames env literals) hitem'
  have hname : item.2 = item'.2 := heq
  exact Prod.ext (chooseNames_injective hget (hname ▸ hget')) hname

theorem get_bindingValues {name value : Chars} :
    (bindingValues (chooseNames env literals)).get name = some value ↔
      ∃ c, (chooseNames env literals).get c = some name ∧ value = [c] := by
  rw [← Dict.mem_iff_get nodup_keys_bindingValues, bindingValues, List.mem_map]
  constructor
  · intro h
    obtain ⟨item, hitem, heq⟩ := h
    obtain ⟨rfl, rfl⟩ := Prod.mk.inj heq
    exact ⟨item.1, Dict.get_of_mem (nodup_keys_chooseNames env literals) hitem, rfl⟩
  · intro h
    obtain ⟨c, hc, rfl⟩ := h
    exact ⟨(c, name), Dict.mem_of_get hc, rfl⟩

/-! ### Keys of a read text -/

/-- The keys a text was read to hold are made of key characters. -/
theorem isName_of_mem_keys {raw key : Chars} (h : key ∈ (parseDotenv raw).keys) : IsName key := by
  have hscan : Scanned line (lineTokens (normalizeNewlines raw)) (normalizeNewlines raw) :=
    scanned_scan (m := line) line_progress _
  have hhits : ∀ a ∈ hits (lineTokens (normalizeNewlines raw)), IsName a.key := by
    generalize lineTokens (normalizeNewlines raw) = tokens at hscan
    generalize normalizeNewlines raw = text at hscan
    induction hscan with
    | nil => exact fun a ha => by cases ha
    | skip _ ih => exact ih
    | hit hmatch _ _ ih =>
        intro a ha
        rcases List.mem_cons.mp ha with rfl | ha
        · exact ⟨(line_spec hmatch).keyNonempty, (line_spec hmatch).keyChars⟩
        · exact ih a ha
  have hfold : ∀ (found : List LineMatch) (values : Dict Chars Chars),
      (∀ a ∈ found, IsName a.key) → (∀ k ∈ values.keys, IsName k) →
        ∀ k ∈ (found.foldl setMatch values).keys, IsName k := by
    intro found
    induction found with
    | nil => exact fun _ _ hvalues => hvalues
    | cons a found ih =>
        intro values hfound hvalues
        rw [List.foldl_cons]
        refine ih _ (fun b hb => hfound b (List.mem_cons_of_mem _ hb)) ?_
        intro k hk
        rw [setMatch] at hk
        split at hk
        · exact hvalues k hk
        · rcases Dict.mem_keys_set.mp hk with hk | rfl
          · exact hvalues k hk
          · exact hfound a List.mem_cons_self
  exact hfold _ [] hhits (fun k hk => by cases hk) key h

/-! ### Dropping the bindings -/

theorem mem_erase {values : Dict Chars Chars} {name : Chars} {item : Chars × Chars}
    (h : item ∈ values.erase name) : item ∈ values := List.mem_of_mem_filter h

/-- Erasing never gives a key a value. -/
theorem get_dropBindings_imp {bindings decodedKeys names : List Chars} {values : Dict Chars Chars}
    {k v : Chars}
    (h : (names.foldl (fun values name =>
      if isMentioned bindings decodedKeys values name then values else values.erase name)
        values).get k = some v) : values.get k = some v := by
  induction names generalizing values with
  | nil => exact h
  | cons name names ih =>
      have hrest := ih h
      dsimp only at hrest
      split at hrest
      · exact hrest
      · rw [Dict.get_erase] at hrest
        split at hrest
        · cases hrest
        · exact hrest

/-- Bindings that no other value mentions are dropped. -/
theorem get_dropBindings {bindings decodedKeys names : List Chars} {values : Dict Chars Chars}
    (h : ∀ name ∈ names, ∀ item ∈ values, item.1 ∉ decodedKeys → item.1 ∉ bindings →
      ¬ ('$' :: '{' :: name) <:+: item.2) (k : Chars) :
    (names.foldl (fun values name =>
      if isMentioned bindings decodedKeys values name then values else values.erase name)
        values).get k = if k ∈ names then none else values.get k := by
  induction names generalizing values with
  | nil => simp
  | cons name names ih =>
      have hfree : isMentioned bindings decodedKeys values name = false := by
        refine List.any_eq_false.mpr fun item hitem => ?_
        have hfree := h name List.mem_cons_self item hitem
        simp only [Bool.and_eq_true, Bool.not_eq_true', decide_eq_true_eq, decide_eq_false_iff_not]
        intro hmentioned
        exact hfree hmentioned.1.2 hmentioned.2 hmentioned.1.1
      rw [List.foldl_cons, hfree, if_neg Bool.false_ne_true,
        ih fun other hother item hitem => h other (List.mem_cons_of_mem _ hother) item
          (mem_erase hitem), Dict.get_erase]
      by_cases hk : k = name
      · simp [hk]
      · simp [hk]

/-! ### What a writer leaves alone -/

theorem nodup_composeEncodedKeys {raw header : Chars} {keys : List Chars}
    (h : composeEncodedKeys raw header = some keys) : keys.Nodup := by
  unfold composeEncodedKeys at h
  generalize valueSpans 0 (lineTokens (normalizeNewlines raw)) = spans at h
  generalize splitLines (normalizeNewlines raw) = lines at h
  have hgeneral : ∀ (lines : List Chars) (offset : Nat) (start : Option (List Chars)),
      (∀ keys ∈ start, keys.Nodup) →
        ∀ keys ∈ encodedKeysOfLines header spans offset start lines, keys.Nodup := by
    intro lines
    induction lines with
    | nil => exact fun _ _ hstart => hstart
    | cons line lines ih =>
        intro offset start hstart
        rw [encodedKeysOfLines]
        refine ih _ _ ?_
        split
        · intro keys hkeys
          obtain rfl := Option.some.inj hkeys
          exact List.nodup_dedup _
        · exact hstart
  exact hgeneral lines 0 none (fun keys hkeys => by cases hkeys) keys h

/-- A value that was not decoded is the one the first generation gave. -/
theorem get_literalProviderEnvironment {O : SetOrder} {raw : Chars} {values : Dict Chars Chars}
    {k v : Chars} (hget : (literalProviderEnvironment O raw values).1.get k = some v)
    (hdecoded : k ∉ (literalProviderEnvironment O raw values).2) : values.get k = some v := by
  unfold literalProviderEnvironment at hget hdecoded
  cases hmetadata : composeEncodedKeys raw composeLiteralHeader with
  | none =>
      rw [hmetadata] at hget
      exact hget
  | some metadata =>
      rw [hmetadata] at hget hdecoded
      dsimp only at hget hdecoded
      cases hbindings : readBindings values (O.order metadata) with
      | none =>
          rw [hbindings] at hget
          exact hget
      | some bindings =>
          rw [hbindings] at hget hdecoded
          dsimp only at hget hdecoded
          have hnodup : (O.order (metadata.filter fun key =>
              key ∈ values.keys ∧ key ∉ bindings.keys)).Nodup :=
            (O.perm _).nodup_iff.mpr ((nodup_composeEncodedKeys hmetadata).filter _)
          obtain ⟨-, hspec, hmem⟩ := foldl_decodeKey (composeLiteral bindings) hnodup (values, [])
          have hbefore := get_dropBindings_imp hget
          unfold decodeKeys at hbefore hdecoded
          rw [hspec] at hbefore
          rw [hmem] at hdecoded
          split at hbefore
          · rename_i hk
            have hnone : (values.get k).bind (composeLiteral bindings) = none := by
              rw [← Option.not_isSome_iff_eq_none]
              exact fun hsome => hdecoded (.inr ⟨hk, hsome⟩)
            rw [hnone, Option.none_or] at hbefore
            exact hbefore
          · exact hbefore

/-- What the first generation gave is the decoded wire value, or the wire value itself. -/
theorem get_legacyProviderEnvironment {O : SetOrder} {raw k v : Chars}
    (hget : (legacyProviderEnvironment O raw).1.get k = some v) :
    ∃ wire, (parseDotenv raw).get k = some wire ∧
      (k ∈ (legacyProviderEnvironment O raw).2 → legacyLiteral wire = some v) ∧
      (k ∉ (legacyProviderEnvironment O raw).2 → wire = v) := by
  have hencoded : ((composeEncodedKeys raw composeHeader).getD []).Nodup := by
    cases hkeys : composeEncodedKeys raw composeHeader with
    | none => exact List.nodup_nil
    | some keys => exact nodup_composeEncodedKeys hkeys
  have hnodup : (O.order (((composeEncodedKeys raw composeHeader).getD []).filter
      (· ∈ (parseDotenv raw).keys))).Nodup := (O.perm _).nodup_iff.mpr (hencoded.filter _)
  obtain ⟨-, hspec, hmem⟩ := foldl_decodeKey legacyLiteral hnodup (parseDotenv raw, [])
  unfold legacyProviderEnvironment decodeKeys at hget ⊢
  dsimp only at hget ⊢
  rw [hspec] at hget
  rw [hmem]
  cases hwire : (parseDotenv raw).get k with
  | none =>
      rw [hwire] at hget
      simp at hget
  | some wire =>
      rw [hwire] at hget
      refine ⟨wire, rfl, ?_⟩
      cases hdecode : legacyLiteral wire with
      | none =>
          simp only [hdecode, Option.bind_some, Option.none_or, ite_self, Option.some.injEq] at hget
          subst hget
          simp [hdecode]
      | some literal =>
          simp only [hdecode, Option.bind_some, Option.some_or] at hget
          split at hget
          · rename_i hk
            simp [hdecode, hk, Option.some.inj hget]
          · rename_i hk
            simp [hk, Option.some.inj hget]

/-! ### Written texts -/

/-- A text the writer returned: which keys it wrote as literals and which it left in the form of the
first generation, the metadata, the wire values and the assignments. -/
structure Written (env : Dict Chars Chars) (literals literalKeys legacyKeys metadata : List Chars)
    (escaped : Dict Chars Chars) (rendered text : Chars) : Prop where
  keys : escaped.keys = env.keys
  literal : ∀ k ∈ literalKeys, ∀ v, env.get k = some v →
    ∃ w, composeValue (chooseNames env literals) v = some w ∧ escaped.get k = some w
  legacy : ∀ k ∈ legacyKeys, ∀ v, env.get k = some v →
    ∃ w, legacyLiteral w = some v ∧ escaped.get k = some w
  plain : ∀ k, k ∉ literalKeys → k ∉ legacyKeys → ∀ v, env.get k = some v →
    escaped.get k = some v
  literalKeys_managed : ∀ k ∈ literalKeys, k ∈ env.keys
  legacyKeys_managed : ∀ k ∈ legacyKeys, k ∈ env.keys ∧ k ∉ literalKeys
  metadata_iff : ∀ word, word ∈ metadata ↔ word ∈ literalKeys ∨ word ∈ nameTokens env literals
  serialized :
    serializeDotenv (Dict.update (bindingValues (chooseNames env literals)) escaped) = .ok rendered
  text_eq : text = headerLine composeLiteralHeader metadata ++ '\n' ::
    (if legacyKeys = [] then rendered else headerLine composeHeader legacyKeys ++ '\n' :: rendered)

namespace Written

variable {literalKeys legacyKeys metadata : List Chars} {escaped : Dict Chars Chars}
  {rendered text : Chars}

theorem get_wire (h : Written env literals literalKeys legacyKeys metadata escaped rendered text)
    (henv : env.keys.Nodup) (k : Chars) :
    (parseDotenv rendered).get k = if k ∈ env.keys then escaped.get k
      else (bindingValues (chooseNames env literals)).get k := by
  rw [(serializeDotenv_eq_ok h.serialized).1 k, Dict.get_update (by rw [h.keys]; exact henv)]
  simp only [h.keys]

/-- A managed key is a key of the assignments, and so made of key characters. -/
theorem mem_keys (h : Written env literals literalKeys legacyKeys metadata escaped rendered text)
    {k : Chars} (hk : k ∈ env.keys) : k ∈ (parseDotenv rendered).keys := by
  rw [Dict.mem_keys_iff_of_same (serializeDotenv_eq_ok h.serialized).1, Dict.mem_keys_update, h.keys]
  exact .inr hk

theorem areWords_legacyKeys
    (h : Written env literals literalKeys legacyKeys metadata escaped rendered text) :
    AreWords legacyKeys := by
  intro word hword
  have hname := isName_of_mem_keys (h.mem_keys (h.legacyKeys_managed word hword).1)
  exact ⟨hname.1, fun c hc => by rw [isWordChar, hname.2 c hc, Bool.true_or]⟩

theorem areWords_metadata
    (h : Written env literals literalKeys legacyKeys metadata escaped rendered text) :
    AreWords metadata := by
  intro word hword
  rcases (h.metadata_iff word).mp hword with hkey | htoken
  · have hname := isName_of_mem_keys (h.mem_keys (h.literalKeys_managed word hkey))
    exact ⟨hname.1, fun c hc => by rw [isWordChar, hname.2 c hc, Bool.true_or]⟩
  · obtain ⟨item, hitem, rfl⟩ := List.mem_map.mp htoken
    have hrole := isKeyChar_of_mem_composeCharacters ((usedCharacters_sublist literals).subset hitem)
    have hname := isName_bindingName hrole (firstFree env item.1 (maxTaken env) 0)
    refine ⟨by simp [bindingToken], ?_⟩
    intro c hc
    rcases List.mem_append.mp hc with hc | hc
    · rw [isWordChar, hrole c hc, Bool.true_or]
    rcases List.mem_cons.mp hc with rfl | hc
    · decide
    · rw [isWordChar, hname.2 c hc, Bool.true_or]

theorem parseDotenv_text
    (h : Written env literals literalKeys legacyKeys metadata escaped rendered text) :
    parseDotenv text = parseDotenv rendered := by
  rw [h.text_eq, parseDotenv_headerLine isHeader_composeLiteralHeader h.areWords_metadata]
  split
  · rfl
  · exact parseDotenv_headerLine isHeader_composeHeader h.areWords_legacyKeys _

/-- The second header gives back the metadata. -/
theorem composeEncodedKeys_literal
    (h : Written env literals literalKeys legacyKeys metadata escaped rendered text) :
    ∃ words, composeEncodedKeys text composeLiteralHeader = some words ∧
      ∀ word, word ∈ words ↔ word ∈ metadata := by
  have hrendered := fun offset keys => @encodedKeysFrom_serializeDotenv composeLiteralHeader
    rfl _ (Dict.nodup_keys_update nodup_keys_bindingValues _) _ h.serialized offset keys
  refine ⟨(metadata.insertionSort (· ≤ ·)).dedup, ?_, fun word => ?_⟩
  · rw [composeEncodedKeys_eq, h.text_eq,
      encodedKeysFrom_headerLine isHeader_composeLiteralHeader h.areWords_metadata]
    split
    · exact hrendered _ _
    · rw [encodedKeysFrom_headerLine_other isHeader_composeHeader composeLiteralHeader_differs
        h.areWords_legacyKeys]
      exact hrendered _ _
  · rw [List.mem_dedup, List.mem_insertionSort]

/-- The first header gives back the keys that kept their form. -/
theorem composeEncodedKeys_legacy
    (h : Written env literals literalKeys legacyKeys metadata escaped rendered text) (word : Chars) :
    word ∈ (composeEncodedKeys text composeHeader).getD [] ↔ word ∈ legacyKeys := by
  have hrendered := fun offset keys => @encodedKeysFrom_serializeDotenv composeHeader
    rfl _ (Dict.nodup_keys_update nodup_keys_bindingValues _) _ h.serialized offset keys
  rw [composeEncodedKeys_eq, h.text_eq, encodedKeysFrom_headerLine_other
    isHeader_composeLiteralHeader composeHeader_differs h.areWords_metadata]
  split
  · rename_i hnil
    rw [hrendered, hnil]
    rfl
  · rw [encodedKeysFrom_headerLine isHeader_composeHeader h.areWords_legacyKeys, hrendered]
    simp

/-! ### Reading a written text -/

/-- The values after the first generation was decoded, and the keys it was decoded for. -/
theorem get_legacy (h : Written env literals literalKeys legacyKeys metadata escaped rendered text)
    (henv : env.keys.Nodup) (O : SetOrder) :
    (legacyProviderEnvironment O text).1.keys = (parseDotenv rendered).keys ∧
      (∀ k, (legacyProviderEnvironment O text).1.get k =
        if k ∈ legacyKeys then env.get k else (parseDotenv rendered).get k) ∧
      ∀ k, k ∈ (legacyProviderEnvironment O text).2 ↔ k ∈ legacyKeys := by
  have hnodup : ((composeEncodedKeys text composeHeader).getD []).Nodup := by
    cases hkeys : composeEncodedKeys text composeHeader with
    | none => exact List.nodup_nil
    | some keys => exact nodup_composeEncodedKeys hkeys
  have horder : (O.order (((composeEncodedKeys text composeHeader).getD []).filter
      (· ∈ (parseDotenv rendered).keys))).Nodup := (O.perm _).nodup_iff.mpr (hnodup.filter _)
  obtain ⟨hkeys, hspec, hdecoded⟩ :=
    foldl_decodeKey legacyLiteral horder (parseDotenv rendered, [])
  have hmem : ∀ k, k ∈ O.order (((composeEncodedKeys text composeHeader).getD []).filter
      (· ∈ (parseDotenv rendered).keys)) ↔ k ∈ legacyKeys := by
    intro k
    rw [(O.perm _).mem_iff, List.mem_filter, h.composeEncodedKeys_legacy, decide_eq_true_eq,
      and_iff_left_iff_imp]
    exact fun hk => h.mem_keys (h.legacyKeys_managed k hk).1
  have hliteral : ∀ k ∈ legacyKeys,
      ((parseDotenv rendered).get k).bind legacyLiteral = env.get k ∧ (env.get k).isSome := by
    intro k hk
    have hmanaged := (h.legacyKeys_managed k hk).1
    obtain ⟨v, hv⟩ := Option.isSome_iff_exists.mp (Dict.isSome_get.mpr hmanaged)
    obtain ⟨w, hdecode, hw⟩ := h.legacy k hk v hv
    rw [h.get_wire henv, if_pos hmanaged, hw, hv, Option.bind_some, hdecode]
    exact ⟨rfl, rfl⟩
  unfold legacyProviderEnvironment decodeKeys
  dsimp only
  rw [h.parseDotenv_text]
  refine ⟨hkeys, fun k => ?_, fun k => ?_⟩
  · rw [hspec]
    simp only [hmem]
    by_cases hk : k ∈ legacyKeys
    · obtain ⟨hdecode, hsome⟩ := hliteral k hk
      obtain ⟨v, hv⟩ := Option.isSome_iff_exists.mp hsome
      rw [if_pos hk, if_pos hk, hdecode, hv]
      rfl
    · rw [if_neg hk, if_neg hk]
  · rw [hdecoded]
    simp only [hmem, List.not_mem_nil, false_or, and_iff_left_iff_imp]
    intro hk
    obtain ⟨hdecode, hsome⟩ := hliteral k hk
    rw [hdecode]
    exact hsome

/-- The bindings are no managed keys. -/
theorem not_managed_of_name {c : Char} {name : Chars}
    (hname : (chooseNames env literals).get c = some name) : name ∉ env.keys :=
  fun hmem => (isName_of_get hname).2 (.inl hmem)

/-- The metadata holds the bindings, and the text holds their values. -/
theorem tokens (h : Written env literals literalKeys legacyKeys metadata escaped rendered text)
    (henv : env.keys.Nodup) (O : SetOrder) {words : List Chars}
    (hwords : ∀ word, word ∈ words ↔ word ∈ metadata) :
    Tokens (chooseNames env literals) (legacyProviderEnvironment O text).1 words := by
  have hroles : ∀ item ∈ composeCharacters, '=' ∉ item.1 ∧
      composeCharacters.get item.1 = some item.2 := by decide
  refine ⟨fun c c' name => chooseNames_injective, ?_, ?_, ?_⟩
  · intro c name hname
    have hfree := not_managed_of_name hname
    have hlegacy : name ∉ legacyKeys := fun hmem => hfree (h.legacyKeys_managed name hmem).1
    rw [(h.get_legacy henv O).2.1, if_neg hlegacy, h.get_wire henv, if_neg hfree]
    exact get_bindingValues.mpr ⟨c, hname, rfl⟩
  · intro token htoken hequals
    rcases (h.metadata_iff token).mp ((hwords token).mp htoken) with hkey | hbinding
    · have hname := isName_of_mem_keys (h.mem_keys (h.literalKeys_managed token hkey))
      exact absurd (hname.2 '=' hequals) (by decide)
    · obtain ⟨item, hitem, rfl⟩ := List.mem_map.mp hbinding
      obtain ⟨hrole, hchar⟩ := hroles item ((usedCharacters_sublist literals).subset hitem)
      exact ⟨item.1, item.2, _, rfl, hrole, hchar, get_chooseNames.mpr ⟨item.1, hitem, rfl⟩⟩
  · intro c name hname
    obtain ⟨role, hrole, rfl⟩ := get_chooseNames.mp hname
    obtain ⟨hequals, hchar⟩ := hroles (role, c) ((usedCharacters_sublist literals).subset hrole)
    refine ⟨role, (hwords _).mpr ((h.metadata_iff _).mpr (.inr ?_)), hequals, hchar⟩
    exact List.mem_map_of_mem (f := fun item => bindingToken item.1 (freshName env item.1)) hrole

/-- A literal decodes to the managed value. -/
theorem composeLiteral_eq
    (h : Written env literals literalKeys legacyKeys metadata escaped rendered text)
    {bindings : Dict Chars Char} (hagree : Agree (chooseNames env literals) bindings)
    {k v : Chars} (hk : k ∈ literalKeys) (hv : env.get k = some v) :
    ∃ w, escaped.get k = some w ∧ composeLiteral bindings w = some v := by
  obtain ⟨w, hcompose, hw⟩ := h.literal k hk v hv
  have hrestores : Restores (chooseNames env literals) bindings := fun c name hname =>
    ⟨(isName_of_get hname).1, (hagree.iff name c).mpr hname⟩
  refine ⟨w, hw, ?_⟩
  unfold composeLiteral
  dsimp only
  rw [restoreCharacters_composeValue hrestores hcompose,
    composeValue_congr (bindingNames_same hagree), hcompose, if_pos rfl]

/-- What is known once the literals were decoded: the reader found the bindings, and the managed
keys have their values. -/
structure Decoded (env : Dict Chars Chars) (names : Dict Char Chars) (literalKeys : List Chars)
    (bindings : Dict Chars Char) (state : Dict Chars Chars × List Chars) : Prop where
  agree : Agree names bindings
  nodup : state.1.keys.Nodup
  keys : ∀ k, k ∈ state.1.keys ↔ k ∈ env.keys ∨ k ∈ bindings.keys
  get : ∀ k ∈ env.keys, state.1.get k = env.get k
  decoded : ∀ k, k ∈ state.2 ↔ k ∈ literalKeys

theorem decoded (h : Written env literals literalKeys legacyKeys metadata escaped rendered text)
    (henv : env.keys.Nodup) (O : SetOrder) :
    ∃ words bindings, composeEncodedKeys text composeLiteralHeader = some words ∧
      readBindings (legacyProviderEnvironment O text).1 (O.order words) = some bindings ∧
      Decoded env (chooseNames env literals) literalKeys bindings
        (decodeKeys (composeLiteral bindings) (O.order (words.filter fun key =>
          key ∈ (legacyProviderEnvironment O text).1.keys ∧ key ∉ bindings.keys))
          (legacyProviderEnvironment O text).1) := by
  obtain ⟨hkeys, hget, -⟩ := h.get_legacy henv O
  obtain ⟨words, hwordsEq, hwords⟩ := h.composeEncodedKeys_literal
  have horder : ∀ word, word ∈ O.order words ↔ word ∈ metadata := fun word =>
    (O.perm words).mem_iff.trans (hwords word)
  obtain ⟨bindings, hbindings, hagree⟩ := readBindings_agree (h.tokens henv O horder)
  have hbound : ∀ name, name ∈ bindings.keys ↔
      ∃ c, (chooseNames env literals).get c = some name := by
    intro name
    rw [← Dict.isSome_get, Option.isSome_iff_exists]
    exact exists_congr fun c => hagree.iff name c
  have hfree : ∀ name ∈ bindings.keys, name ∉ env.keys := by
    intro name hname
    obtain ⟨c, hc⟩ := (hbound name).mp hname
    exact not_managed_of_name hc
  refine ⟨words, bindings, hwordsEq, hbindings, ?_⟩
  generalize (legacyProviderEnvironment O text).1 = values at hkeys hget
  -- the keys that are decoded are the literals
  have hselected : ∀ k, k ∈ O.order (words.filter fun key =>
      key ∈ values.keys ∧ key ∉ bindings.keys) ↔ k ∈ literalKeys := by
    intro k
    rw [(O.perm _).mem_iff, List.mem_filter, hwords, decide_eq_true_eq, hkeys]
    constructor
    · intro hk
      obtain ⟨hmetadata, hheld, hunbound⟩ := hk
      rcases (h.metadata_iff k).mp hmetadata with hliteral | htoken
      · exact hliteral
      · obtain ⟨item, hitem, rfl⟩ := List.mem_map.mp htoken
        have hequals := (isName_of_mem_keys hheld).2 '=' (by simp [bindingToken])
        exact absurd hequals (by decide)
    · intro hk
      have hmanaged := h.literalKeys_managed k hk
      exact ⟨(h.metadata_iff k).mpr (.inl hk), h.mem_keys hmanaged,
        fun hbinding => hfree k hbinding hmanaged⟩
  have hnodup : (O.order (words.filter fun key =>
      key ∈ values.keys ∧ key ∉ bindings.keys)).Nodup :=
    (O.perm _).nodup_iff.mpr ((nodup_composeEncodedKeys hwordsEq).filter _)
  obtain ⟨hkeys', hget', hdecoded⟩ := foldl_decodeKey (composeLiteral bindings) hnodup (values, [])
  have hbind : ∀ k ∈ literalKeys, (values.get k).bind (composeLiteral bindings) = env.get k := by
    intro k hk
    have hmanaged := h.literalKeys_managed k hk
    have hlegacy : k ∉ legacyKeys := fun hmem => (h.legacyKeys_managed k hmem).2 hk
    obtain ⟨v, hv⟩ := Option.isSome_iff_exists.mp (Dict.isSome_get.mpr hmanaged)
    obtain ⟨w, hw, hliteral⟩ := h.composeLiteral_eq hagree hk hv
    rw [hget, if_neg hlegacy, h.get_wire henv, if_pos hmanaged, hw, hv]
    exact hliteral
  refine ⟨hagree, ?_, fun k => ?_, fun k hk => ?_, fun k => ?_⟩
  · rw [decodeKeys, hkeys', hkeys]
    exact nodup_keys_parseDotenv _
  · rw [decodeKeys, hkeys', hkeys, Dict.mem_keys_iff_of_same (serializeDotenv_eq_ok h.serialized).1,
      Dict.mem_keys_update, h.keys, or_comm, hbound, ← Dict.isSome_get (k := k) (d := bindingValues _),
      Option.isSome_iff_exists]
    refine or_congr_right ⟨?_, ?_⟩
    · intro hvalue
      obtain ⟨value, hvalue⟩ := hvalue
      obtain ⟨c, hc, -⟩ := get_bindingValues.mp hvalue
      exact ⟨c, hc⟩
    · intro hname
      obtain ⟨c, hc⟩ := hname
      exact ⟨[c], get_bindingValues.mpr ⟨c, hc, rfl⟩⟩
  · obtain ⟨v, hv⟩ := Option.isSome_iff_exists.mp (Dict.isSome_get.mpr hk)
    rw [decodeKeys, hget']
    simp only [hselected]
    by_cases hliteral : k ∈ literalKeys
    · rw [if_pos hliteral, hbind k hliteral, hv, Option.some_or]
    rw [if_neg hliteral, hget]
    by_cases hlegacy : k ∈ legacyKeys
    · rw [if_pos hlegacy]
    · rw [if_neg hlegacy, h.get_wire henv, if_pos hk, h.plain k hliteral hlegacy v hv, hv]
  · rw [decodeKeys, hdecoded, hselected]
    constructor
    · intro hk
      rcases hk with hk | hk
      · cases hk
      · exact hk.1
    · intro hk
      refine .inr ⟨hk, ?_⟩
      show ((values.get k).bind _).isSome = true
      rw [hbind k hk, Dict.isSome_get]
      exact h.literalKeys_managed k hk

/-- **A written text reads back**: every managed key has its value, nothing else is left, and the
keys written as literals are known as such. -/
theorem roundTrip (h : Written env literals literalKeys legacyKeys metadata escaped rendered text)
    (henv : env.keys.Nodup) (O : SetOrder) :
    (parseDokployEnvText O text).Same env ∧
      ∀ k, k ∈ composeLiteralKeys O text ↔ k ∈ literalKeys := by
  obtain ⟨words, bindings, hwords, hbindings, hstate⟩ := h.decoded henv O
  unfold parseDokployEnvText composeLiteralKeys providerEnvironment literalProviderEnvironment
  rw [hwords]
  dsimp only
  rw [hbindings]
  dsimp only
  generalize decodeKeys (composeLiteral bindings) _ (legacyProviderEnvironment O text).1 = state
    at hstate ⊢
  refine ⟨fun k => ?_, hstate.decoded⟩
  have hfree : ∀ name ∈ bindings.keys, ¬ IsTaken env name := by
    intro name hname
    obtain ⟨c, hc⟩ := Option.isSome_iff_exists.mp (Dict.isSome_get.mpr hname)
    exact (isName_of_get ((hstate.agree.iff name c).mp hc)).2
  rw [get_dropBindings]
  · split
    · rename_i hk
      exact (Dict.get_eq_none.mpr fun hmem => hfree k hk (.inl hmem)).symm
    · rename_i hk
      by_cases hmanaged : k ∈ env.keys
      · exact hstate.get k hmanaged
      · rw [Dict.get_eq_none.mpr hmanaged, Dict.get_eq_none, hstate.keys, not_or]
        exact ⟨hmanaged, hk⟩
  · -- a value that is neither a literal nor a binding is a managed value, which mentions no name
    intro name hname item hitem _ hunbound hinfix
    have hmanaged : item.1 ∈ env.keys :=
      ((hstate.keys item.1).mp (Dict.mem_keys_of_mem hitem)).resolve_right hunbound
    have hvalue : env.get item.1 = some item.2 :=
      (hstate.get item.1 hmanaged).symm.trans (Dict.get_of_mem hstate.nodup hitem)
    exact hfree name hname (.inr ⟨item.2, List.mem_map_of_mem (Dict.mem_of_get hvalue), hinfix⟩)

end Written

/-! ### The writer -/

/-- Without a header nothing is decoded. -/
theorem providerEnvironment_of_no_header {O : SetOrder} {text : Chars}
    (hlegacy : composeEncodedKeys text composeHeader = none)
    (hliteral : composeEncodedKeys text composeLiteralHeader = none) :
    parseDokployEnvText O text = parseDotenv text := by
  have hempty : O.order [] = [] := (O.perm []).eq_nil
  unfold parseDokployEnvText providerEnvironment literalProviderEnvironment
  rw [hliteral]
  unfold legacyProviderEnvironment
  rw [hlegacy]
  show (decodeKeys legacyLiteral (O.order []) (parseDotenv text)).1 = parseDotenv text
  rw [hempty]
  rfl

/-- A plain dotenv text reads back. -/
theorem parseDokployEnvText_serializeDotenv {text : Chars} (henv : env.keys.Nodup)
    (h : serializeDotenv env = .ok text) (O : SetOrder) :
    (parseDokployEnvText O text).Same env := by
  rw [providerEnvironment_of_no_header (encodedKeysFrom_serializeDotenv rfl henv h 0 none)
    (encodedKeysFrom_serializeDotenv rfl henv h 0 none)]
  exact (serializeDotenv_eq_ok h).1

/-- Which keys of a map are untouched in the current text. -/
def untouchedIn (O : SetOrder) (current : Option Chars) (requested : List Chars) :
    Chars → Chars → Bool :=
  let previous := providerEnvironment O (current.getD [])
  isUntouched previous.1 previous.2 requested current

/-- How the writer chose: the keys that are touched become literals, the others keep their wire
value, and are named in the first header if they were decoded through it. -/
structure Chosen (O : SetOrder) (env : Dict Chars Chars) (current : Option Chars)
    (requested literalKeys legacyKeys : List Chars) (escaped : Dict Chars Chars) : Prop where
  literal_iff : ∀ k v, env.get k = some v →
    (k ∈ literalKeys ↔ untouchedIn O current requested k v = false)
  legacy_iff : ∀ k, k ∈ legacyKeys ↔
    k ∈ env.keys ∧ k ∈ (legacyProviderEnvironment O (current.getD [])).2 ∧ k ∉ literalKeys
  wire : ∀ k ∈ env.keys, k ∉ literalKeys →
    escaped.get k = (parseDotenv (current.getD [])).get k

/-- The writer for Compose returns written texts. -/
theorem written_of_eq_ok {O : SetOrder} {composeType : String} {current : Option Chars}
    {requested : List Chars} {text : Chars} (henv : env.keys.Nodup)
    (hcompose : composeType ≠ "stack")
    (h : serializeDokployEnvText O env "compose" composeType current requested = .ok text) :
    ∃ literals literalKeys legacyKeys metadata escaped rendered,
      Written env literals literalKeys legacyKeys metadata escaped rendered text ∧
        Chosen O env current requested literalKeys legacyKeys escaped := by
  unfold serializeDokployEnvText at h
  rw [if_neg (by simp [hcompose])] at h
  simp only [bind_eq_ok, raiseIf_eq_ok] at h
  obtain ⟨-, -, escaped, hescaped, rendered, hrendered, htext⟩ := h
  have hlegacy := fun k v =>
    @get_legacyProviderEnvironment O (current.getD []) k v
  have hprevious := fun k v => @get_literalProviderEnvironment O (current.getD [])
    (legacyProviderEnvironment O (current.getD [])).1 k v
  have huntouched : untouchedIn O current requested = isUntouched
      (literalProviderEnvironment O (current.getD [])
        (legacyProviderEnvironment O (current.getD [])).1).1
      (literalProviderEnvironment O (current.getD [])
        (legacyProviderEnvironment O (current.getD [])).1).2 requested current := rfl
  generalize hlegacyText : legacyProviderEnvironment O (current.getD []) = legacy at *
  generalize literalProviderEnvironment O (current.getD []) legacy.1 = previous at *
  obtain rfl := Except.ok.inj htext
  obtain ⟨hkeys, hvalues⟩ := Dict.mapValues_eq_ok hescaped
  generalize hliterals : env.filter (fun item =>
    !isUntouched previous.1 previous.2 requested current item.1 item.2) = literals at *
  have hliteralKey : ∀ k v, env.get k = some v →
      (k ∈ Dict.keys literals ↔ isUntouched previous.1 previous.2 requested current k v = false) := by
    intro k v hv
    rw [← hliterals, Dict.keys, List.mem_map]
    constructor
    · intro hk
      obtain ⟨item, hitem, rfl⟩ := hk
      rw [List.mem_filter, Bool.not_eq_true'] at hitem
      have hget := Dict.get_of_mem henv hitem.1
      rw [hv] at hget
      rw [Option.some.inj hget]
      exact hitem.2
    · intro hk
      exact ⟨(k, v), List.mem_filter.mpr ⟨Dict.mem_of_get hv, by rw [hk]; rfl⟩, rfl⟩
  have hmanaged : ∀ k ∈ Dict.keys literals, k ∈ env.keys := by
    intro k hk
    rw [← hliterals] at hk
    exact (List.filter_sublist.map Prod.fst).subset hk
  -- a key that is no literal holds the value of the first generation
  have hkept : ∀ k v, env.get k = some v → k ∉ Dict.keys literals →
      ∃ wire, (parseDotenv (current.getD [])).get k = some wire ∧ escaped.get k = some wire ∧
        (k ∈ legacy.2 → legacyLiteral wire = some v) ∧ (k ∉ legacy.2 → wire = v) := by
    intro k v hv hk
    rw [hliteralKey k v hv, Bool.not_eq_false] at hk
    obtain ⟨wire, hwire, hget⟩ := hvalues k v hv
    rw [if_pos hk] at hwire
    rw [isUntouched, Bool.and_eq_true, Bool.and_eq_true, decide_eq_true_eq, Bool.not_eq_true',
      List.contains_eq_mem, decide_eq_false_iff_not, List.mem_append, not_or] at hk
    obtain ⟨wire', hraw, hspec⟩ := hlegacy k v (hprevious k v hk.2 hk.1.2.1)
    rw [hraw] at hwire
    obtain rfl := Except.ok.inj hwire
    exact ⟨wire', hraw, hget, hspec⟩
  have hlegacyKey : ∀ k, k ∈ env.keys.filter (fun key =>
      legacy.2.contains key && !(Dict.keys literals).contains key) ↔
        k ∈ env.keys ∧ k ∈ legacy.2 ∧ k ∉ Dict.keys literals := by
    intro k
    simp only [List.mem_filter, Bool.and_eq_true, Bool.not_eq_true', List.contains_eq_mem,
      decide_eq_true_eq, decide_eq_false_iff_not]
  refine ⟨literals.map Prod.snd, Dict.keys literals, env.keys.filter fun key =>
    legacy.2.contains key && !(Dict.keys literals).contains key,
    (Dict.keys literals ++ nameTokens env (literals.map Prod.snd)).dedup, escaped, rendered,
    ⟨hkeys, ?_, ?_, ?_, hmanaged, ?_, fun word => ?_, hrendered, ?_⟩,
    ⟨?_, hlegacyText ▸ hlegacyKey, ?_⟩⟩
  · intro k hk v hv
    obtain ⟨wire, hwire, hget⟩ := hvalues k v hv
    rw [if_neg (by rw [(hliteralKey k v hv).mp hk]; exact Bool.false_ne_true)] at hwire
    split at hwire
    · rename_i hcomposed
      obtain rfl := Except.ok.inj hwire
      exact ⟨_, hcomposed, hget⟩
    · cases hwire
  · intro k hk v hv
    obtain ⟨-, hmem, hliteral⟩ := (hlegacyKey k).mp hk
    obtain ⟨wire, -, hget, hdecode, -⟩ := hkept k v hv hliteral
    exact ⟨wire, hdecode hmem, hget⟩
  · intro k hliteral hk v hv
    have hplain : k ∉ legacy.2 := fun hmem =>
      hk ((hlegacyKey k).mpr ⟨Dict.isSome_get.mp (by rw [hv]; rfl), hmem, hliteral⟩)
    obtain ⟨wire, -, hget, -, heq⟩ := hkept k v hv hliteral
    rw [hget, heq hplain]
  · intro k hk
    obtain ⟨hmanaged, -, hliteral⟩ := (hlegacyKey k).mp hk
    exact ⟨hmanaged, hliteral⟩
  · rw [List.mem_dedup, List.mem_append]
  · split
    · simp [List.intercalate]
    · simp [List.intercalate]
  · intro k v hv
    rw [huntouched]
    exact hliteralKey k v hv
  · intro k hk hliteral
    obtain ⟨v, hv⟩ := Option.isSome_iff_exists.mp (Dict.isSome_get.mpr hk)
    obtain ⟨wire, hraw, hget, -⟩ := hkept k v hv hliteral
    rw [hget, hraw]

/-- **Environment texts round-trip.** Whatever the current text and the requested keys, a text that
the writer returns for a map reads back as this map, in whichever order either of them goes through
its sets; a Compose text written without a current one has every key as a literal. -/
theorem parseDokployEnvText_serializeDokployEnvText (O O' : SetOrder) {env : Dict Chars Chars}
    (henv : env.keys.Nodup) {targetType composeType : String} {current : Option Chars}
    {requested : List Chars} {text : Chars}
    (h : serializeDokployEnvText O env targetType composeType current requested = .ok text) :
    (parseDokployEnvText O' text).Same env ∧
      (targetType = "compose" → composeType ≠ "stack" → current = none →
        ∀ key ∈ env.keys, key ∈ composeLiteralKeys O' text) := by
  by_cases hplain : targetType ≠ "compose" ∨ composeType = "stack"
  · unfold serializeDokployEnvText at h
    rw [if_pos hplain] at h
    simp only [bind_eq_ok, raiseIf_eq_ok] at h
    obtain ⟨-, -, -, -, hserialized⟩ := h
    refine ⟨parseDokployEnvText_serializeDotenv henv hserialized O', fun htarget hstack => ?_⟩
    exact absurd hplain (by simp [htarget, hstack])
  · rw [not_or, not_not] at hplain
    obtain ⟨rfl, hstack⟩ := hplain
    obtain ⟨literals, literalKeys, legacyKeys, metadata, escaped, rendered, hwritten, hchosen⟩ :=
      written_of_eq_ok henv hstack h
    obtain ⟨hsame, hliterals⟩ := hwritten.roundTrip henv O'
    refine ⟨hsame, fun _ _ hnone key hkey => (hliterals key).mpr ?_⟩
    obtain ⟨value, hvalue⟩ := Option.isSome_iff_exists.mp (Dict.isSome_get.mpr hkey)
    rw [hchosen.literal_iff key value hvalue, hnone]
    rfl

/-- The order in which the words of a set were found. -/
def SetOrder.found : SetOrder := ⟨id, fun _ => List.Perm.refl _⟩

/-- A value with a dollar, a backslash and a line that looks like a header, and a value that seems
to mention the first name of the dollar. -/
def sampleEnvironment : Dict Chars Chars :=
  [("A".toList, "x$\\\n# launchplane:compose-dotenv-v1 B".toList),
    ("B".toList, "${LAUNCHPLANE_DOTENV_DOLLAR}".toList)]

/-- What is written for the sample. -/
def sampleText : Chars :=
  List.intercalate ['\n']
    ["# launchplane:compose-dotenv-v2 A B DOLLAR=LAUNCHPLANE_DOTENV_DOLLAR_1 ".toList ++
        "SLASH=LAUNCHPLANE_DOTENV_SLASH".toList,
      "LAUNCHPLANE_DOTENV_DOLLAR_1=$".toList, "LAUNCHPLANE_DOTENV_SLASH=\\".toList,
      "A='x$\x7bLAUNCHPLANE_DOTENV_DOLLAR_1\x7d$\x7bLAUNCHPLANE_DOTENV_SLASH\x7d".toList,
      "# launchplane:compose-dotenv-v1 B'".toList,
      "B=$\x7bLAUNCHPLANE_DOTENV_DOLLAR_1\x7d\x7bLAUNCHPLANE_DOTENV_DOLLAR\x7d".toList]

theorem parseDokployEnvText_serializeDokployEnvText_sample :
    (parseDokployEnvText SetOrder.found sampleText).Same sampleEnvironment ∧
      ("compose" = "compose" → "docker-compose" ≠ "stack" → (none : Option Chars) = none →
        ∀ key ∈ sampleEnvironment.keys, key ∈ composeLiteralKeys SetOrder.found sampleText) :=
  parseDokployEnvText_serializeDokployEnvText SetOrder.found SetOrder.found
    (show sampleEnvironment.keys.Nodup by decide)
    (show serializeDokployEnvText SetOrder.found sampleEnvironment "compose" "docker-compose" none
      [] = .ok sampleText by decide +kernel)

end Launchplane.Dokploy
