import Launchplane.Text

/-!
# Launchplane.Secrets.Slug

**The ids of the secret store.** A secret's id and a binding's id are built from
lower-cased slugs that are joined with dashes, and a slug is itself words joined
with dashes. So an id is a list of words and nothing else: where one name ends
and the next one begins is not part of it (`secretId_eq_iff`, `bindingId_eq_iff`).
-/

namespace Launchplane.Secrets

/-- The characters of a text. -/
abbrev Chars := List Char

/-- `str.isalnum` and `str.lower` on characters, as the Unicode database has them. -/
structure CharacterTable where
  isAlnum : Char → Bool
  lower : Char → Chars

/-- The table on ASCII. -/
def CharacterTable.ascii : CharacterTable := ⟨Char.isAlphanum, fun c => [c.toLower]⟩

/-! ### Words joined with dashes -/

/-- `"-".join(words)`. -/
def joinDash (words : List Chars) : Chars := ['-'].intercalate words

/-- The words an id can be made of: not empty, and without dashes. -/
def AreParts (words : List Chars) : Prop := ∀ word ∈ words, word ≠ [] ∧ '-' ∉ word

theorem joinDash_cons (word : Chars) {words : List Chars} (h : words ≠ []) :
    joinDash (word :: words) = word ++ '-' :: joinDash words := by
  rw [joinDash, List.intercalate_cons_of_ne_nil h]
  simp [joinDash]

theorem joinDash_append {words words' : List Chars} (h : words ≠ []) (h' : words' ≠ []) :
    joinDash (words ++ words') = joinDash words ++ '-' :: joinDash words' := by
  induction words with
  | nil => exact absurd rfl h
  | cons word rest ih =>
      cases rest with
      | nil => simpa [joinDash] using joinDash_cons word h'
      | cons next others =>
          have hne : next :: others ≠ [] := by simp
          rw [List.cons_append, joinDash_cons word (by simp), ih hne, joinDash_cons word hne]
          simp

/-- Joining what is joined already joins the words of it all. -/
theorem joinDash_map_joinDash {groups : List (List Chars)} (h : ∀ words ∈ groups, words ≠ []) :
    joinDash (groups.map joinDash) = joinDash groups.flatten := by
  induction groups with
  | nil => rfl
  | cons words rest ih =>
      have hwords := h words List.mem_cons_self
      have hrest := ih fun other hother => h other (List.mem_cons_of_mem _ hother)
      cases rest with
      | nil => simp [joinDash]
      | cons next others =>
          have hne : (next :: others).flatten ≠ [] := by
            simp [h next (by simp)]
          show joinDash _ = joinDash (words ++ (next :: others).flatten)
          rw [List.map_cons, joinDash_cons _ (by simp), hrest, joinDash_append hwords hne]

/-- Words are read back from what is joined of them. -/
theorem joinDash_injective {words words' : List Chars} (h : AreParts words) (h' : AreParts words')
    (hne : words ≠ []) (hne' : words' ≠ []) (heq : joinDash words = joinDash words') :
    words = words' := by
  have hsplit := List.splitOn_intercalate '-' (fun word hword => (h word hword).2) hne
  have hsplit' := List.splitOn_intercalate '-' (fun word hword => (h' word hword).2) hne'
  rw [← hsplit, ← hsplit']
  exact congrArg _ heq

/-! ### Slugs -/

section Table

variable (T : CharacterTable)

/-- `compact`: the text with a dash for every character that is neither a letter nor a digit. -/
def compact (value : Chars) : Chars :=
  (stripChars value).flatMap fun c => if T.isAlnum c then T.lower c else ['-']

/-- `_secret_slug`. -/
def secretSlug (value : Chars) : Chars :=
  let normalized := joinDash (((compact T value).splitOn '-').filter (· ≠ []))
  if normalized = [] then "secret".toList else normalized

/-- The words a slug is joined from. -/
def slugWords (value : Chars) : List Chars :=
  let words := ((compact T value).splitOn '-').filter (· ≠ [])
  if words = [] then ["secret".toList] else words

theorem slugWords_ne_nil (value : Chars) : slugWords T value ≠ [] := by
  unfold slugWords
  dsimp only
  split
  · simp
  · assumption

/-- What stands between two dashes has no dash. -/
theorem notMem_of_mem_splitOn {c : Char} {text : Chars} :
    ∀ {part : Chars}, part ∈ text.splitOn c → c ∉ part := by
  induction text with
  | nil => simp
  | cons d text ih =>
      intro part hpart
      obtain ⟨first, others, hsplit⟩ := List.exists_cons_of_ne_nil (List.splitOn_ne_nil c text)
      rw [List.splitOn_cons_eq_if_modifyHead, hsplit] at hpart
      rw [hsplit] at ih
      split at hpart
      · rcases List.mem_cons.mp hpart with rfl | hpart
        · simp
        · exact ih hpart
      · rename_i hdc
        rw [List.modifyHead_cons] at hpart
        rcases List.mem_cons.mp hpart with rfl | hpart
        · have hne : c ≠ d := by
            intro heq
            simp [heq] at hdc
          simp [hne, ih List.mem_cons_self]
        · exact ih (List.mem_cons_of_mem _ hpart)

theorem areParts_slugWords (value : Chars) : AreParts (slugWords T value) := by
  unfold slugWords
  dsimp only
  split
  · intro word hword
    rw [List.mem_singleton.mp hword]
    decide
  · intro word hword
    obtain ⟨hmem, hne⟩ := List.mem_filter.mp hword
    exact ⟨by simpa using hne, notMem_of_mem_splitOn hmem⟩

theorem joinDash_ne_nil {words : List Chars} (h : AreParts words) (hne : words ≠ []) :
    joinDash words ≠ [] := by
  cases words with
  | nil => exact absurd rfl hne
  | cons word rest =>
      have hword := (h word List.mem_cons_self).1
      cases rest with
      | nil => simpa [joinDash] using hword
      | cons next others => simp [joinDash_cons word, hword]

theorem secretSlug_eq (value : Chars) : secretSlug T value = joinDash (slugWords T value) := by
  have hparts : AreParts (((compact T value).splitOn '-').filter (· ≠ [])) := by
    intro word hword
    obtain ⟨hmem, hne⟩ := List.mem_filter.mp hword
    exact ⟨by simpa using hne, notMem_of_mem_splitOn hmem⟩
  unfold secretSlug slugWords
  generalize ((compact T value).splitOn '-').filter (· ≠ []) = words at hparts ⊢
  by_cases hwords : words = []
  · subst hwords
    rfl
  · simp only [joinDash_ne_nil hparts hwords, hwords, if_false]

/-! ### Ids -/

/-- The parts of `_secret_id`. A blank context or instance is left out. -/
def idParts (integration name context instanceName : Chars) : List Chars :=
  ["secret".toList, integration, name] ++ (if stripChars context ≠ [] then [context] else []) ++
    (if stripChars instanceName ≠ [] then [instanceName] else [])

/-- `_secret_id`. -/
def secretId (integration name context instanceName : Chars) : Chars :=
  joinDash ((idParts integration name context instanceName).map (secretSlug T))

/-- `_binding_id`. -/
def bindingId (secretId bindingKey : Chars) : Chars :=
  secretId ++ "-binding-".toList ++ secretSlug T bindingKey

/-- `_version_id`, with what `uuid4` drew. -/
def versionId (secretId drawn : Chars) : Chars := secretId ++ "-version-".toList ++ drawn

/-- The words of a secret's id. -/
def secretIdWords (integration name context instanceName : Chars) : List Chars :=
  (idParts integration name context instanceName).flatMap (slugWords T)

/-- The words of a binding's id. -/
def bindingIdWords (words : List Chars) (bindingKey : Chars) : List Chars :=
  words ++ "binding".toList :: slugWords T bindingKey

theorem secretIdWords_ne_nil (integration name context instanceName : Chars) :
    secretIdWords T integration name context instanceName ≠ [] := by
  simp [secretIdWords, idParts, slugWords_ne_nil]

theorem areParts_secretIdWords (integration name context instanceName : Chars) :
    AreParts (secretIdWords T integration name context instanceName) := by
  intro word hword
  obtain ⟨part, -, hmem⟩ := List.mem_flatMap.mp hword
  exact areParts_slugWords T part word hmem

theorem secretId_eq (integration name context instanceName : Chars) :
    secretId T integration name context instanceName =
      joinDash (secretIdWords T integration name context instanceName) := by
  have hmap : (idParts integration name context instanceName).map (secretSlug T) =
      ((idParts integration name context instanceName).map (slugWords T)).map joinDash := by
    rw [List.map_map]
    exact List.map_congr_left fun part _ => secretSlug_eq T part
  rw [secretId, hmap, joinDash_map_joinDash]
  · rw [secretIdWords, List.flatMap]
  · intro words hwords
    obtain ⟨part, -, rfl⟩ := List.mem_map.mp hwords
    exact slugWords_ne_nil T part

theorem areParts_bindingIdWords {words : List Chars} (h : AreParts words) (bindingKey : Chars) :
    AreParts (bindingIdWords T words bindingKey) := by
  intro word hword
  rcases List.mem_append.mp hword with hword | hword
  · exact h word hword
  · rcases List.mem_cons.mp hword with rfl | hword
    · decide
    · exact areParts_slugWords T bindingKey word hword

theorem bindingId_eq {words : List Chars} (hne : words ≠ []) (bindingKey : Chars) :
    bindingId T (joinDash words) bindingKey = joinDash (bindingIdWords T words bindingKey) := by
  rw [bindingIdWords, joinDash_append hne (by simp),
    joinDash_cons _ (slugWords_ne_nil T bindingKey), bindingId, secretSlug_eq]
  simp

/-- **A secret's id is its words.** -/
theorem secretId_eq_iff (integration name context instanceName : Chars)
    (integration' name' context' instanceName' : Chars) :
    secretId T integration name context instanceName =
        secretId T integration' name' context' instanceName' ↔
      secretIdWords T integration name context instanceName =
        secretIdWords T integration' name' context' instanceName' := by
  rw [secretId_eq, secretId_eq]
  refine ⟨?_, congrArg joinDash⟩
  exact joinDash_injective (areParts_secretIdWords T _ _ _ _) (areParts_secretIdWords T _ _ _ _)
    (secretIdWords_ne_nil T _ _ _ _) (secretIdWords_ne_nil T _ _ _ _)

/-- **A binding's id is its words.** -/
theorem bindingId_eq_iff {words words' : List Chars} (h : AreParts words) (h' : AreParts words')
    (hne : words ≠ []) (hne' : words' ≠ []) (bindingKey bindingKey' : Chars) :
    bindingId T (joinDash words) bindingKey = bindingId T (joinDash words') bindingKey' ↔
      bindingIdWords T words bindingKey = bindingIdWords T words' bindingKey' := by
  rw [bindingId_eq T hne, bindingId_eq T hne']
  refine ⟨?_, congrArg joinDash⟩
  exact joinDash_injective (areParts_bindingIdWords T h _) (areParts_bindingIdWords T h' _)
    (by simp [bindingIdWords]) (by simp [bindingIdWords])

end Table

end Launchplane.Secrets
