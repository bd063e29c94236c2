import Launchplane.Dokploy.RoundTrip

/-!
# Launchplane.Dokploy.Rewrite

**Writing over a current text.** A key that the writer leaves alone keeps the value
the dotenv grammar gives it, whatever becomes of the other keys: an initialised
database reads that value, not the one the writer manages. It also stays in the
generation it was written in.

What the writer makes of a map depends on the current text only through the keys
that are untouched, their wire values and their generation (`composeText_congr`).
A written text answers these three questions as the current text did, so writing
over it gives the same text again.
-/

namespace Launchplane.Dokploy

variable {env : Dict Chars Chars}

/-! ### What a write depends on -/

/-- The text of a map, given which keys are untouched, and their wire values and generation. -/
def composeText (env : Dict Chars Chars) (untouched : Chars → Chars → Bool)
    (wire : Dict Chars Chars) (isLegacy : Chars → Bool) : Except String Chars := do
  let literals : Dict Chars Chars := env.filter fun item => !untouched item.1 item.2
  let preservedLegacyKeys := env.keys.filter fun key =>
    isLegacy key && !literals.keys.contains key
  let names := chooseNames env (literals.map Prod.snd)
  let metadata := (literals.keys ++ nameTokens env (literals.map Prod.snd)).dedup
  let escaped ← env.mapValues fun key value =>
    if untouched key value then
      match wire.get key with
      | some wireValue => .ok wireValue
      | none => .error "KeyError"
    else
      match composeValue names value with
      | some wireValue => .ok wireValue
      | none => .error "KeyError"
  let rendered ← serializeDotenv (Dict.update (bindingValues names) escaped)
  let headers := headerLine composeLiteralHeader metadata ::
    (if preservedLegacyKeys = [] then [] else [headerLine composeHeader preservedLegacyKeys])
  return List.intercalate ['\n'] (headers ++ [rendered])

/-- The writer for Compose, on requested keys that are managed. -/
theorem serializeDokployEnvText_compose (O : SetOrder) {composeType : String}
    (hstack : composeType ≠ "stack") (current : Option Chars) {requested : List Chars}
    (hrequested : ∀ key ∈ requested, key ∈ env.keys) :
    serializeDokployEnvText O env "compose" composeType current requested =
      composeText env (untouchedIn O current requested) (parseDotenv (current.getD []))
        (legacyProviderEnvironment O (current.getD [])).2.contains := by
  have hmanaged : ¬ ∃ key ∈ requested, key ∉ env.keys := by
    intro ⟨key, hkey, hunmanaged⟩
    exact hunmanaged (hrequested key hkey)
  unfold serializeDokployEnvText
  rw [raiseIf, if_neg hmanaged, if_neg (by simp [hstack])]
  rfl

/-- Two current texts that agree on the untouched keys give the same text. -/
theorem composeText_congr (henv : env.keys.Nodup) {untouched untouched' : Chars → Chars → Bool}
    {wire wire' : Dict Chars Chars} {isLegacy isLegacy' : Chars → Bool}
    (huntouched : ∀ k v, env.get k = some v → untouched k v = untouched' k v)
    (hwire : ∀ k v, env.get k = some v → untouched k v = true → wire.get k = wire'.get k)
    (hlegacy : ∀ k v, env.get k = some v → untouched k v = true → isLegacy k = isLegacy' k) :
    composeText env untouched wire isLegacy = composeText env untouched' wire' isLegacy' := by
  have hitem {item : Chars × Chars} (hitem : item ∈ env) : env.get item.1 = some item.2 :=
    Dict.get_of_mem henv hitem
  have hliterals : env.filter (fun item => !untouched item.1 item.2) =
      env.filter (fun item => !untouched' item.1 item.2) :=
    List.filter_congr fun item hmem => by rw [huntouched _ _ (hitem hmem)]
  have hpreserved : env.keys.filter (fun key => isLegacy key &&
        !(Dict.keys (env.filter fun item => !untouched' item.1 item.2)).contains key) =
      env.keys.filter (fun key => isLegacy' key &&
        !(Dict.keys (env.filter fun item => !untouched' item.1 item.2)).contains key) := by
    refine List.filter_congr fun key hkey => ?_
    obtain ⟨item, hmem, rfl⟩ := List.mem_map.mp hkey
    cases hkept : untouched' item.1 item.2 with
    | true => rw [hlegacy _ _ (hitem hmem) ((huntouched _ _ (hitem hmem)).trans hkept)]
    | false =>
      -- a literal is in neither header
      have hliteral : item.1 ∈ Dict.keys (env.filter fun item => !untouched' item.1 item.2) :=
        List.mem_map_of_mem (List.mem_filter.mpr ⟨hmem, by rw [hkept]; rfl⟩)
      rw [List.contains_iff_mem.mpr hliteral, Bool.not_true, Bool.and_false, Bool.and_false]
  unfold composeText
  dsimp only
  rw [hliterals, hpreserved]
  refine congrArg (· >>= _) (Dict.mapValues_congr fun item hmem => ?_)
  rw [← huntouched _ _ (hitem hmem)]
  cases hkept : untouched item.1 item.2 with
  | true => rw [if_pos rfl, if_pos rfl, hwire _ _ (hitem hmem) hkept]
  | false => rfl

/-! ### What a written text answers -/

section

variable {O O' : SetOrder} {current : Option Chars}
  {requested literals literalKeys legacyKeys metadata : List Chars} {escaped : Dict Chars Chars}
  {rendered text : Chars}

/-- A key that was untouched keeps its wire value. -/
theorem Written.wire_kept
    (h : Written env literals literalKeys legacyKeys metadata escaped rendered text)
    (hchosen : Chosen O env current requested literalKeys legacyKeys escaped)
    (henv : env.keys.Nodup) {k v : Chars} (hv : env.get k = some v)
    (huntouched : untouchedIn O current requested k v = true) :
    (parseDotenv text).get k = (parseDotenv (current.getD [])).get k := by
  have hmanaged : k ∈ env.keys := Dict.isSome_get.mp (by rw [hv]; rfl)
  have hliteral : k ∉ literalKeys := fun hk => by
    rw [(hchosen.literal_iff k v hv).mp hk] at huntouched
    cases huntouched
  rw [h.parseDotenv_text, h.get_wire henv, if_pos hmanaged, hchosen.wire k hmanaged hliteral]

/-- And its generation. -/
theorem Written.legacy_kept
    (h : Written env literals literalKeys legacyKeys metadata escaped rendered text)
    (hchosen : Chosen O env current requested literalKeys legacyKeys escaped)
    (henv : env.keys.Nodup) {k v : Chars} (hv : env.get k = some v)
    (huntouched : untouchedIn O current requested k v = true) :
    k ∈ (legacyProviderEnvironment O' text).2 ↔
      k ∈ (legacyProviderEnvironment O (current.getD [])).2 := by
  have hmanaged : k ∈ env.keys := Dict.isSome_get.mp (by rw [hv]; rfl)
  have hliteral : k ∉ literalKeys := fun hk => by
    rw [(hchosen.literal_iff k v hv).mp hk] at huntouched
    cases huntouched
  rw [(h.get_legacy henv O').2.2, hchosen.legacy_iff]
  exact ⟨fun hk => hk.2.1, fun hk => ⟨hmanaged, hk, hliteral⟩⟩

theorem untouchedIn_eq_true {k v : Chars} :
    untouchedIn O current requested k v = true ↔
      current.isSome = true ∧ k ∉ composeLiteralKeys O (current.getD []) ∧ k ∉ requested ∧
        (parseDokployEnvText O (current.getD [])).get k = some v := by
  unfold untouchedIn isUntouched composeLiteralKeys parseDokployEnvText
  simp only [Bool.and_eq_true, Bool.not_eq_true', List.contains_eq_mem, decide_eq_false_iff_not,
    List.mem_append, not_or, decide_eq_true_eq, and_assoc]

/-- The keys a written text leaves untouched are those that were untouched when it was written. -/
theorem Written.untouched_kept
    (h : Written env literals literalKeys legacyKeys metadata escaped rendered text)
    (hchosen : Chosen O env current requested literalKeys legacyKeys escaped)
    (henv : env.keys.Nodup) {k v : Chars} (hv : env.get k = some v) :
    untouchedIn O' (some text) requested k v = untouchedIn O current requested k v := by
  obtain ⟨hsame, hliterals⟩ := h.roundTrip henv O'
  rw [Bool.eq_iff_iff, untouchedIn_eq_true]
  show _ ∧ k ∉ composeLiteralKeys O' text ∧ _ ∧ (parseDokployEnvText O' text).get k = some v ↔ _
  rw [hliterals, hsame k, hchosen.literal_iff k v hv, Bool.not_eq_false]
  constructor
  · exact fun hall => hall.2.1
  · exact fun huntouched => ⟨rfl, huntouched, (untouchedIn_eq_true.mp huntouched).2.2.1, hv⟩

end

/-- **An untouched key keeps its wire form**, and writing again over the new text changes nothing,
in whichever order the sets are gone through. -/
theorem serializeDokployEnvText_keepsWire (O O' : SetOrder) (henv : env.keys.Nodup)
    {composeType : String} (hstack : composeType ≠ "stack") {current : Chars}
    {requested : List Chars} {text : Chars}
    (h : serializeDokployEnvText O env "compose" composeType (some current) requested = .ok text) :
    (∀ key value, env.get key = some value → key ∉ requested →
      key ∉ composeLiteralKeys O current → (parseDokployEnvText O current).get key = some value →
        (parseDotenv text).get key = (parseDotenv current).get key ∧
          (key ∈ (legacyProviderEnvironment O' text).2 ↔
            key ∈ (legacyProviderEnvironment O current).2)) ∧
      serializeDokployEnvText O' env "compose" composeType (some text) requested = .ok text := by
  obtain ⟨literals, literalKeys, legacyKeys, metadata, escaped, rendered, hwritten, hchosen⟩ :=
    written_of_eq_ok henv hstack h
  refine ⟨fun key value hvalue hrequested hliteral hprevious => ?_, ?_⟩
  · have huntouched : untouchedIn O (some current) requested key value = true :=
      untouchedIn_eq_true.mpr ⟨rfl, hliteral, hrequested, hprevious⟩
    exact ⟨hwritten.wire_kept hchosen henv hvalue huntouched,
      hwritten.legacy_kept hchosen henv hvalue huntouched⟩
  · have hrequested : ∀ key ∈ requested, key ∈ env.keys := by
      unfold serializeDokployEnvText at h
      obtain ⟨hmanaged, -⟩ := guard_eq_ok.mp h
      intro key hkey
      by_contra hunmanaged
      exact raiseIf_eq_ok.mp hmanaged ⟨key, hkey, hunmanaged⟩
    rw [serializeDokployEnvText_compose O hstack _ hrequested] at h
    rw [serializeDokployEnvText_compose O' hstack _ hrequested, ← h]
    refine composeText_congr henv (fun k v hv => hwritten.untouched_kept hchosen henv hv)
      (fun k v hv huntouched => ?_) (fun k v hv huntouched => ?_)
    · rw [hwritten.untouched_kept hchosen henv hv] at huntouched
      exact hwritten.wire_kept hchosen henv hv huntouched
    · rw [hwritten.untouched_kept hchosen henv hv] at huntouched
      rw [List.contains_eq_mem, List.contains_eq_mem, decide_eq_decide]
      exact hwritten.legacy_kept hchosen henv hv huntouched

/-- A password of the first generation, and an ordinary value. -/
def legacyText : Chars :=
  "# launchplane:compose-dotenv-v1 P\nP='\"a\\0044\\0044b\"'\nQ=old".toList

def legacyEnvironment : Dict Chars Chars := [("P".toList, "a$b".toList), ("Q".toList, "new".toList)]

/-- What is written when only the ordinary value changes. -/
def rewrittenText : Chars :=
  ("# launchplane:compose-dotenv-v2 Q\n# launchplane:compose-dotenv-v1 P\n" ++
    "P='\"a\\0044\\0044b\"'\nQ=new").toList

theorem serializeDokployEnvText_keepsWire_sample :
    (parseDotenv rewrittenText).get "P".toList = (parseDotenv legacyText).get "P".toList ∧
      ("P".toList ∈ (legacyProviderEnvironment SetOrder.found rewrittenText).2 ↔
        "P".toList ∈ (legacyProviderEnvironment SetOrder.found legacyText).2) ∧
      serializeDokployEnvText SetOrder.found legacyEnvironment "compose" "docker-compose"
        (some rewrittenText) [] = .ok rewrittenText := by
  have hwritten : serializeDokployEnvText SetOrder.found legacyEnvironment "compose"
      "docker-compose" (some legacyText) [] = .ok rewrittenText := by decide +kernel
  obtain ⟨hkept, hagain⟩ := serializeDokployEnvText_keepsWire SetOrder.found SetOrder.found
    (show legacyEnvironment.keys.Nodup by decide) (show "docker-compose" ≠ "stack" by decide)
    hwritten
  obtain ⟨hwire, hlegacy⟩ := hkept "P".toList "a$b".toList (by decide) (by simp)
    (by decide +kernel) (by decide +kernel)
  exact ⟨hwire, hlegacy, hagain⟩

end Launchplane.Dokploy
