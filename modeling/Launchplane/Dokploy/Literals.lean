import Launchplane.Dokploy.CommentLines

/-!
# Launchplane.Dokploy.Literals

**References give their characters back.** A literal is written with references
to binding variables in place of four characters. The bindings a reader finds in
the metadata are the names the writer chose, so restoring the references gives
the literal, and writing it again gives the same text, which is how a reader
knows that the text was a literal.
-/

namespace Launchplane.Dokploy

open Launchplane.Regex Launchplane.Regex.Matcher

/-! ### Restoring references -/

/-- A name that can stand in a reference. -/
def IsName (name : Chars) : Prop := name ≠ [] ∧ ∀ c ∈ name, isKeyChar c = true

theorem reference_head {name : Chars} (h : IsName name) (rest : Chars) :
    (reference (composeReference name ++ rest)).head? = some (name, rest) := by
  have hfree : ∀ c ∈ name, (c != '{' && c != '}') = true := by
    intro c hc
    have hkey := h.2 c hc
    rw [Bool.and_eq_true, bne_iff_ne, bne_iff_ne]
    refine ⟨?_, ?_⟩
    · rintro rfl
      revert hkey
      decide
    · rintro rfl
      revert hkey
      decide
  have htext : composeReference name ++ rest = ['$', '{'] ++ (name ++ '}' :: rest) := by
    simp [composeReference]
  rw [htext]
  exact head?_bind (head?_literal _ _) (head?_bind (head?_some1 hfree h.1 (by decide) rest)
    (head?_bind (head?_satisfy (by decide) rest) rfl))

theorem reference_eq_nil {c : Char} (hc : c ≠ '$') (rest : Chars) :
    reference (c :: rest) = [] := by
  refine List.eq_nil_iff_forall_not_mem.mpr fun found hfound => ?_
  obtain ⟨opening, mid, hopening, -⟩ := mem_bind.mp (show (found.1, found.2) ∈ _ from hfound)
  have htext := (mem_literal hopening).2
  exact hc (List.cons.inj htext).1

/-- The bindings hold what the names say. -/
def Restores (names : Dict Char Chars) (bindings : Dict Chars Char) : Prop :=
  ∀ c name, names.get c = some name → IsName name ∧ bindings.get name = some c

theorem scan_restore {names : Dict Char Chars} {bindings : Dict Chars Char}
    (h : Restores names bindings) {literal wire : Chars}
    (hwire : composeValue names literal = some wire) {n : Nat} (hn : wire.length < n)
    (before : Option Char) :
    (scanUpTo (fun _ => true) reference n before wire).flatMap (fun
      | .skip c => [c]
      | .hit name consumed => ((bindings.get name).map fun c => [c]).getD consumed) = literal := by
  induction literal generalizing wire n before with
  | nil =>
      obtain rfl := Option.some.inj hwire
      cases n with
      | zero => exact absurd hn (Nat.not_lt_zero _)
      | succ n => rfl
  | cons c literal ih =>
      cases n with
      | zero => exact absurd hn (Nat.not_lt_zero _)
      | succ n =>
          rw [composeValue] at hwire
          split at hwire
          · -- a character with a name: the scan finds its reference
            obtain ⟨name, hname, hrest⟩ := Option.bind_eq_some_iff.mp hwire
            obtain ⟨rest, hliteral, hrest⟩ := Option.bind_eq_some_iff.mp hrest
            obtain rfl := Option.some.inj hrest
            obtain ⟨hisName, hbinding⟩ := h c name hname
            have hlength : rest.length < n := by
              rw [List.length_append] at hn
              simp only [composeReference, List.length_append, List.length_cons] at hn
              omega
            unfold scanUpTo
            rw [if_pos rfl, reference_head hisName]
            simp only [List.flatMap_cons]
            rw [ih hliteral hlength, hbinding]
            rfl
          · rename_i hplain
            obtain ⟨rest, hliteral, hrest⟩ := Option.bind_eq_some_iff.mp hwire
            obtain rfl := Option.some.inj hrest
            have hc : c ≠ '$' := by
              rintro rfl
              exact hplain (by decide)
            have hlength : rest.length < n := by
              rw [List.length_cons] at hn
              omega
            unfold scanUpTo
            rw [if_pos rfl, reference_eq_nil hc]
            simp only [List.head?_nil, List.flatMap_cons]
            rw [ih hliteral hlength]
            rfl

/-- **Restoring the references of a written literal gives the literal.** -/
theorem restoreCharacters_composeValue {names : Dict Char Chars} {bindings : Dict Chars Char}
    (h : Restores names bindings) {literal wire : Chars}
    (hwire : composeValue names literal = some wire) : restoreCharacters bindings wire = literal :=
  scan_restore h hwire (Nat.lt_succ_self _) none

theorem composeValue_congr {names names' : Dict Char Chars} (h : names.Same names')
    (literal : Chars) : composeValue names literal = composeValue names' literal := by
  induction literal with
  | nil => rfl
  | cons c literal ih => rw [composeValue, composeValue, ih, h c]

/-! ### Reading the bindings -/

/-- The bindings of a reader are exactly the names of a writer. -/
structure Agree (names : Dict Char Chars) (bindings : Dict Chars Char) : Prop where
  nodup : bindings.keys.Nodup
  iff : ∀ name c, bindings.get name = some c ↔ names.get c = some name

/-- `{character: name}` of the bindings is what the writer had. -/
theorem bindingNames_same {names : Dict Char Chars} {bindings : Dict Chars Char}
    (h : Agree names bindings) : (bindingNames bindings).Same names := by
  have hupdate : bindingNames bindings =
      Dict.update [] (bindings.map fun item => (item.2, item.1)) := by
    rw [bindingNames, Dict.update, List.foldl_map]
  have hsound : ∀ c name, (bindingNames bindings).get c = some name → names.get c = some name := by
    intro c name hget
    rw [hupdate] at hget
    rcases Dict.mem_of_get_update hget with hmem | hout
    · obtain ⟨item, hitem, heq⟩ := List.mem_map.mp hmem
      obtain ⟨rfl, rfl⟩ := Prod.mk.inj heq
      exact (h.iff _ _).mp (Dict.get_of_mem h.nodup hitem)
    · cases hout.2
  intro c
  cases hnames : names.get c with
  | some name =>
      have hbinding := Dict.mem_of_get ((h.iff name c).mpr hnames)
      have hkey : c ∈ (bindingNames bindings).keys := by
        rw [hupdate]
        exact Dict.mem_keys_update.mpr (.inr (List.mem_map_of_mem (List.mem_map_of_mem hbinding)))
      obtain ⟨name', hname'⟩ := Option.isSome_iff_exists.mp (Dict.isSome_get.mpr hkey)
      rw [hname', ← hnames, hsound c name' hname']
  | none =>
      cases hget : (bindingNames bindings).get c with
      | none => rfl
      | some name =>
          have := hsound c name hget
          rw [hnames] at this
          cases this

/-- The words with an equals sign are the bindings of the names, and the text holds them. -/
structure Tokens (names : Dict Char Chars) (values : Dict Chars Chars) (metadata : List Chars) :
    Prop where
  injective : ∀ c c' name, names.get c = some name → names.get c' = some name → c = c'
  held : ∀ c name, names.get c = some name → values.get name = some [c]
  sound : ∀ token ∈ metadata, '=' ∈ token → ∃ role c name, token = bindingToken role name ∧
    '=' ∉ role ∧ composeCharacters.get role = some c ∧ names.get c = some name
  complete : ∀ c name, names.get c = some name →
    ∃ role, bindingToken role name ∈ metadata ∧ '=' ∉ role ∧ composeCharacters.get role = some c

theorem bindingToken_parts {role : Chars} (name : Chars) (h : '=' ∉ role) :
    (bindingToken role name).takeWhile (· ≠ '=') = role ∧
      ((bindingToken role name).dropWhile (· ≠ '=')).tail = name := by
  have hrole : ∀ c ∈ role, decide (c ≠ '=') = true := by
    intro c hc
    rw [decide_eq_true_eq]
    rintro rfl
    exact h hc
  unfold bindingToken
  rw [List.takeWhile_append_of_pos hrole, List.dropWhile_append_of_pos hrole]
  simp

theorem readToken_bindingToken {values : Dict Chars Chars} {role name : Chars} {c : Char}
    (hrole : '=' ∉ role) (hchar : composeCharacters.get role = some c)
    (hheld : values.get name = some [c]) (bindings : Dict Chars Char) :
    readToken values bindings (bindingToken role name) = some (bindings.set name c) := by
  obtain ⟨htake, hdrop⟩ := bindingToken_parts name hrole
  have hequals : '=' ∈ bindingToken role name := by simp [bindingToken]
  unfold readToken
  rw [if_pos hequals]
  dsimp only
  rw [htake, hdrop, hchar]
  exact if_pos hheld

/-- One word keeps what is known of the bindings. -/
theorem foldlM_readToken {names : Dict Char Chars} {values : Dict Chars Chars}
    {metadata : List Chars} (h : Tokens names values metadata) {tokens : List Chars}
    (htokens : ∀ token ∈ tokens, token ∈ metadata) (bindings : Dict Chars Char)
    (hnodup : bindings.keys.Nodup)
    (hsound : ∀ name c, bindings.get name = some c → names.get c = some name) :
    ∃ result, tokens.foldlM (readToken values) bindings = some result ∧ result.keys.Nodup ∧
      (∀ name c, result.get name = some c → names.get c = some name) ∧
      (∀ name ∈ bindings.keys, name ∈ result.keys) ∧
      ∀ role name, '=' ∉ role → bindingToken role name ∈ tokens → name ∈ result.keys := by
  induction tokens generalizing bindings with
  | nil => exact ⟨bindings, rfl, hnodup, hsound, fun _ => id, fun _ _ _ hmem => by cases hmem⟩
  | cons token tokens ih =>
      have htail : ∀ other ∈ tokens, other ∈ metadata := fun other hother =>
        htokens other (List.mem_cons_of_mem _ hother)
      rw [List.foldlM_cons]
      by_cases hequals : '=' ∈ token
      · obtain ⟨role, c, name, rfl, hrole, hrolechar, hname⟩ :=
          h.sound token (htokens token List.mem_cons_self) hequals
        have hsound' : ∀ name' c', (bindings.set name c).get name' = some c' →
            names.get c' = some name' := by
          intro name' c' hget
          rw [Dict.get_set] at hget
          split at hget
          · rename_i heq
            obtain rfl := Option.some.inj hget
            exact heq ▸ hname
          · exact hsound name' c' hget
        obtain ⟨result, hfold, hnodup', hresult, hkeep, hall⟩ :=
          ih htail _ (Dict.nodup_keys_set hnodup name c) hsound'
        rw [readToken_bindingToken hrole hrolechar (h.held c name hname)]
        refine ⟨result, hfold, hnodup', hresult,
          fun other hother => hkeep other (Dict.mem_keys_set.mpr (.inl hother)), ?_⟩
        intro role' name' hrole' hmem
        rcases List.mem_cons.mp hmem with heq | hmem
        · have hsame : name' = name := by
            rw [← (bindingToken_parts name' hrole').2, heq, (bindingToken_parts name hrole).2]
          exact hkeep name' (Dict.mem_keys_set.mpr (.inr hsame))
        · exact hall role' name' hrole' hmem
      · obtain ⟨result, hfold, hnodup', hresult, hkeep, hall⟩ :=
          ih htail bindings hnodup hsound
        rw [readToken, if_neg hequals]
        refine ⟨result, hfold, hnodup', hresult, hkeep, ?_⟩
        intro role name hrole hmem
        rcases List.mem_cons.mp hmem with heq | hmem
        · exact absurd (heq ▸ by simp [bindingToken]) hequals
        · exact hall role name hrole hmem

/-- **A reader finds the bindings of the writer.** -/
theorem readBindings_agree {names : Dict Char Chars} {values : Dict Chars Chars}
    {metadata : List Chars} (h : Tokens names values metadata) :
    ∃ bindings, readBindings values metadata = some bindings ∧ Agree names bindings := by
  obtain ⟨bindings, hread, hnodup, hsound, -, hall⟩ :=
    foldlM_readToken h (fun _ htoken => htoken) [] List.nodup_nil
      (fun name c hget => by cases hget)
  refine ⟨bindings, hread, hnodup, fun name c => ⟨hsound name c, ?_⟩⟩
  intro hname
  obtain ⟨role, hmem, hrole, -⟩ := h.complete c name hname
  obtain ⟨c', hc'⟩ := Option.isSome_iff_exists.mp (Dict.isSome_get.mpr (hall role name hrole hmem))
  rw [hc', h.injective c' c name (hsound name c' hc') hname]

/-! ### Decoding keys -/

theorem keys_set_of_mem {values : Dict Chars Chars} {key : Chars} (h : key ∈ values.keys)
    (value : Chars) : (values.set key value).keys = values.keys := by
  rw [Dict.keys_set, if_pos h]

/-- **The loops that decode** touch the keys they are given, each once, and only where the decoder
accepts the value. -/
theorem foldl_decodeKey (decode : Chars → Option Chars) {keys : List Chars} (hkeys : keys.Nodup)
    (state : Dict Chars Chars × List Chars) :
    (keys.foldl (decodeKey decode) state).1.keys = state.1.keys ∧
      (∀ k, (keys.foldl (decodeKey decode) state).1.get k =
        if k ∈ keys then ((state.1.get k).bind decode).or (state.1.get k) else state.1.get k) ∧
      ∀ k, k ∈ (keys.foldl (decodeKey decode) state).2 ↔
        k ∈ state.2 ∨ k ∈ keys ∧ ((state.1.get k).bind decode).isSome = true := by
  induction keys generalizing state with
  | nil => simp
  | cons key keys ih =>
      rw [List.nodup_cons] at hkeys
      obtain ⟨hsameKeys, hget, hdecoded⟩ := ih hkeys.2 (decodeKey decode state key)
      rw [List.foldl_cons]
      cases hdecode : (state.1.get key).bind decode with
      | none =>
          have hstate : decodeKey decode state key = state := by rw [decodeKey, hdecode]
          rw [hstate] at hsameKeys hget hdecoded
          rw [hstate]
          refine ⟨hsameKeys, fun k => ?_, fun k => ?_⟩
          · rw [hget k]
            by_cases hk : k = key
            · rw [hk, if_neg hkeys.1, if_pos List.mem_cons_self, hdecode, Option.none_or]
            · simp [hk]
          · rw [hdecoded k]
            by_cases hk : k = key
            · simp [hk, hdecode, hkeys.1]
            · simp [hk]
      | some literal =>
          have hstate : decodeKey decode state key =
              (state.1.set key literal, state.2 ++ [key]) := by rw [decodeKey, hdecode]
          have hmem : key ∈ state.1.keys := by
            rw [← Dict.isSome_get]
            cases hvalue : state.1.get key with
            | some value => rfl
            | none =>
                rw [hvalue] at hdecode
                cases hdecode
          rw [hstate] at hsameKeys hget hdecoded
          rw [hstate]
          refine ⟨hsameKeys.trans (keys_set_of_mem hmem literal), fun k => ?_, fun k => ?_⟩
          · rw [hget k]
            by_cases hk : k = key
            · rw [hk, if_neg hkeys.1, if_pos List.mem_cons_self, hdecode, Dict.get_set, if_pos rfl]
              rfl
            · simp [hk]
          · rw [hdecoded k]
            by_cases hk : k = key
            · simp [hk, hdecode]
            · simp [hk]

end Launchplane.Dokploy
