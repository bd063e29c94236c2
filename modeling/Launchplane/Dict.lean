import Mathlib.Algebra.GroupWithZero.Nat
import Mathlib.Data.List.Dedup
import Mathlib.Data.List.Nodup

/-!
# Launchplane.Dict

**Insertion-ordered maps.** A map is the list of its items, in the order in
which their keys were first set. Two maps are the `Same` when they answer every
lookup alike, whatever the order of their items.
-/

namespace Launchplane

section

variable {α : Type} [DecidableEq α]

/-- `tuple(dict.fromkeys(xs))`: each value once, where it came first. -/
def fromKeys (xs : List α) : List α := xs.reverse.dedup.reverse

@[simp] theorem fromKeys_fromKeys (xs : List α) : fromKeys (fromKeys xs) = fromKeys xs := by
  simp [fromKeys]

@[simp] theorem mem_fromKeys {x : α} {xs : List α} : x ∈ fromKeys xs ↔ x ∈ xs := by
  simp [fromKeys]

theorem nodup_fromKeys (xs : List α) : (fromKeys xs).Nodup :=
  List.nodup_reverse.mpr (List.nodup_dedup _)

end

/-- The items of a map, in insertion order. -/
abbrev Dict (κ β : Type) : Type := List (κ × β)

namespace Dict

variable {κ β : Type}

/-- `d.keys()`. -/
def keys (d : Dict κ β) : List κ := d.map Prod.fst

@[simp] theorem keys_nil : keys ([] : Dict κ β) = [] := rfl

theorem keys_cons (item : κ × β) (d : Dict κ β) : keys (item :: d) = item.1 :: d.keys := rfl

theorem mem_keys_cons {item : κ × β} {d : Dict κ β} {k : κ} :
    k ∈ keys (item :: d) ↔ k = item.1 ∨ k ∈ d.keys := List.mem_cons

variable [DecidableEq κ]

/-- `d.get(k)`. -/
def get (d : Dict κ β) (k : κ) : Option β := (d.find? (·.1 = k)).map Prod.snd

/-- `d[k] = v`: a key that is there keeps its place. -/
def set (d : Dict κ β) (k : κ) (v : β) : Dict κ β :=
  if k ∈ d.keys then d.map fun item => if item.1 = k then (k, v) else item else d ++ [(k, v)]

/-- `d.pop(k)`. -/
def erase (d : Dict κ β) (k : κ) : Dict κ β := d.filter (·.1 ≠ k)

/-- `{**d, **d'}`. -/
def update (d d' : Dict κ β) : Dict κ β := d'.foldl (fun d item => d.set item.1 item.2) d

/-- `{k: f(k, v) for k, v in d.items()}`, with the first error of `f`. -/
def mapValues {ε γ : Type} (f : κ → β → Except ε γ) (d : Dict κ β) : Except ε (Dict κ γ) :=
  d.mapM fun item => do
    let value ← f item.1 item.2
    return (item.1, value)

/-- `d == d'`. -/
def Same (d d' : Dict κ β) : Prop := ∀ k, d.get k = d'.get k

@[simp] theorem get_nil (k : κ) : get ([] : Dict κ β) k = none := rfl

theorem get_cons (item : κ × β) (d : Dict κ β) (k : κ) :
    get (item :: d) k = if item.1 = k then some item.2 else d.get k := by
  unfold get
  by_cases h : item.1 = k <;> simp [h]

theorem get_eq_none {d : Dict κ β} {k : κ} : d.get k = none ↔ k ∉ d.keys := by
  induction d with
  | nil => simp [keys]
  | cons item d ih =>
      rw [get_cons]
      by_cases h : item.1 = k
      · simp [h, keys]
      · rw [if_neg h, ih]
        simp [keys, Ne.symm h]

theorem isSome_get {d : Dict κ β} {k : κ} : (d.get k).isSome = true ↔ k ∈ d.keys := by
  rw [Option.isSome_iff_ne_none, ne_eq, get_eq_none, not_not]

theorem mem_of_get {d : Dict κ β} {k : κ} {v : β} (h : d.get k = some v) : (k, v) ∈ d := by
  induction d with
  | nil => cases h
  | cons item d ih =>
      rw [get_cons] at h
      split at h
      · rename_i hk
        obtain rfl := Option.some.inj h
        exact hk ▸ List.mem_cons_self
      · exact List.mem_cons_of_mem _ (ih h)

theorem get_of_mem {d : Dict κ β} (hd : d.keys.Nodup) {k : κ} {v : β} (h : (k, v) ∈ d) :
    d.get k = some v := by
  induction d with
  | nil => cases h
  | cons item d ih =>
      rw [keys, List.map_cons, List.nodup_cons] at hd
      rw [get_cons]
      rcases List.mem_cons.mp h with rfl | h
      · rw [if_pos rfl]
      · have hne : item.1 ≠ k := by
          intro hk
          exact hd.1 (hk ▸ List.mem_map_of_mem h)
        rw [if_neg hne, ih hd.2 h]

theorem get_map_set {d : Dict κ β} {k : κ} {v : β} (j : κ) :
    get (d.map fun item => if item.1 = k then (k, v) else item) j =
      if j = k ∧ k ∈ d.keys then some v else d.get j := by
  induction d with
  | nil => simp
  | cons item d ih =>
      rw [List.map_cons, get_cons, get_cons, ih]
      by_cases hitem : item.1 = k
      · by_cases hj : j = k
        · simp [hitem, hj, mem_keys_cons]
        · simp [hitem, hj, Ne.symm hj]
      · by_cases hj : j = k
        · simp [hitem, hj, mem_keys_cons, Ne.symm hitem]
        · simp [hitem, hj]

theorem get_append (d d' : Dict κ β) (k : κ) :
    get (d ++ d') k = if k ∈ d.keys then d.get k else d'.get k := by
  induction d with
  | nil => simp
  | cons item d ih =>
      rw [List.cons_append, get_cons, get_cons, ih]
      by_cases h : item.1 = k
      · simp [h, mem_keys_cons]
      · simp [h, mem_keys_cons, Ne.symm h]

@[simp] theorem get_set (d : Dict κ β) (k : κ) (v : β) (j : κ) :
    (d.set k v).get j = if j = k then some v else d.get j := by
  unfold set
  by_cases hk : k ∈ d.keys
  · rw [if_pos hk, get_map_set]
    simp [hk]
  · rw [if_neg hk, get_append]
    by_cases hj : j = k
    · rw [hj, if_neg hk, if_pos rfl, get_cons, if_pos rfl]
    · rw [if_neg hj]
      split
      · rfl
      · rename_i hout
        rw [get_cons, if_neg (Ne.symm hj), get_nil, get_eq_none.mpr hout]

theorem mem_set {d : Dict κ β} {k : κ} {v : β} {item : κ × β} (h : item ∈ d.set k v) :
    item = (k, v) ∨ item ∈ d := by
  unfold set at h
  split at h
  · obtain ⟨other, hother, rfl⟩ := List.mem_map.mp h
    split
    · exact .inl rfl
    · exact .inr hother
  · rcases List.mem_append.mp h with hold | hnew
    · exact .inr hold
    · exact .inl (List.mem_singleton.mp hnew)

/-- A map that keeps the keys of a kind. -/
theorem get_filter (d : Dict κ β) (p : κ → Bool) (k : κ) :
    get (d.filter fun item => p item.1) k = if p k = true then d.get k else none := by
  induction d with
  | nil => simp
  | cons item d ih =>
      by_cases hitem : p item.1 = true
      · rw [List.filter_cons, if_pos hitem, get_cons, ih, get_cons]
        by_cases hk : item.1 = k
        · simp [← hk, hitem]
        · simp [hk]
      · rw [List.filter_cons, if_neg hitem, ih, get_cons]
        by_cases hk : item.1 = k
        · simp [← hk, hitem]
        · simp [hk]

theorem get_erase (d : Dict κ β) (k j : κ) :
    (d.erase k).get j = if j = k then none else d.get j := by
  have hfilter := get_filter d (fun key => decide (key ≠ k)) j
  by_cases hj : j = k <;> simpa [erase, hj] using hfilter

omit [DecidableEq κ] in
@[simp] theorem keys_map {γ : Type} (d : Dict κ β) (f : β → γ) :
    keys (d.map fun item => (item.1, f item.2)) = d.keys := by
  simp [keys]

theorem get_map {γ : Type} (d : Dict κ β) (f : β → γ) (k : κ) :
    get (d.map fun item => (item.1, f item.2)) k = (d.get k).map f := by
  induction d with
  | nil => rfl
  | cons item d ih =>
      rw [List.map_cons, get_cons, get_cons, ih]
      split <;> rfl

/-- Maps that agree on the keys of either agree everywhere. -/
theorem same_iff {d d' : Dict κ β} :
    d.Same d' ↔ ∀ k ∈ d.keys ++ d'.keys, d.get k = d'.get k := by
  constructor
  · exact fun h k _ => h k
  · intro h k
    by_cases hk : k ∈ d.keys ++ d'.keys
    · exact h k hk
    · rw [List.mem_append, not_or] at hk
      rw [get_eq_none.mpr hk.1, get_eq_none.mpr hk.2]

instance [DecidableEq β] (d d' : Dict κ β) : Decidable (d.Same d') :=
  decidable_of_iff _ same_iff.symm

theorem mem_iff_get {d : Dict κ β} (hd : d.keys.Nodup) {k : κ} {v : β} :
    (k, v) ∈ d ↔ d.get k = some v := ⟨get_of_mem hd, mem_of_get⟩

/-- Maps that are the same have the same items. -/
theorem Same.perm {d d' : Dict κ β} (h : d.Same d') (hd : d.keys.Nodup) (hd' : d'.keys.Nodup) :
    d.Perm d' := by
  refine (List.perm_ext_iff_of_nodup (List.Nodup.of_map _ hd) (List.Nodup.of_map _ hd')).mpr ?_
  intro item
  obtain ⟨k, v⟩ := item
  rw [mem_iff_get hd, mem_iff_get hd', h k]

omit [DecidableEq κ] in
theorem mem_keys_of_mem {d : Dict κ β} {item : κ × β} (h : item ∈ d) : item.1 ∈ d.keys :=
  List.mem_map_of_mem h

theorem mem_keys_iff_of_same {d d' : Dict κ β} (h : d.Same d') {k : κ} :
    k ∈ d.keys ↔ k ∈ d'.keys := by
  rw [← not_iff_not, ← get_eq_none, ← get_eq_none, h k]

theorem keys_set (d : Dict κ β) (k : κ) (v : β) :
    (d.set k v).keys = if k ∈ d.keys then d.keys else d.keys ++ [k] := by
  unfold set
  split
  · unfold keys
    rw [List.map_map]
    refine List.map_congr_left ?_
    intro item _
    by_cases hitem : item.1 = k
    · simp [hitem]
    · simp [hitem]
  · simp [keys]

theorem mem_keys_set {d : Dict κ β} {k j : κ} {v : β} :
    j ∈ (d.set k v).keys ↔ j ∈ d.keys ∨ j = k := by
  rw [keys_set]
  split
  · rename_i hk
    exact ⟨.inl, fun h => h.elim id fun heq => heq ▸ hk⟩
  · simp

theorem nodup_keys_set {d : Dict κ β} (hd : d.keys.Nodup) (k : κ) (v : β) :
    (d.set k v).keys.Nodup := by
  rw [keys_set]
  split
  · exact hd
  · rename_i hk
    rw [List.nodup_append]
    refine ⟨hd, by simp, ?_⟩
    intro a ha b hb hab
    rw [List.mem_singleton] at hb
    exact hk (hb ▸ hab ▸ ha)

/-- Setting a key adds at most what the new item measures. -/
theorem sum_set_le (f : κ × β → Nat) {d : Dict κ β} (hd : d.keys.Nodup) (k : κ) (v : β) :
    ((d.set k v).map f).sum ≤ (d.map f).sum + f (k, v) := by
  unfold set
  split
  · rename_i hk
    clear hk
    induction d with
    | nil => simp
    | cons item d ih =>
        rw [keys, List.map_cons, List.nodup_cons] at hd
        simp only [List.map_cons, List.sum_cons]
        by_cases hitem : item.1 = k
        · -- the other items have other keys, so nothing else changes
          have hrest : d.map (fun item => if item.1 = k then (k, v) else item) = d := by
            refine (List.map_congr_left ?_).trans (List.map_id d)
            intro other hother
            have hne : other.1 ≠ k := by
              intro heq
              exact hd.1 (hitem ▸ heq ▸ List.mem_map_of_mem hother)
            rw [if_neg hne]
            rfl
          rw [if_pos hitem, hrest]
          omega
        · have htail := ih hd.2
          rw [if_neg hitem]
          omega
  · simp

/-! ### Whole maps -/

theorem update_cons (d : Dict κ β) (item : κ × β) (d' : Dict κ β) :
    d.update (item :: d') = (d.set item.1 item.2).update d' := rfl

theorem nodup_keys_update {d : Dict κ β} (hd : d.keys.Nodup) (d' : Dict κ β) :
    (d.update d').keys.Nodup := by
  induction d' generalizing d with
  | nil => exact hd
  | cons item d' ih => exact ih (nodup_keys_set hd _ _)

theorem mem_keys_update {d d' : Dict κ β} {k : κ} :
    k ∈ (d.update d').keys ↔ k ∈ d.keys ∨ k ∈ d'.keys := by
  induction d' generalizing d with
  | nil => simp [update]
  | cons item d' ih =>
      rw [update_cons, ih, mem_keys_set, mem_keys_cons, or_assoc]

/-- The later map decides about its keys. -/
theorem get_update {d d' : Dict κ β} (hd' : d'.keys.Nodup) (k : κ) :
    (d.update d').get k = if k ∈ d'.keys then d'.get k else d.get k := by
  induction d' generalizing d with
  | nil => simp [update]
  | cons item d' ih =>
      rw [keys_cons, List.nodup_cons] at hd'
      rw [update_cons, ih hd'.2, get_set, get_cons, keys_cons]
      by_cases hk : k = item.1
      · rw [hk, if_neg hd'.1]
        simp
      · simp [hk, Ne.symm hk]

theorem get_update_or_of_nodup {d d' : Dict κ β} (hd' : d'.keys.Nodup) (k : κ) :
    (d.update d').get k = (d'.get k).or (d.get k) := by
  rw [get_update hd']
  split
  · rename_i hk
    obtain ⟨v, hv⟩ := Option.isSome_iff_exists.mp (isSome_get.mpr hk)
    rw [hv, Option.some_or]
  · rename_i hk
    rw [get_eq_none.mpr hk, Option.none_or]

/-- The last item of a key decides, and where there is none the map before. -/
theorem get_update_or (d d' : Dict κ β) (k : κ) :
    (d.update d').get k = ((update [] d').get k).or (d.get k) := by
  induction d' generalizing d with
  | nil => rfl
  | cons item d' ih =>
      rw [update_cons, update_cons, ih, ih (set [] item.1 item.2), get_set, get_set]
      by_cases hk : k = item.1 <;> cases (update [] d').get k <;> simp [hk]

/-- Without any order of the items: what a map was updated to is an item of the later map. -/
theorem mem_of_get_update {d d' : Dict κ β} {k : κ} {v : β} (h : (d.update d').get k = some v) :
    (k, v) ∈ d' ∨ k ∉ d'.keys ∧ d.get k = some v := by
  induction d' generalizing d with
  | nil => exact .inr ⟨List.not_mem_nil, h⟩
  | cons item d' ih =>
      rw [update_cons] at h
      rcases ih h with hmem | hout
      · exact .inl (List.mem_cons_of_mem _ hmem)
      · obtain ⟨hk, hget⟩ := hout
        rw [get_set] at hget
        split at hget
        · rename_i heq
          obtain rfl := Option.some.inj hget
          exact .inl (heq ▸ List.mem_cons_self)
        · rename_i hne
          refine .inr ⟨?_, hget⟩
          rw [keys_cons, List.mem_cons, not_or]
          exact ⟨hne, hk⟩

omit [DecidableEq κ] in
theorem mapValues_congr {ε γ : Type} {f g : κ → β → Except ε γ} {d : Dict κ β}
    (h : ∀ item ∈ d, f item.1 item.2 = g item.1 item.2) : d.mapValues f = d.mapValues g := by
  unfold mapValues
  induction d with
  | nil => rfl
  | cons item d ih =>
      rw [List.mapM_cons, List.mapM_cons, h item List.mem_cons_self,
        ih fun other hother => h other (List.mem_cons_of_mem _ hother)]

/-- A map whose values were computed has its keys, and the computed values. -/
theorem mapValues_eq_ok {ε γ : Type} {f : κ → β → Except ε γ} {d : Dict κ β} {d' : Dict κ γ}
    (h : d.mapValues f = .ok d') :
    d'.keys = d.keys ∧ ∀ k v, d.get k = some v → ∃ w, f k v = .ok w ∧ d'.get k = some w := by
  induction d generalizing d' with
  | nil =>
      cases h
      exact ⟨rfl, fun k v hget => by cases hget⟩
  | cons item d ih =>
      unfold mapValues at h ih
      rw [List.mapM_cons] at h
      cases hvalue : f item.1 item.2 with
      | error e =>
          rw [hvalue] at h
          cases h
      | ok w =>
          rw [hvalue] at h
          cases hrest : d.mapM (fun item => do
              let value ← f item.1 item.2
              return (item.1, value)) with
          | error e =>
              rw [hrest] at h
              cases h
          | ok rest =>
              rw [hrest] at h
              obtain rfl := Except.ok.inj h
              obtain ⟨hkeys, hget⟩ := ih hrest
              refine ⟨by rw [keys_cons, keys_cons, hkeys], ?_⟩
              intro k v hkv
              rw [get_cons] at hkv
              by_cases hk : item.1 = k
              · rw [if_pos hk] at hkv
                obtain rfl := Option.some.inj hkv
                exact ⟨w, hk ▸ hvalue, by rw [get_cons, if_pos hk]⟩
              · rw [if_neg hk] at hkv
                obtain ⟨w', hw', hget'⟩ := hget k v hkv
                exact ⟨w', hw', by rw [get_cons, if_neg hk, hget']⟩

end Dict

end Launchplane
