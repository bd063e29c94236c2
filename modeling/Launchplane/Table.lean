import Mathlib.Data.List.Sort
import Mathlib.Data.Prod.Lex

/-!
# Launchplane.Table

**Tables with a primary key, and sorted listings of rows.** A `Table` has at most
one row for every key. `merge` writes a row, in place of the row with its key if
there is one.

A listing is sorted by a value of a linear order. When no two rows have the same
value, the listing depends on nothing but which rows there are, so a listing and
a search in it may be restricted to the rows that matter.
-/

namespace Launchplane

/-- The rows of a table whose primary key is `key`. -/
structure Table (β : Type) {κ : Type} (key : β → κ) where
  rows : List β
  nodup : (rows.map key).Nodup

namespace Table

variable {β κ : Type} {key : β → κ}

/-- A table without rows. -/
def empty : Table β key := ⟨[], List.nodup_nil⟩

@[simp] theorem rows_empty : (empty : Table β key).rows = [] := rfl

theorem eq_of_key_eq (t : Table β key) {row row' : β} (h : row ∈ t.rows) (h' : row' ∈ t.rows)
    (hkey : key row = key row') : row = row' :=
  List.inj_on_of_nodup_map t.nodup h h' hkey

theorem nodup_rows (t : Table β key) : t.rows.Nodup := List.Nodup.of_map key t.nodup

variable [DecidableEq κ]

/-- The row of a key. -/
def get (t : Table β key) (k : κ) : Option β := t.rows.find? (key · = k)

theorem get_eq_some {t : Table β key} {k : κ} {row : β} :
    t.get k = some row ↔ row ∈ t.rows ∧ key row = k := by
  constructor
  · intro h
    exact ⟨List.mem_of_find?_eq_some h, by simpa using List.find?_some h⟩
  · intro ⟨hmem, hkey⟩
    cases hget : t.get k with
    | none =>
        have hnone := List.find?_eq_none.mp hget row hmem
        simp [hkey] at hnone
    | some row' =>
        have hkey' : key row' = k := by simpa using List.find?_some hget
        rw [t.eq_of_key_eq (List.mem_of_find?_eq_some hget) hmem (hkey'.trans hkey.symm)]

theorem get_eq_none {t : Table β key} {k : κ} : t.get k = none ↔ ∀ row ∈ t.rows, key row ≠ k := by
  simp [get]

@[simp] theorem get_empty (k : κ) : (empty : Table β key).get k = none := rfl

/-- `session.merge`: the row takes the place of the row with its key. -/
def merge (t : Table β key) (row : β) : Table β key where
  rows := t.rows.filter (key · ≠ key row) ++ [row]
  nodup := by
    rw [List.map_append, List.nodup_append]
    refine ⟨t.nodup.sublist (List.filter_sublist.map key), by simp, ?_⟩
    intro k hk k' hk' heq
    obtain ⟨other, hother, rfl⟩ := List.mem_map.mp hk
    obtain rfl : k' = key row := by simpa using hk'
    simpa [heq] using (List.mem_filter.mp hother).2

@[simp] theorem mem_merge {t : Table β key} {row other : β} :
    other ∈ (t.merge row).rows ↔ other ∈ t.rows ∧ key other ≠ key row ∨ other = row := by
  simp [merge]

theorem get_merge (t : Table β key) (row : β) (k : κ) :
    (t.merge row).get k = if k = key row then some row else t.get k := by
  split
  · rename_i hk
    exact get_eq_some.mpr ⟨by simp, hk.symm⟩
  · rename_i hk
    cases hget : t.get k with
    | none =>
        refine get_eq_none.mpr ?_
        intro other hother
        rcases mem_merge.mp hother with ⟨hmem, -⟩ | rfl
        · exact get_eq_none.mp hget other hmem
        · exact fun heq => hk heq.symm
    | some other =>
        obtain ⟨hmem, hother⟩ := get_eq_some.mp hget
        exact get_eq_some.mpr ⟨mem_merge.mpr (.inl ⟨hmem, hother ▸ hk⟩), hother⟩

end Table

/-! ### Sorted listings -/

section Listing

variable {β L : Type}

/-- No two of the rows have the same rank. -/
def Ranked (rank : β → L) (rows : List β) : Prop :=
  ∀ a ∈ rows, ∀ b ∈ rows, rank a = rank b → a = b

theorem Ranked.subset {rank : β → L} {rows rows' : List β} (h : Ranked rank rows)
    (hsub : rows' ⊆ rows) : Ranked rank rows' := by
  intro a ha b hb
  exact h a (hsub ha) b (hsub hb)

variable [LinearOrder L] (rank : β → L)

/-- The rows in the order of their ranks. -/
def sortedBy (rows : List β) : List β := rows.insertionSort fun a b => rank a ≤ rank b

theorem perm_sortedBy (rows : List β) : (sortedBy rank rows).Perm rows :=
  List.perm_insertionSort _ rows

theorem nodup_sortedBy {rows : List β} (h : rows.Nodup) : (sortedBy rank rows).Nodup :=
  (perm_sortedBy rank rows).nodup_iff.mpr h

@[simp] theorem mem_sortedBy {rows : List β} {row : β} : row ∈ sortedBy rank rows ↔ row ∈ rows :=
  (perm_sortedBy rank rows).mem_iff

theorem pairwise_sortedBy (rows : List β) :
    (sortedBy rank rows).Pairwise fun a b => rank a ≤ rank b := by
  have htotal : Std.Total fun a b : β => rank a ≤ rank b := ⟨fun a b => le_total (rank a) (rank b)⟩
  have htrans : IsTrans β fun a b => rank a ≤ rank b := ⟨fun _ _ _ => le_trans⟩
  exact List.pairwise_insertionSort _ rows

variable {rank}

/-- Two sorted lists of the same rows are the same. -/
theorem eq_of_pairwise_of_perm {rows rows' : List β} (h : Ranked rank rows)
    (hrows : rows.Pairwise fun a b => rank a ≤ rank b)
    (hrows' : rows'.Pairwise fun a b => rank a ≤ rank b) (hperm : rows.Perm rows') :
    rows = rows' := by
  refine hperm.eq_of_pairwise ?_ hrows hrows'
  intro a b ha hb hab hba
  exact h a ha b (hperm.symm.subset hb) (le_antisymm hab hba)

/-- **A listing depends only on which rows there are.** -/
theorem sortedBy_congr {rows rows' : List β} (h : Ranked rank rows) (hperm : rows.Perm rows') :
    sortedBy rank rows = sortedBy rank rows' := by
  refine eq_of_pairwise_of_perm ?_ (pairwise_sortedBy rank rows) (pairwise_sortedBy rank rows') ?_
  · exact h.subset (perm_sortedBy rank rows).subset
  · exact (perm_sortedBy rank rows).trans (hperm.trans (perm_sortedBy rank rows').symm)

theorem sortedBy_ext {rows rows' : List β} (h : Ranked rank rows) (hn : rows.Nodup)
    (hn' : rows'.Nodup) (hmem : ∀ row, row ∈ rows ↔ row ∈ rows') :
    sortedBy rank rows = sortedBy rank rows' :=
  sortedBy_congr h ((List.perm_ext_iff_of_nodup hn hn').mpr hmem)

/-- **A listing may be restricted before it is sorted.** -/
theorem filter_sortedBy {rows : List β} (h : Ranked rank rows) (p : β → Bool) :
    (sortedBy rank rows).filter p = sortedBy rank (rows.filter p) := by
  have hperm : ((sortedBy rank rows).filter p).Perm (sortedBy rank (rows.filter p)) :=
    ((perm_sortedBy rank rows).filter p).trans (perm_sortedBy rank (rows.filter p)).symm
  refine eq_of_pairwise_of_perm ?_ ((pairwise_sortedBy rank rows).filter p)
    (pairwise_sortedBy rank _) hperm
  refine h.subset ?_
  intro row hrow
  exact (mem_sortedBy rank).mp (List.mem_of_mem_filter hrow)

theorem find?_eq_some_of_pairwise {rows : List β} {p : β → Bool} {row : β}
    (h : rows.Pairwise fun a b => rank a ≤ rank b) (hfind : rows.find? p = some row) :
    ∀ other ∈ rows, p other = true → rank row ≤ rank other := by
  induction rows with
  | nil => simp
  | cons first rest ih =>
      obtain ⟨hfirst, hrest⟩ := List.pairwise_cons.mp h
      intro other hother hp
      rw [List.find?_cons] at hfind
      split at hfind
      · obtain rfl := Option.some.inj hfind
        rcases List.mem_cons.mp hother with rfl | hother
        · exact le_refl _
        · exact hfirst other hother
      · rename_i hno
        rcases List.mem_cons.mp hother with rfl | hother
        · rw [hp] at hno
          cases hno
        · exact ih hrest hfind other hother hp

/-- **What is found in a listing is the first of its kind.** -/
theorem find?_sortedBy {rows : List β} (h : Ranked rank rows) {p : β → Bool} {row : β} :
    (sortedBy rank rows).find? p = some row ↔
      row ∈ rows ∧ p row = true ∧ ∀ other ∈ rows, p other = true → rank row ≤ rank other := by
  have hfirst := fun row => @find?_eq_some_of_pairwise β L _ rank (sortedBy rank rows) p row
    (pairwise_sortedBy rank rows)
  constructor
  · intro hfind
    refine ⟨(mem_sortedBy rank).mp (List.mem_of_find?_eq_some hfind), List.find?_some hfind, ?_⟩
    intro other hother
    exact hfirst row hfind other ((mem_sortedBy rank).mpr hother)
  · intro ⟨hmem, hp, hle⟩
    cases hfind : (sortedBy rank rows).find? p with
    | none =>
        have hno := List.find?_eq_none.mp hfind row ((mem_sortedBy rank).mpr hmem)
        exact absurd hp hno
    | some found =>
        have hfound := (mem_sortedBy rank).mp (List.mem_of_find?_eq_some hfind)
        have hle' := hfirst found hfind row ((mem_sortedBy rank).mpr hmem) hp
        rw [h found hfound row hmem (le_antisymm hle' (hle found hfound (List.find?_some hfind)))]

end Listing

end Launchplane
