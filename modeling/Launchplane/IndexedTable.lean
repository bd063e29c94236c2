import Launchplane.Table

/-!
# Launchplane.IndexedTable

**Tables with a second unique index.** Beside the primary key such a table has an
index that not every row takes part in, and no two rows have the same value in it.
A write that would break one of the two is refused, so a table in which they do
not hold cannot be built.
-/

namespace Launchplane

/-- The rows of a table with the primary key `key` and the partial unique index `index`. -/
structure IndexedTable (β : Type) {κ ν : Type} (key : β → κ) (index : β → Option ν) extends
    Table β key where
  unique : ∀ a ∈ rows, ∀ b ∈ rows, ∀ value, index a = some value → index b = some value → a = b

namespace IndexedTable

variable {β κ ν : Type} {key : β → κ} {index : β → Option ν}

/-- A table without rows. -/
def empty : IndexedTable β key index := ⟨Table.empty, by simp⟩

@[simp] theorem rows_empty : (empty : IndexedTable β key index).rows = [] := rfl

/-- Whether a row with another key has the row's value in the index. -/
def Clashes (t : IndexedTable β key index) (row : β) : Prop :=
  ∃ other ∈ t.rows, key other ≠ key row ∧ (index other).isSome ∧ index other = index row

section Keys

variable [DecidableEq κ]

theorem unique_merge {t : IndexedTable β key index} {row : β} (h : ¬t.Clashes row) :
    ∀ a ∈ (t.merge row).rows, ∀ b ∈ (t.merge row).rows, ∀ value, index a = some value →
      index b = some value → a = b := by
  have hnone : ∀ other ∈ t.rows, key other ≠ key row → ∀ value, index other = some value →
      index row ≠ some value := fun other hother hkey value hvalue hrow =>
    h ⟨other, hother, hkey, by simp [hvalue], hvalue.trans hrow.symm⟩
  intro a ha b hb value hav hbv
  rcases Table.mem_merge.mp ha with ⟨ha, hka⟩ | ha
  · rcases Table.mem_merge.mp hb with ⟨hb, -⟩ | hb
    · exact t.unique a ha b hb value hav hbv
    · exact absurd (hb ▸ hbv) (hnone a ha hka value hav)
  · rcases Table.mem_merge.mp hb with ⟨hb, hkb⟩ | hb
    · exact absurd (ha ▸ hav) (hnone b hb hkb value hbv)
    · exact ha.trans hb.symm

/-- The rows without the row of a key. -/
def delete (t : IndexedTable β key index) (k : κ) : IndexedTable β key index where
  rows := t.rows.filter (key · ≠ k)
  nodup := t.nodup.sublist (List.filter_sublist.map key)
  unique a ha b hb := t.unique a (List.mem_of_mem_filter ha) b (List.mem_of_mem_filter hb)

@[simp] theorem mem_delete {t : IndexedTable β key index} {other : β} {k : κ} :
    other ∈ (t.delete k).rows ↔ other ∈ t.rows ∧ key other ≠ k := by
  simp [delete]

theorem get_delete (t : IndexedTable β key index) (k k' : κ) :
    (t.delete k).get k' = if k' = k then none else t.get k' := by
  split_ifs with h
  · exact Table.get_eq_none.mpr fun other hother => h ▸ (mem_delete.mp hother).2
  · refine Option.ext fun other => ?_
    simp only [Table.get_eq_some, mem_delete]
    constructor
    · rintro ⟨⟨hmem, -⟩, hkey⟩
      exact ⟨hmem, hkey⟩
    · rintro ⟨hmem, rfl⟩
      exact ⟨⟨hmem, h⟩, rfl⟩

end Keys

variable [DecidableEq ν]

/-- The row with a value in the index. -/
def find (t : IndexedTable β key index) (value : ν) : Option β :=
  t.rows.find? (index · = some value)

theorem find_eq_some {t : IndexedTable β key index} {value : ν} {row : β} :
    t.find value = some row ↔ row ∈ t.rows ∧ index row = some value := by
  constructor
  · intro h
    exact ⟨List.mem_of_find?_eq_some h, by simpa using List.find?_some h⟩
  · intro ⟨hmem, hvalue⟩
    cases hfind : t.find value with
    | none => exact absurd hvalue (by simpa using List.find?_eq_none.mp hfind row hmem)
    | some other =>
        have hother : index other = some value := by simpa using List.find?_some hfind
        rw [t.unique other (List.mem_of_find?_eq_some hfind) row hmem value hother hvalue]

variable [DecidableEq κ]

instance decidableClashes (t : IndexedTable β key index) (row : β) : Decidable (t.Clashes row) :=
  inferInstanceAs (Decidable (∃ other ∈ t.rows, _))

/-- The row takes the place of the row with its key; `none` where the index refuses it. -/
def write (t : IndexedTable β key index) (row : β) : Option (IndexedTable β key index) :=
  if h : t.Clashes row then none else some ⟨t.merge row, unique_merge h⟩

/-- A new row; `none` where the key or the index refuses it. -/
def insert (t : IndexedTable β key index) (row : β) : Option (IndexedTable β key index) :=
  if (t.get (key row)).isSome then none else t.write row

variable {t t' : IndexedTable β key index} {row : β}

theorem write_eq_some : t.write row = some t' ↔ ¬t.Clashes row ∧ t'.toTable = t.merge row := by
  unfold write
  split_ifs with h
  · simp [h]
  · simp only [Option.some.injEq, h, not_false_eq_true, true_and]
    constructor
    · rintro rfl
      rfl
    · intro htable
      cases t'
      simp_all

theorem insert_eq_some :
    t.insert row = some t' ↔ t.get (key row) = none ∧ t.write row = some t' := by
  unfold insert
  split_ifs with h
  · simp [Option.isSome_iff_ne_none.mp h]
  · simp only [Option.not_isSome_iff_eq_none.mp h, true_and]

theorem get_of_write (h : t.write row = some t') (k : κ) :
    t'.get k = if k = key row then some row else t.get k := by
  rw [(write_eq_some.mp h).2, Table.get_merge]

end IndexedTable

end Launchplane
