import Mathlib.Data.List.Nodup

/-!
# Tables with a primary key

A table is a list of rows whose keys are distinct, so that a value of the type
already satisfies its primary-key constraint.  The operations are the ones a
single SQL statement performs: select, insert, upsert, update and delete by a
row predicate.
-/

/-- Rows with distinct keys. -/
structure KeyedTable (Row : Type) {Key : Type} (key : Row → Key) where
  rows : List Row
  distinct : (rows.map key).Nodup

namespace KeyedTable

variable {Row Key : Type} {key : Row → Key}

instance : Membership Row (KeyedTable Row key) where
  mem table row := row ∈ table.rows

/-- The table without rows. -/
def empty : KeyedTable Row key :=
  ⟨[], List.nodup_nil⟩

/-- The table of one row. -/
def single (row : Row) : KeyedTable Row key :=
  ⟨[row], List.nodup_singleton _⟩

/-- The rows a `WHERE` clause keeps. -/
def select (table : KeyedTable Row key) (keep : Row → Bool) : List Row :=
  table.rows.filter keep

/-- The row with a given key. -/
def lookup [DecidableEq Key] (table : KeyedTable Row key) (k : Key) :
    Option Row :=
  table.rows.find? fun row => key row = k

/-- Insert a row; `none` when its key is taken. -/
def insert [DecidableEq Key] (table : KeyedTable Row key) (row : Row) :
    Option (KeyedTable Row key) :=
  if taken : key row ∈ table.rows.map key then none
  else some {
    rows := table.rows ++ [row]
    distinct := by
      rw [List.map_append, List.map_singleton, List.nodup_append]
      refine ⟨table.distinct, List.nodup_singleton _, ?_⟩
      intro first firstMem second secondMem same
      rw [List.mem_singleton] at secondMem
      exact taken (secondMem ▸ same ▸ firstMem) }

/-- Change the rows a `WHERE` clause selects; the key of a row stays. -/
def update (table : KeyedTable Row key) (selected : Row → Bool)
    (change : Row → Row) (keeps : ∀ row, key (change row) = key row) :
    KeyedTable Row key where
  rows := table.rows.map fun row => if selected row then change row else row
  distinct := by
    have keys : (table.rows.map fun row =>
        if selected row then change row else row).map key =
          table.rows.map key := by
      rw [List.map_map]
      refine List.map_congr_left fun row _ => ?_
      by_cases isSelected : selected row <;> simp [isSelected, keeps]
    rw [keys]
    exact table.distinct

/-- Remove the rows a `WHERE` clause selects. -/
def delete (table : KeyedTable Row key) (selected : Row → Bool) :
    KeyedTable Row key where
  rows := table.rows.filter fun row => !selected row
  distinct := table.distinct.sublist (List.filter_sublist.map key)

/-- Insert a row, or change the row that holds its key. -/
def upsert [DecidableEq Key] (table : KeyedTable Row key) (row : Row)
    (change : Row → Row) (keeps : ∀ row, key (change row) = key row) :
    KeyedTable Row key :=
  (table.insert row).getD
    (table.update (fun held => key held = key row) change keeps)

section Lemmas

variable {table : KeyedTable Row key} {row : Row}

theorem mem_def : row ∈ table ↔ row ∈ table.rows :=
  Iff.rfl

@[simp]
theorem not_mem_empty : ¬ row ∈ (empty : KeyedTable Row key) :=
  List.not_mem_nil

@[simp]
theorem rows_single : (single row : KeyedTable Row key).rows = [row] :=
  rfl

theorem mem_select {keep : Row → Bool} :
    row ∈ table.select keep ↔ row ∈ table ∧ keep row = true :=
  List.mem_filter

theorem eq_of_key_eq {other : Row} (rowMem : row ∈ table)
    (otherMem : other ∈ table) (same : key row = key other) : row = other :=
  List.inj_on_of_nodup_map table.distinct rowMem otherMem same

theorem lookup_eq_some [DecidableEq Key] {k : Key} :
    table.lookup k = some row ↔ row ∈ table ∧ key row = k := by
  constructor
  · intro found
    have keyEq : key row = k := by
      simpa using List.find?_some found
    exact ⟨List.mem_of_find?_eq_some found, keyEq⟩
  · rintro ⟨rowMem, keyEq⟩
    cases found : table.lookup k with
    | none =>
        have absent := List.find?_eq_none.mp found row rowMem
        simp [keyEq] at absent
    | some other =>
        have otherKey : key other = k := by
          simpa using List.find?_some found
        have otherMem : other ∈ table := List.mem_of_find?_eq_some found
        rw [eq_of_key_eq otherMem rowMem (otherKey.trans keyEq.symm)]

theorem lookup_eq_none [DecidableEq Key] {k : Key} :
    table.lookup k = none ↔ ∀ row ∈ table, key row ≠ k := by
  simp [lookup, mem_def]

theorem insert_eq_some [DecidableEq Key] {after : KeyedTable Row key} :
    table.insert row = some after ↔
      (∀ held ∈ table, key held ≠ key row) ∧
        after.rows = table.rows ++ [row] := by
  unfold insert
  split
  case isTrue taken =>
    obtain ⟨held, heldMem, keyEq⟩ := List.mem_map.mp taken
    simp only [reduceCtorEq, false_iff, not_and]
    intro free
    exact absurd keyEq (free held heldMem)
  case isFalse free =>
    rw [Option.some.injEq]
    constructor
    · rintro rfl
      exact ⟨fun held heldMem keyEq =>
        free (keyEq ▸ List.mem_map_of_mem heldMem), rfl⟩
    · rintro ⟨-, rowsEq⟩
      cases after
      simp_all

theorem insert_eq_none [DecidableEq Key] :
    table.insert row = none ↔ ∃ held ∈ table, key held = key row := by
  simp [insert, mem_def]

theorem insert_of_taken [DecidableEq Key] (taken : table.lookup (key row) ≠ none) :
    table.insert row = none := by
  obtain ⟨held, found⟩ := Option.ne_none_iff_exists'.mp taken
  exact insert_eq_none.mpr ⟨held, lookup_eq_some.mp found⟩

theorem mem_of_insert [DecidableEq Key] {after : KeyedTable Row key}
    (inserted : table.insert row = some after) {held : Row} :
    held ∈ after ↔ held ∈ table ∨ held = row := by
  rw [mem_def, (insert_eq_some.mp inserted).2]
  simp [mem_def]

theorem exists_insert [DecidableEq Key]
    (free : ∀ held ∈ table, key held ≠ key row) :
    ∃ after, table.insert row = some after ∧ after.lookup (key row) = some row := by
  cases inserted : table.insert row with
  | none =>
      obtain ⟨held, heldMem, same⟩ := insert_eq_none.mp inserted
      exact absurd same (free held heldMem)
  | some after =>
      exact ⟨after, rfl,
        lookup_eq_some.mpr ⟨(mem_of_insert inserted).mpr (.inr rfl), rfl⟩⟩

/-- A `WHERE` clause that no row satisfies finds none. -/
theorem head?_select_eq_none {keep : Row → Bool}
    (none : ∀ held ∈ table, keep held = false) :
    (table.select keep).head? = .none := by
  simpa [select, mem_def] using none

theorem select_eq_singleton {keep : Row → Bool} (rowMem : row ∈ table)
    (kept : keep row = true)
    (only : ∀ other ∈ table, keep other = true → key other = key row) :
    table.select keep = [row] := by
  have nodup : (table.select keep).Nodup :=
    (List.Nodup.of_map key table.distinct).filter _
  refine List.perm_singleton.mp
    ((List.perm_ext_iff_of_nodup nodup (List.nodup_singleton row)).mpr ?_)
  intro other
  rw [mem_select, List.mem_singleton]
  constructor
  · rintro ⟨otherMem, otherKept⟩
    exact eq_of_key_eq otherMem rowMem (only other otherMem otherKept)
  · rintro rfl
    exact ⟨rowMem, kept⟩

theorem mem_update {selected : Row → Bool} {change : Row → Row}
    (keeps : ∀ row, key (change row) = key row) :
    row ∈ table.update selected change keeps ↔
      ∃ held ∈ table, row = if selected held then change held else held := by
  constructor
  · intro rowMem
    obtain ⟨held, heldMem, rowEq⟩ := List.mem_map.mp rowMem
    exact ⟨held, heldMem, rowEq.symm⟩
  · rintro ⟨held, heldMem, rowEq⟩
    exact List.mem_map.mpr ⟨held, heldMem, rowEq.symm⟩

/-- What an updated table holds under each key. -/
theorem lookup_update [DecidableEq Key] {selected : Row → Bool}
    {change : Row → Row} (keeps : ∀ row, key (change row) = key row) (k : Key) :
    (table.update selected change keeps).lookup k =
      (table.lookup k).map fun row => if selected row then change row else row := by
  have keyOf (row : Row) :
      key (if selected row then change row else row) = key row := by
    split
    · exact keeps row
    · rfl
  refine Option.ext fun row => ?_
  rw [lookup_eq_some, mem_update, Option.map_eq_some_iff]
  constructor
  · rintro ⟨⟨held, heldMem, rfl⟩, keyEq⟩
    exact ⟨held, lookup_eq_some.mpr ⟨heldMem, (keyOf held).symm.trans keyEq⟩, rfl⟩
  · rintro ⟨held, found, rfl⟩
    obtain ⟨heldMem, keyEq⟩ := lookup_eq_some.mp found
    exact ⟨⟨held, heldMem, rfl⟩, (keyOf held).trans keyEq⟩

theorem mem_delete {selected : Row → Bool} :
    row ∈ table.delete selected ↔ row ∈ table ∧ selected row = false := by
  simp [mem_def, delete]

/-- Every row of an upserted table is an old one, the new one, or the changed
version of the old row with the new key. -/
theorem mem_upsert [DecidableEq Key] {held : Row} {change : Row → Row}
    (keeps : ∀ row, key (change row) = key row) :
    held ∈ table.upsert row change keeps ↔
      (held ∈ table ∧ key held ≠ key row) ∨
      ((∀ other ∈ table, key other ≠ key row) ∧ held = row) ∨
      ∃ other ∈ table, key other = key row ∧ held = change other := by
  unfold upsert
  cases inserted : table.insert row with
  | none =>
      obtain ⟨other, otherMem, otherKey⟩ := insert_eq_none.mp inserted
      rw [Option.getD_none, mem_update]
      constructor
      · rintro ⟨before, beforeMem, heldEq⟩
        by_cases same : key before = key row
        · exact .inr (.inr ⟨before, beforeMem, same, by simpa [same] using heldEq⟩)
        · have heldEq : held = before := by simpa [same] using heldEq
          exact .inl ⟨heldEq ▸ beforeMem, heldEq ▸ same⟩
      · rintro (⟨heldMem, away⟩ | ⟨free, -⟩ | ⟨before, beforeMem, same, rfl⟩)
        · exact ⟨held, heldMem, by simp [away]⟩
        · exact absurd otherKey (free other otherMem)
        · exact ⟨before, beforeMem, by simp [same]⟩
  | some after =>
      have free := (insert_eq_some.mp inserted).1
      rw [Option.getD_some, mem_of_insert inserted]
      constructor
      · rintro (heldMem | rfl)
        · exact .inl ⟨heldMem, free held heldMem⟩
        · exact .inr (.inl ⟨free, rfl⟩)
      · rintro (⟨heldMem, -⟩ | ⟨-, rfl⟩ | ⟨other, otherMem, same, -⟩)
        · exact .inl heldMem
        · exact .inr rfl
        · exact absurd same (free other otherMem)

theorem lookup_upsert [DecidableEq Key] {change : Row → Row}
    (keeps : ∀ row, key (change row) = key row) (k : Key) :
    (table.upsert row change keeps).lookup k =
      if k = key row then some ((table.lookup k).elim row change)
      else table.lookup k := by
  split
  case isTrue same =>
    subst same
    refine lookup_eq_some.mpr ?_
    cases found : table.lookup (key row) with
    | none =>
        exact ⟨(mem_upsert keeps).mpr
          (.inr (.inl ⟨lookup_eq_none.mp found, rfl⟩)), rfl⟩
    | some held =>
        obtain ⟨heldMem, heldKey⟩ := lookup_eq_some.mp found
        exact ⟨(mem_upsert keeps).mpr
          (.inr (.inr ⟨held, heldMem, heldKey, rfl⟩)), (keeps held).trans heldKey⟩
  case isFalse other =>
    refine Option.ext fun held => ?_
    rw [lookup_eq_some, lookup_eq_some]
    refine and_congr_left fun heldKey => ?_
    have away : key held ≠ key row := heldKey ▸ other
    rw [mem_upsert keeps]
    constructor
    · rintro (⟨heldMem, -⟩ | ⟨-, rfl⟩ | ⟨before, -, same, rfl⟩)
      · exact heldMem
      · exact absurd rfl away
      · exact absurd ((keeps before).trans same) away
    · exact fun heldMem => .inl ⟨heldMem, away⟩

end Lemmas

end KeyedTable
