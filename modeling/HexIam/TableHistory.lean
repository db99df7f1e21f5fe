import HexIam.KeyedTable

/-!
# Where the rows of a table come from

A statement inserts rows, marks rows in place and removes rows.  This file
records, for two states of a table, the origin of every row after and the fate
of every row before, with the rule for each operation of a table.
-/

namespace KeyedTable

variable {Row Key : Type} {key : Row → Key}

/-- Every row after is a row from before, perhaps marked, or inserted, and every
row before is still there, perhaps marked, or removed. -/
structure Moves (marks : Row → Row → Prop) (inserts removes : Row → Prop)
    (before after : KeyedTable Row key) : Prop where
  origin : ∀ row ∈ after,
    (∃ old ∈ before, row = old ∨ marks old row) ∨ inserts row
  fate : ∀ old ∈ before,
    (∃ row ∈ after, row = old ∨ marks old row) ∨ removes old

variable {marks : Row → Row → Prop} {inserts removes : Row → Prop}
variable {table after : KeyedTable Row key}

theorem Moves.refl : Moves marks inserts removes table table where
  origin row rowMem := .inl ⟨row, rowMem, .inl rfl⟩
  fate old oldMem := .inl ⟨old, oldMem, .inl rfl⟩

theorem Moves.insert [DecidableEq Key] {row : Row}
    (inserted : table.insert row = some after) (allowed : inserts row) :
    Moves marks inserts removes table after where
  origin held heldMem := by
    rcases (mem_of_insert inserted).mp heldMem with before | rfl
    · exact .inl ⟨held, before, .inl rfl⟩
    · exact .inr allowed
  fate old oldMem :=
    .inl ⟨old, (mem_of_insert inserted).mpr (.inl oldMem), .inl rfl⟩

theorem Moves.update {selected : Row → Bool} {change : Row → Row}
    (keeps : ∀ row, key (change row) = key row)
    (allowed : ∀ row, selected row = true → marks row (change row)) :
    Moves marks inserts removes table (table.update selected change keeps) where
  origin row rowMem := by
    obtain ⟨old, oldMem, rowEq⟩ := (mem_update keeps).mp rowMem
    refine .inl ⟨old, oldMem, ?_⟩
    split at rowEq
    case isTrue isSelected => exact .inr (rowEq ▸ allowed old isSelected)
    case isFalse => exact .inl rowEq
  fate old oldMem := by
    refine .inl ⟨_, (mem_update keeps).mpr ⟨old, oldMem, rfl⟩, ?_⟩
    split
    case isTrue isSelected => exact .inr (allowed old isSelected)
    case isFalse => exact .inl rfl

theorem Moves.delete {selected : Row → Bool}
    (allowed : ∀ row, selected row = true → removes row) :
    Moves marks inserts removes table (table.delete selected) where
  origin row rowMem := .inl ⟨row, (mem_delete.mp rowMem).1, .inl rfl⟩
  fate old oldMem := by
    cases isSelected : selected old with
    | true => exact .inr (allowed old isSelected)
    | false => exact .inl ⟨old, mem_delete.mpr ⟨oldMem, isSelected⟩, .inl rfl⟩

end KeyedTable
