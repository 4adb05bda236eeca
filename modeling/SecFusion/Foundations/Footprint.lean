import SecFusion.Foundations.Table

/-!
# Rows that are left alone

A transaction that works on one thing leaves the rows of every other as they are.
`SameRows kept table next` says so of the rows for which `kept` holds, and
`SameRows.of_get?` reads it off what the transaction does key by key: a key either keeps
its row, or bears only rows for which `kept` does not hold.
-/

namespace Foundations

universe u v

variable {ρ : Type u} {κ : Type v} {key : ρ → κ} {kept : ρ → Prop}

/-- **The rows for which `kept` holds** are the same in both tables. -/
def SameRows (kept : ρ → Prop) (table next : Table ρ κ key) : Prop :=
  ∀ row, kept row → (row ∈ next.rows ↔ row ∈ table.rows)

namespace SameRows

variable {table middle next : Table ρ κ key}

theorem refl (table : Table ρ κ key) : SameRows kept table table := fun _ _ => Iff.rfl

theorem trans (first : SameRows kept table middle) (second : SameRows kept middle next) :
    SameRows kept table next := fun row holds =>
  (second row holds).trans (first row holds)

/-- A row that is appended is seen only where `kept` holds of it. -/
theorem of_append {row : ρ} (rows : next.rows = table.rows ++ [row]) (other : ¬ kept row) :
    SameRows kept table next := by
  intro old holds
  rw [rows, mem_append, mem_singleton]
  constructor
  · rintro (member | rfl)
    · exact member
    · exact absurd holds other
  · exact .inl

variable [DecidableEq κ]

/-- Each key keeps its row, or bears no row for which `kept` holds. -/
theorem of_get? (keys : ∀ k, next.get? k = table.get? k ∨
    ∀ row, next.get? k = some row ∨ table.get? k = some row → ¬ kept row) :
    SameRows kept table next := by
  intro row holds
  rcases keys (key row) with same | unkept
  · constructor
    · intro member
      have found := get?_of_mem member
      rw [same] at found
      exact mem_of_get? found
    · intro member
      have found := get?_of_mem member
      rw [← same] at found
      exact mem_of_get? found
  · constructor
    · exact fun member => absurd holds (unkept row (.inl (get?_of_mem member)))
    · exact fun member => absurd holds (unkept row (.inr (get?_of_mem member)))

/-- An insertion is seen only where `kept` holds of the new row. -/
theorem of_insert? {row : ρ} (inserted : table.insert? row = some next) (other : ¬ kept row) :
    SameRows kept table next :=
  of_append (insert?_eq_some inserted).1 other

end SameRows

end Foundations
