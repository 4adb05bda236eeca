import Mathlib.Data.List.Dedup
import Mathlib.Data.List.Perm.Subperm

/-!
# Disagreements between rows

Rows are grouped by a key, and those of one key by a value.  Rows disagree when their key
has more than one value; which rows disagree does not depend on their order, and more rows
only bring in more disagreement.
-/

namespace Foundations

universe u v w

variable {α : Type u} {κ : Type v} {β : Type w} [DecidableEq κ] [DecidableEq β]
variable (key : α → κ) (value : α → β)

def valuesOf (rows : List α) (wanted : κ) : List β :=
  ((rows.filter fun row => key row = wanted).map value).dedup

/-- The rows whose key has more than one value. -/
def disagreeing (rows : List α) : List α :=
  rows.filter fun row => 1 < (valuesOf key value rows (key row)).length

variable {key value} {rows others : List α}

theorem mem_valuesOf {wanted : κ} {found : β} :
    found ∈ valuesOf key value rows wanted ↔ ∃ row ∈ rows, key row = wanted ∧ value row = found := by
  simp [valuesOf, and_assoc]

/-- A row disagrees with another one of its key. -/
theorem mem_disagreeing {row : α} :
    row ∈ disagreeing key value rows ↔
      row ∈ rows ∧ ∃ other ∈ rows, key other = key row ∧ value other ≠ value row := by
  rw [disagreeing, List.mem_filter, decide_eq_true_eq]
  refine and_congr_right fun member => ?_
  have own : value row ∈ valuesOf key value rows (key row) :=
    mem_valuesOf.2 ⟨row, member, rfl, rfl⟩
  have nodup : (valuesOf key value rows (key row)).Nodup := List.nodup_dedup _
  constructor
  · intro several
    -- each value is listed once, so of several some other is listed
    have another : ∃ found ∈ valuesOf key value rows (key row), found ≠ value row := by
      by_contra alone
      push Not at alone
      have single : valuesOf key value rows (key row) ⊆ [value row] := fun found listed =>
        List.mem_singleton.2 (alone found listed)
      have bound := (nodup.subperm single).length_le
      rw [List.length_singleton] at bound
      omega
    obtain ⟨found, listed, differs⟩ := another
    obtain ⟨other, otherMember, sameKey, rfl⟩ := mem_valuesOf.1 listed
    exact ⟨other, otherMember, sameKey, differs⟩
  · rintro ⟨other, otherMember, sameKey, differs⟩
    have pair : [value other, value row].Nodup := by simpa using differs
    have listed : [value other, value row] ⊆ valuesOf key value rows (key row) := by
      intro found chosen
      rcases List.mem_pair.1 chosen with rfl | rfl
      · exact mem_valuesOf.2 ⟨other, otherMember, sameKey, rfl⟩
      · exact own
    exact (pair.subperm listed).length_le

theorem disagreeing_ne_nil_iff :
    disagreeing key value rows ≠ [] ↔
      ∃ first ∈ rows, ∃ second ∈ rows, key first = key second ∧ value first ≠ value second := by
  constructor
  · intro found
    obtain ⟨row, member⟩ := List.exists_mem_of_ne_nil _ found
    obtain ⟨stored, other, otherStored, sameKey, differs⟩ := mem_disagreeing.1 member
    exact ⟨other, otherStored, row, stored, sameKey, differs⟩
  · rintro ⟨first, firstStored, second, secondStored, sameKey, differs⟩
    exact List.ne_nil_of_mem
      (mem_disagreeing.2 ⟨secondStored, first, firstStored, sameKey, differs⟩)

/-- More rows disagree more. -/
theorem disagreeing_subset (within : rows ⊆ others) :
    disagreeing key value rows ⊆ disagreeing key value others := by
  intro row member
  obtain ⟨stored, other, otherStored, sameKey, differs⟩ := mem_disagreeing.1 member
  exact mem_disagreeing.2 ⟨within stored, other, within otherStored, sameKey, differs⟩

end Foundations
