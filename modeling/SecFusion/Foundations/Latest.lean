import SecFusion.Foundations.Dict

/-!
# The latest row of each key

A loop keeps, for each key, the row of the greatest rank, and among rows of the same rank the
one it saw first.  What it keeps is the *first maximum* of the rows of that key, which is
unique; rows that are put in front and do not tie with it leave it alone, or overtake it.

A query with an ordering clause takes the head of the sorted rows, which is the one that all
others follow.
-/

namespace Foundations

universe u v w

variable {ρ : Type u} {β : Type w} [LinearOrder β] {rank : ρ → β}

/-! ## Numbered rows -/

/-- The largest of the numbers from one is their count. -/
theorem foldl_max_range' (count : ℕ) : (List.range' 1 count).foldl max 0 = count := by
  induction count with
  | zero => rfl
  | succ count ih =>
      rw [List.range'_1_concat, List.foldl_append, ih]
      simp only [List.foldl_cons, List.foldl_nil]
      omega

/-! ## Ordered queries -/

variable {rows : List ρ} {row : ρ}

/-- All rows follow the head of their sorted list. -/
theorem of_head?_insertionSort {before : ρ → ρ → Prop} [DecidableRel before]
    [Std.Total before] [IsTrans ρ before]
    (heads : (rows.insertionSort before).head? = some row) :
    row ∈ rows ∧ ∀ other ∈ rows, before row other := by
  have sorted := List.pairwise_insertionSort before rows
  have same : ∀ {other}, other ∈ rows.insertionSort before ↔ other ∈ rows :=
    List.mem_insertionSort before
  obtain ⟨rest, sortedIs⟩ := List.head?_eq_some_iff.1 heads
  rw [sortedIs] at sorted same
  refine ⟨same.1 List.mem_cons_self, fun other member => ?_⟩
  rcases List.mem_cons.1 (same.2 member) with rfl | behind
  · exact (Std.Total.total other other).elim id id
  · exact List.rel_of_pairwise_cons sorted behind

/-- The head of a sorted list is the row that all others follow. -/
theorem head?_insertionSort_eq_some (before : ρ → ρ → Prop) [DecidableRel before]
    [Std.Total before] [IsTrans ρ before]
    (antisymm : ∀ other ∈ rows, before row other → before other row → other = row) :
    (rows.insertionSort before).head? = some row ↔ row ∈ rows ∧ ∀ other ∈ rows, before row other := by
  refine ⟨of_head?_insertionSort, ?_⟩
  rintro ⟨listed, leads⟩
  cases heads : (rows.insertionSort before).head? with
  | none =>
      rw [List.head?_eq_none_iff] at heads
      have member := (List.mem_insertionSort before).2 listed
      rw [heads] at member
      exact absurd member List.not_mem_nil
  | some head =>
      obtain ⟨member, first⟩ := of_head?_insertionSort heads
      rw [antisymm head member (leads head member) (first row listed)]

/-! ## First maxima -/

/-- The row is a maximum, and greater than all rows before it. -/
def IsFirstMax (rank : ρ → β) (rows : List ρ) (row : ρ) : Prop :=
  ∃ before after, rows = before ++ row :: after ∧
    (∀ other ∈ before, rank other < rank row) ∧ ∀ other ∈ after, rank other ≤ rank row

namespace IsFirstMax

variable {rows : List ρ} {row : ρ}

theorem mem (first : IsFirstMax rank rows row) : row ∈ rows := by
  obtain ⟨before, after, rfl, -, -⟩ := first
  simp

theorem le (first : IsFirstMax rank rows row) {other : ρ} (member : other ∈ rows) :
    rank other ≤ rank row := by
  obtain ⟨before, after, rfl, earlier, later⟩ := first
  rcases List.mem_append.1 member with here | here
  · exact (earlier other here).le
  rcases List.mem_cons.1 here with rfl | here
  · exact le_rfl
  · exact later other here

theorem singleton (row : ρ) : IsFirstMax rank [row] row :=
  ⟨[], [], rfl, by simp, by simp⟩

/-- A greater row at the end is the new first maximum. -/
theorem concat_of_lt (first : IsFirstMax rank rows row) {next : ρ} (greater : rank row < rank next) :
    IsFirstMax rank (rows ++ [next]) next :=
  ⟨rows, [], rfl, fun _ member => (first.le member).trans_lt greater, by simp⟩

/-- Another row at the end changes nothing. -/
theorem concat_of_le (first : IsFirstMax rank rows row) {next : ρ} (below : rank next ≤ rank row) :
    IsFirstMax rank (rows ++ [next]) row := by
  obtain ⟨before, after, rfl, earlier, later⟩ := first
  refine ⟨before, after ++ [next], by simp, earlier, fun other member => ?_⟩
  rcases List.mem_append.1 member with here | here
  · exact later other here
  · exact List.mem_singleton.1 here ▸ below

theorem unique (first : IsFirstMax rank rows row) {other : ρ}
    (second : IsFirstMax rank rows other) : row = other := by
  obtain ⟨before, after, split, earlier, later⟩ := first
  obtain ⟨before', after', split', earlier', later'⟩ := second
  rw [split] at split'
  rcases List.append_eq_append_iff.1 split' with ⟨middle, rfl, rest⟩ | ⟨middle, rfl, rest⟩
  · cases middle with
    | nil => exact (List.cons.inj rest).1
    | cons head middle =>
        obtain ⟨rfl, rfl⟩ := List.cons.inj rest
        have below := earlier' row (by simp)
        exact absurd (later other (by simp)) (not_le.2 below)
  · cases middle with
    | nil => exact (List.cons.inj rest).1.symm
    | cons head middle =>
        obtain ⟨rfl, rfl⟩ := List.cons.inj rest
        have below := earlier other (by simp)
        exact absurd (later' row (by simp)) (not_le.2 below)

/-- A first maximum that is not among the rows put in front was one before. -/
theorem of_append {added : List ρ} (first : IsFirstMax rank (added ++ rows) row)
    (notAdded : row ∉ added) : IsFirstMax rank rows row := by
  obtain ⟨before, after, split, earlier, later⟩ := first
  rcases List.append_eq_append_iff.1 split with ⟨middle, rfl, rest⟩ | ⟨middle, rfl, rest⟩
  · exact ⟨middle, after, rest, fun other member =>
      earlier other (List.mem_append_right _ member), later⟩
  · cases middle with
    | nil => exact ⟨[], after, by simpa using rest.symm, by simp, later⟩
    | cons head middle =>
        obtain ⟨rfl, -⟩ := List.cons.inj rest
        exact absurd (by simp) notAdded

end IsFirstMax

/-! ## The loop -/

namespace Dict

variable {κ : Type v} [DecidableEq κ] (key : ρ → κ) (rank : ρ → β)

/-- One round: the row is kept if its key is new, or if it is greater than the row that is kept
for its key. -/
def keepLatest (d : Dict κ ρ) (row : ρ) : Dict κ ρ :=
  match d.get? (key row) with
  | none => d.set (key row) row
  | some previous => if rank previous < rank row then d.set (key row) row else d

/-- The loop over all rows. -/
def latestBy (rows : List ρ) : Dict κ ρ := rows.foldl (keepLatest key rank) empty

variable {key rank}

theorem get?_keepLatest_of_ne {d : Dict κ ρ} {k : κ} (other : key row ≠ k) :
    (keepLatest key rank d row).get? k = d.get? k := by
  unfold keepLatest
  split
  · rw [get?_set, if_neg other]
  · split
    · rw [get?_set, if_neg other]
    · rfl

/-- What is kept for a key: nothing if there are no rows, and else their first maximum. -/
def KeepsFirstMax (rank : ρ → β) (rows : List ρ) : Option ρ → Prop
  | none => rows = []
  | some row => IsFirstMax rank rows row

theorem keepsFirstMax_latestBy (rows : List ρ) (k : κ) :
    KeepsFirstMax rank (rows.filter (key · = k)) ((latestBy key rank rows).get? k) := by
  induction rows using List.reverseRecOn with
  | nil => exact rfl
  | append_singleton rows row ih =>
      have round : latestBy key rank (rows ++ [row]) =
          keepLatest key rank (latestBy key rank rows) row := by
        simp [latestBy]
      rw [round, List.filter_append]
      by_cases same : key row = k
      swap
      · rw [get?_keepLatest_of_ne same]
        simpa [same] using ih
      subst same
      have added : [row].filter (fun other => key other = key row) = [row] := by simp
      rw [added]
      unfold keepLatest
      split
      next absent =>
        rw [absent] at ih
        rw [get?_set, if_pos rfl, show rows.filter _ = [] from ih]
        exact .singleton row
      next previous found =>
        rw [found] at ih
        split
        next greater =>
          rw [get?_set, if_pos rfl]
          exact IsFirstMax.concat_of_lt ih greater
        next below =>
          rw [found]
          exact IsFirstMax.concat_of_le ih (not_lt.1 below)

/-- The loop keeps the first maximum of the rows of a key. -/
theorem isFirstMax_of_latestBy {k : κ}
    (found : (latestBy key rank rows).get? k = some row) :
    IsFirstMax rank (rows.filter (key · = k)) row := by
  have keeps : KeepsFirstMax rank _ ((latestBy key rank rows).get? k) :=
    keepsFirstMax_latestBy rows k
  rwa [found] at keeps

theorem key_of_latestBy {k : κ}
    (found : (latestBy key rank rows).get? k = some row) : key row = k := by
  simpa using (List.mem_filter.1 (isFirstMax_of_latestBy found).mem).2

theorem exists_latestBy (member : row ∈ rows) :
    ∃ latest, (latestBy key rank rows).get? (key row) = some latest := by
  have keeps : KeepsFirstMax rank _ ((latestBy key rank rows).get? (key row)) :=
    keepsFirstMax_latestBy rows (key row)
  cases found : (latestBy key rank rows).get? (key row) with
  | some latest => exact ⟨latest, rfl⟩
  | none =>
      rw [found] at keeps
      have listed : row ∈ rows.filter (key · = key row) := List.mem_filter.2 ⟨member, by simp⟩
      rw [show rows.filter _ = [] from keeps] at listed
      exact absurd listed List.not_mem_nil

end Dict

end Foundations
